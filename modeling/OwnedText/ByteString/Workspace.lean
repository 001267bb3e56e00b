import OwnedText.ByteString.Basic

/-! # A workspace of string variables

A workspace holds a heap and a row of variables, each unset or holding a byte string. An alias made
from a variable borrows it: as long as some variable holds that alias, the lender can be neither
changed nor released. Moving the alias hands the borrow on; replacing, releasing or moving out of it
ends the borrow.

Every action is checked before it changes anything, first for variables that it reads and that are
unset, then for variables that it changes and that are borrowed.
-/

namespace OwnedText

/-- A string, and the variable it was aliased from if it is an alias made here. -/
structure Variable where
  string : ByteString
  lender : Option Nat
deriving DecidableEq

structure Workspace where
  heap : Heap
  nextSource : Nat
  cells : List (Option Variable)

namespace Workspace

/-- The moves of a run. Numbers name variables. -/
inductive Action where
  | refuse (size : Nat)
  | literal (target : Nat) (bytes : List UInt8)
  | bytes (target : Nat) (bytes : List UInt8)
  | empty (target : Nat)
  | take (source target : Nat)
  | aliasOf (lender target : Nat)
  | copy (source target : Nat)
  | release (source : Nat)
  | compare (left right : Nat)
  | describe (source : Nat)
deriving DecidableEq, Repr

/-- What a step answers. -/
inductive Response where
  | done
  | unset
  | borrowed
  | interiorNul (failure : InteriorNul)
  | moved (sameData : Bool)
  | copied
  | failed (cause : AllocationError)
  | compared (equal : Bool)
  | described (text : String)
deriving DecidableEq, Repr

structure Step where
  workspace : Workspace
  response : Response
  events : List Event

/-- Unset variables, and a heap without blocks. -/
def ofCount (count : Nat) : Workspace := ⟨.empty, 0, List.replicate count none⟩

/-- A variable; one that does not exist is unset. -/
def held? (workspace : Workspace) (index : Nat) : Option Variable :=
  (workspace.cells[index]?).getD none

/-- Some variable holds an alias made from this one. -/
def isBorrowed (workspace : Workspace) (index : Nat) : Bool :=
  workspace.cells.any fun content => content.any (·.lender == some index)

/-- Put a content into a variable as it is, without looking at what was there. -/
def set (workspace : Workspace) (index : Nat) (content : Option Variable) : Workspace :=
  { workspace with cells := workspace.cells.set index content }

def withHeap (workspace : Workspace) (heap : Heap) : Workspace := { workspace with heap := heap }

/-- Give back what a content owns. -/
def releaseContent (heap : Heap) (content : Option Variable) : Heap :=
  match content with
  | none => heap
  | some held => held.string.release heap

/-- Put a content into a variable and drop what was there. Without such a variable the content itself
is dropped. -/
def store (workspace : Workspace) (index : Nat) (content : Option Variable) : Workspace :=
  if index < workspace.cells.length then
    (workspace.withHeap (releaseContent workspace.heap (workspace.held? index))).set index content
  else workspace.withHeap (releaseContent workspace.heap content)

/-- Drop everything. -/
def clear (workspace : Workspace) : Workspace :=
  ⟨workspace.cells.foldl releaseContent workspace.heap, workspace.nextSource,
    workspace.cells.map fun _ => none⟩

/-- The variables that an action reads. -/
def Action.reads : Action → List Nat
  | .refuse _ | .literal .. | .bytes .. | .empty _ => []
  | .take source _ | .aliasOf source _ | .copy source _ | .release source | .describe source => [source]
  | .compare left right => [left, right]

/-- The variables that an action changes. -/
def Action.changes : Action → List Nat
  | .refuse _ | .compare .. | .describe _ => []
  | .literal target _ | .bytes target _ | .empty target | .aliasOf _ target | .copy _ target => [target]
  | .take source target => [target, source]
  | .release source => [source]

/-- An alias may not replace the variable that it shows. -/
def Action.showsItself : Action → Bool
  | .aliasOf lender target => lender == target
  | _ => false

/-- Carry out an action whose variables are set and free; `string` gives what a variable holds. -/
def perform (workspace : Workspace) (string : Nat → ByteString) : Action → Step
  | .refuse size => ⟨workspace.withHeap (workspace.heap.refusing size), .done, []⟩
  | .literal target bytes =>
    match ByteString.ofText? workspace.nextSource bytes with
    | .error failure => ⟨workspace, .interiorNul failure, []⟩
    | .ok literal =>
      ⟨{ workspace with nextSource := workspace.nextSource + 1 }.store target (some ⟨literal, none⟩),
        .done, []⟩
  | .bytes target bytes =>
    ⟨{ workspace with nextSource := workspace.nextSource + 1 }.store target
      (some ⟨ByteString.ofBytes workspace.nextSource bytes, none⟩), .done, []⟩
  | .empty target => ⟨workspace.store target (some ⟨ByteString.empty, none⟩), .done, []⟩
  | .take source target =>
    let (moved, left) := (string source).take
    let lender := (workspace.held? source).bind Variable.lender
    let emptied := workspace.set source (some ⟨left, none⟩)
    ⟨emptied.store target (some ⟨moved, lender⟩),
      .moved (decide (moved.address = (string source).address)), []⟩
  | .aliasOf lender target =>
    ⟨workspace.store target (some ⟨(string lender).aliasOf, some lender⟩), .done, []⟩
  | .copy source target =>
    let reply := (string source).copy workspace.heap
    match reply.value with
    | .error cause => ⟨workspace.withHeap reply.heap, .failed cause, reply.events⟩
    | .ok copied =>
      ⟨(workspace.withHeap reply.heap).store target (some ⟨copied, none⟩), .copied, reply.events⟩
  | .release source => ⟨workspace.store source none, .done, []⟩
  | .compare left right => ⟨workspace, .compared ((string left).agrees (string right)), []⟩
  | .describe source => ⟨workspace, .described (string source).describe, []⟩

/-- Carry out one action, if its variables are set and free. -/
def step (workspace : Workspace) (action : Action) : Step :=
  if action.reads.any fun index => (workspace.held? index).isNone then ⟨workspace, .unset, []⟩
  else if action.changes.any workspace.isBorrowed || action.showsItself then
    ⟨workspace, .borrowed, []⟩
  else
    workspace.perform
      (fun index => ((workspace.held? index).map Variable.string).getD ByteString.empty) action

/-- Carry out actions one after the other. -/
def run (workspace : Workspace) : List Action → Workspace
  | [] => workspace
  | action :: rest => (workspace.step action).workspace.run rest

/-- The lowest variable whose data starts where this one's does. Strings without data, and those with
neither bytes nor a terminator, share with nobody. -/
def firstSharing (workspace : Workspace) (index : Nat) : Option Nat :=
  match workspace.held? index with
  | none => none
  | some held =>
    if held.string.stored.isEmpty then none
    else
      workspace.cells.findIdx? fun content => content.any fun other =>
        !other.string.stored.isEmpty && other.string.address == held.string.address

end Workspace

end OwnedText
