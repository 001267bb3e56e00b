import OwnedText.Memory.Bundle

/-! # A workbench of slots and bundles

A workbench holds a heap together with every place that can own a buffer: a row of slots and a row of
bundles over one element type. Actions move buffers between those places. An occupied place that
receives a new buffer drops the old one, after the new one was made; a buffer that is put where there
is no place is dropped at once. A run is a list of actions, so what a run keeps is what a step keeps.
-/

namespace OwnedText

structure Workbench {α : Type} (element : Element α) where
  heap : Heap
  slots : List (Option Buffer)
  bundles : List (Bundle element)

namespace Workbench

/-- The moves of a run. Numbers name places; sizes and offsets count bytes, except that `put` counts
elements. -/
inductive Action (α : Type) where
  | refuse (size : Nat)
  | allocate (slot size : Nat)
  | tryAllocate (slot size : Nat)
  | placeEmpty (slot : Nat)
  | release (slot : Nat)
  | take (source target : Nat)
  | resize (source target size : Nat)
  | write (slot offset : Nat) (content : List UInt8)
  | fill (slot seed : Nat)
  | clearBundle (bundle : Nat)
  | assemble (bundle slot : Nat) (length : UInt32) (flags : Flags)
  | takeData (bundle slot : Nat)
  | takeParts (bundle slot : Nat)
  | setFlags (bundle : Nat) (flags : Flags)
  | put (bundle offset : Nat) (values : List α)
deriving DecidableEq, Repr

/-- What a step answers. -/
inductive Response where
  | done
  | present (isPresent : Bool)
  | allocated
  | failed (cause : AllocationError)
  | taken (isPresent cleared sameBuffer : Bool)
  | resized (isPresent cleared : Bool)
  | written (isPresent : Bool)
  | outOfRange
  | rejected (cause : BufferTooSmall)
  | parts (length : UInt32) (flags : Flags)
deriving DecidableEq, Repr

variable {α : Type} {element : Element α}

/-- One step of a run: the workbench afterwards, the answer and the events. -/
structure Step (element : Element α) where
  bench : Workbench element
  response : Response
  events : List Event

/-- Empty places, and a heap without blocks. -/
def empty (slotCount bundleCount : Nat) : Workbench element :=
  ⟨.empty, List.replicate slotCount none, List.replicate bundleCount .empty⟩

/-- What a slot holds; a slot that does not exist is absent. -/
def slot (bench : Workbench element) (index : Nat) : Option Buffer :=
  (bench.slots[index]?).getD none

/-- A bundle; one that does not exist is empty. -/
def bundle (bench : Workbench element) (index : Nat) : Bundle element :=
  (bench.bundles[index]?).getD .empty

/-- Put a content into a slot as it is, without looking at what was there. -/
def setSlot (bench : Workbench element) (index : Nat) (content : Option Buffer) : Workbench element :=
  { bench with slots := bench.slots.set index content }

/-- Put a bundle into its place as it is, without looking at what was there. -/
def setBundle (bench : Workbench element) (index : Nat) (content : Bundle element) :
    Workbench element :=
  { bench with bundles := bench.bundles.set index content }

def withHeap (bench : Workbench element) (heap : Heap) : Workbench element :=
  { bench with heap := heap }

/-- Put a content into a slot and drop what was there. -/
def storeSlot (bench : Workbench element) (index : Nat) (content : Option Buffer) :
    Workbench element :=
  if index < bench.slots.length then
    (bench.withHeap (bench.heap.release (bench.slot index))).setSlot index content
  else bench.withHeap (bench.heap.release content)

/-- Put a bundle into its place and drop what was there. -/
def storeBundle (bench : Workbench element) (index : Nat) (content : Bundle element) :
    Workbench element :=
  if index < bench.bundles.length then
    (bench.withHeap (bench.heap.release (bench.bundle index).data)).setBundle index content
  else bench.withHeap (bench.heap.release content.data)

/-- Every buffer that some place holds, slots first. -/
def held (bench : Workbench element) : List Buffer :=
  bench.slots.filterMap id ++ bench.bundles.filterMap Bundle.data

/-- Drop everything. -/
def clear (bench : Workbench element) : Workbench element :=
  ⟨bench.held.foldl Heap.drop bench.heap, bench.slots.map fun _ => none,
    bench.bundles.map fun _ => .empty⟩

/-- Carry out one action. -/
def step (bench : Workbench element) : Action α → Step element
  | .refuse size => ⟨bench.withHeap (bench.heap.refusing size), .done, []⟩
  | .allocate slot size =>
    let reply := bench.heap.allocate size
    ⟨(bench.withHeap reply.heap).storeSlot slot reply.value, .present reply.value.isSome, reply.events⟩
  | .tryAllocate slot size =>
    let reply := bench.heap.tryAllocate size
    match reply.value with
    | .ok buffer => ⟨(bench.withHeap reply.heap).storeSlot slot (some buffer), .allocated, reply.events⟩
    | .error cause => ⟨bench.withHeap reply.heap, .failed cause, reply.events⟩
  | .placeEmpty slot => ⟨bench.storeSlot slot (some .empty), .done, []⟩
  | .release slot =>
    let taken := OwnedText.take (bench.slot slot)
    ⟨(bench.setSlot slot taken.left).withHeap (bench.heap.release taken.moved), .done, []⟩
  | .take source target =>
    let before := bench.slot source
    let taken := OwnedText.take before
    let cleared := bench.setSlot source taken.left
    ⟨cleared.storeSlot target taken.moved,
      .taken taken.moved.isSome (cleared.slot source).isNone (decide (taken.moved = before)), []⟩
  | .resize source target size =>
    let reply := bench.heap.resize (bench.slot source) size
    let cleared := (bench.setSlot source reply.value.left).withHeap reply.heap
    ⟨cleared.storeSlot target reply.value.moved,
      .resized reply.value.moved.isSome (cleared.slot source).isNone, reply.events⟩
  | .write slot offset content =>
    match bench.slot slot with
    | none => ⟨bench, .written false, []⟩
    | some buffer =>
      match buffer.write? offset content with
      | none => ⟨bench, .outOfRange, []⟩
      | some written => ⟨bench.setSlot slot (some written), .written true, []⟩
  | .fill slot seed =>
    match bench.slot slot with
    | none => ⟨bench, .written false, []⟩
    | some buffer => ⟨bench.setSlot slot (some (buffer.fill seed)), .written true, []⟩
  | .clearBundle bundle => ⟨bench.storeBundle bundle .empty, .done, []⟩
  | .assemble bundle slot length flags =>
    let taken := OwnedText.take (bench.slot slot)
    let cleared := bench.setSlot slot taken.left
    let reply : Reply (Except BufferTooSmall (Bundle element)) :=
      Bundle.assemble cleared.heap taken.moved length flags
    match reply.value with
    | .ok assembled => ⟨(cleared.withHeap reply.heap).storeBundle bundle assembled, .done, reply.events⟩
    | .error cause => ⟨cleared.withHeap reply.heap, .rejected cause, reply.events⟩
  | .takeData bundle slot =>
    let (data, left) := (bench.bundle bundle).takeData
    ⟨(bench.setBundle bundle left).storeSlot slot data, .present data.isSome, []⟩
  | .takeParts bundle slot =>
    let ((data, length, flags), left) := (bench.bundle bundle).parts
    ⟨(bench.setBundle bundle left).storeSlot slot data, .parts length flags, []⟩
  | .setFlags bundle flags =>
    ⟨bench.setBundle bundle ((bench.bundle bundle).withFlags flags), .done, []⟩
  | .put bundle offset values =>
    match (bench.bundle bundle).store offset values with
    | .error _ => ⟨bench, .outOfRange, []⟩
    | .ok stored => ⟨bench.setBundle bundle stored, .done, []⟩

/-- Carry out actions one after the other. -/
def run (bench : Workbench element) : List (Action α) → Workbench element
  | [] => bench
  | action :: rest => (bench.step action).bench.run rest

end Workbench

end OwnedText
