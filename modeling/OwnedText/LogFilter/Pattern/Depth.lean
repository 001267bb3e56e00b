/-! # Depth of patterns

A pattern has parts, which have parts again, and there is a limit to how deep that goes. The depth is
found while a pattern is read. Parts that stand side by side are known by their number and by the depth
of the deepest one, so nothing else has to be kept of what lies behind.
-/

namespace OwnedText.Pattern

/-- The depth that a pattern may have. -/
def depthLimit : Nat := 250

/-- Parts that stand side by side. -/
structure Parts where
  count : Nat
  /-- How deep the deepest part is. -/
  deepest : Nat
deriving DecidableEq, Repr

namespace Parts

def empty : Parts := ⟨0, 0⟩

def add (parts : Parts) (depth : Nat) : Parts := ⟨parts.count + 1, max parts.deepest depth⟩

/-- What holds several parts together is a level of its own. A single part needs none. -/
def depth (parts : Parts) : Nat := if parts.count ≤ 1 then parts.deepest else parts.deepest + 1

end Parts

/-- Parts one behind the other. The last one is kept apart, since what follows may repeat it. -/
structure Sequence where
  front : Parts
  /-- How deep the last part is. Flags cannot be repeated and are never kept here. -/
  last : Option Nat
deriving DecidableEq, Repr

namespace Sequence

def empty : Sequence := ⟨.empty, none⟩

def parts (sequence : Sequence) : Parts :=
  match sequence.last with
  | none => sequence.front
  | some depth => sequence.front.add depth

def add (sequence : Sequence) (depth : Nat) : Sequence := ⟨sequence.parts, some depth⟩

def addFlags (sequence : Sequence) : Sequence := ⟨sequence.parts.add 0, none⟩

/-- Each repetition of the last part is a level around it. -/
def repeatLast? (sequence : Sequence) : Option Sequence :=
  sequence.last.map fun depth => { sequence with last := some (depth + 1) }

def depth (sequence : Sequence) : Nat := sequence.parts.depth

end Sequence

/-- A bracketed set that is still open. An operator stands between all that is in front of it, up to the
bracket, and the members behind it. -/
structure OpenSet where
  /-- How deep that is which stands in front of the last operator. -/
  left : Option Nat
  /-- The members behind the last operator. -/
  members : Parts
  /-- Nothing but hyphens stands behind the bracket. -/
  atStart : Bool
deriving DecidableEq, Repr

namespace OpenSet

def empty : OpenSet := ⟨none, .empty, true⟩

def add (set : OpenSet) (depth : Nat) : OpenSet :=
  { set with members := set.members.add depth, atStart := false }

/-- A hyphen at the start is a member. -/
def addHyphen (set : OpenSet) : OpenSet := { set with members := set.members.add 0 }

def depth (set : OpenSet) : Nat :=
  match set.left with
  | none => set.members.depth
  | some left => max left set.members.depth + 1

/-- The set behind an operator. -/
def operate (set : OpenSet) : OpenSet := ⟨some set.depth, .empty, false⟩

end OpenSet

end OwnedText.Pattern
