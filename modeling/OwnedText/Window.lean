/-! # Checked leading windows

A window is the leading part of a list up to a given end. Asking for more than there is fails with
both numbers, so every view of a buffer either shows exactly what was counted or says why not.
-/

namespace OwnedText

/-- A requested end that lies past the available length. -/
structure OutOfRange where
  limit : Nat
  available : Nat
deriving DecidableEq, Repr

namespace OutOfRange

/-- The wording names the end that was asked for and the length at hand. -/
def message (failure : OutOfRange) : String :=
  s!"range end index {failure.limit} out of range for slice of length {failure.available}"

end OutOfRange

/-- The first `limit` items, all of which must exist. -/
def window {α : Type} (limit : Nat) (items : List α) : Except OutOfRange (List α) :=
  if limit ≤ items.length then .ok (items.take limit) else .error ⟨limit, items.length⟩

theorem window_of_le {α : Type} {limit : Nat} {items : List α} (fits : limit ≤ items.length) :
    window limit items = .ok (items.take limit) := if_pos fits

theorem window_of_lt {α : Type} {limit : Nat} {items : List α} (short : items.length < limit) :
    window limit items = .error ⟨limit, items.length⟩ := if_neg (by omega)

end OwnedText
