import OwnedText.CallerBuffer

/-! # What reaches a caller's buffer

Texts in ASCII survive as bytes. A text that its scratch has room for is composed whole, in whatever pieces it
comes, and a buffer with room takes whatever was composed.
-/

namespace OwnedText.CallerBuffer

@[simp] theorem length_asciiBytes (text : List Char) : (asciiBytes text).length = text.length :=
  List.length_map _

theorem asciiText_asciiBytes {text : List Char} (ascii : ∀ c ∈ text, c.toNat < 128) :
    asciiText (asciiBytes text) = text := by
  have kept (c : Char) (member : c ∈ text) : Char.ofNat (UInt8.ofNat c.toNat).toNat = c := by
    have small : c.toNat < UInt8.size := Nat.lt_trans (ascii c member) (by decide)
    rw [UInt8.toNat_ofNat_of_lt' small, Char.ofNat_toNat]
  rw [asciiText, asciiBytes, List.map_map]
  exact (List.map_congr_left kept).trans (List.map_id text)

/-- Two texts in ASCII with the same bytes are the same. -/
theorem eq_of_asciiBytes_eq {text other : List Char} (ascii : ∀ c ∈ text, c.toNat < 128)
    (ascii' : ∀ c ∈ other, c.toNat < 128) (same : asciiBytes text = asciiBytes other) : text = other := by
  rw [← asciiText_asciiBytes ascii, same, asciiText_asciiBytes ascii']

namespace Scratch

private theorem foldl_add {capacity : Nat} (held : List UInt8) (pieces : List (List UInt8))
    (room : held.length + pieces.flatten.length ≤ capacity) :
    pieces.foldl (add capacity) ⟨held, false⟩ = ⟨held ++ pieces.flatten, false⟩ := by
  induction pieces generalizing held with
  | nil => rw [List.flatten_nil, List.append_nil, List.foldl_nil]
  | cons piece rest ih =>
    rw [List.flatten_cons, List.length_append] at room
    have added : add capacity ⟨held, false⟩ piece = ⟨held ++ piece, false⟩ := by
      rw [add, if_neg Bool.false_ne_true, if_pos (by dsimp only; omega)]
    rw [List.foldl_cons, added, List.flatten_cons, ← List.append_assoc]
    apply ih
    rw [List.length_append]
    omega

/-- A text that fits is composed whole, in whatever pieces it comes. -/
theorem filled_of_le {capacity : Nat} {pieces : List (List UInt8)}
    (fits : pieces.flatten.length ≤ capacity) : filled capacity pieces = ⟨pieces.flatten, false⟩ := by
  apply foldl_add
  rwa [List.length_nil, Nat.zero_add]

end Scratch

/-- The pieces of a text are the text. -/
@[simp] theorem flatten_pieces (text : List Char) : (pieces text).flatten = asciiBytes text := by
  unfold pieces
  split
  · simp [asciiBytes]
  · simp

theorem compose_of_le {capacity : Nat} {text : List Char} (fits : text.length ≤ capacity) :
    compose capacity (pieces text) = asciiBytes text := by
  rw [compose, Scratch.filled_of_le (by simpa using fits), flatten_pieces]

theorem composed_of_le {value : Scalar} (fits : value.text.length ≤ value.capacity) :
    composed value = asciiBytes value.text := by
  cases value with
  | int _ => exact compose_of_le fits
  | float _ => exact compose_of_le fits
  | bool _ => rfl

theorem put_of_le {value : Scalar} {buffer : List UInt8} (room : (composed value).length ≤ buffer.length) :
    put value buffer = .ok
      ((composed value).length, composed value ++ buffer.drop (composed value).length) := by
  rw [put, emit, window_of_le room]
  rfl

theorem put_of_lt {value : Scalar} {buffer : List UInt8} (short : buffer.length < (composed value).length) :
    put value buffer = .error ⟨(composed value).length, buffer.length⟩ := by
  rw [put, emit, window_of_lt short]
  rfl

end OwnedText.CallerBuffer
