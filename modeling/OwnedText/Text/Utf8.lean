/-! # Bytes of text

Text is kept as characters and measured in bytes. The bytes of a text are those of its characters, one
behind the other, so the length in bytes is the sum of their sizes. A text can be cut at a place counted
in bytes as long as the place lies between two characters.
-/

namespace OwnedText.Utf8

/-- The bytes of a text. -/
def encode (text : List Char) : List UInt8 := text.flatMap String.utf8EncodeChar

@[simp] theorem length_encode_cons (c : Char) (rest : List Char) :
    (encode (c :: rest)).length = c.utf8Size + (encode rest).length := by
  simp only [encode, List.flatMap_cons, List.length_append, String.length_utf8EncodeChar]

/-- The text behind its first `count` bytes. -/
def drop? : Nat → List Char → Option (List Char)
  | 0, text => some text
  | _ + 1, [] => none
  | count + 1, c :: rest =>
    if c.utf8Size ≤ count + 1 then drop? (count + 1 - c.utf8Size) rest else none

/-- The text in its first `count` bytes. -/
def take? : Nat → List Char → Option (List Char)
  | 0, _ => some []
  | _ + 1, [] => none
  | count + 1, c :: rest =>
    if c.utf8Size ≤ count + 1 then (take? (count + 1 - c.utf8Size) rest).map (c :: ·) else none

/-- The text from one byte up to, but not including, another. -/
def slice? (start stop : Nat) (text : List Char) : Option (List Char) :=
  (drop? start text).bind (take? (stop - start))

/-- Cutting behind a leading text gives the rest. -/
@[simp] theorem drop?_length_encode (front rest : List Char) :
    drop? (encode front).length (front ++ rest) = some rest := by
  induction front with
  | nil => simp [encode, drop?]
  | cons c front ih =>
    have positive := c.utf8Size_pos
    obtain ⟨size, same⟩ : ∃ size, (encode (c :: front)).length = size + 1 :=
      ⟨(encode (c :: front)).length - 1, by rw [length_encode_cons]; omega⟩
    rw [same]
    rw [length_encode_cons] at same
    simp only [List.cons_append, drop?]
    rw [if_pos (by omega), show size + 1 - c.utf8Size = (encode front).length by omega, ih]

/-- Cutting behind a leading text leaves that text. -/
@[simp] theorem take?_length_encode (front rest : List Char) :
    take? (encode front).length (front ++ rest) = some front := by
  induction front with
  | nil => simp [encode, take?]
  | cons c front ih =>
    have positive := c.utf8Size_pos
    obtain ⟨size, same⟩ : ∃ size, (encode (c :: front)).length = size + 1 :=
      ⟨(encode (c :: front)).length - 1, by rw [length_encode_cons]; omega⟩
    rw [same]
    rw [length_encode_cons] at same
    simp only [List.cons_append, take?]
    rw [if_pos (by omega), show size + 1 - c.utf8Size = (encode front).length by omega, ih]
    rfl

end OwnedText.Utf8
