import OwnedText.Text.Escape
import OwnedText.Proofs.Decimal.Digits

/-! # Escaped text reads back

Both written forms consist of printable characters, and their readers undo them. Each reader takes off
the written form of one item and goes on behind it, whatever follows, so a text that itself looks like
something written cannot be mistaken: its backslashes are written as two.
-/

namespace OwnedText.Escape

/-- Every character of a text is printable. -/
def Printable (text : List Char) : Prop := ∀ c ∈ text, isPrintable c = true

namespace Printable

variable {text other : List Char}

theorem append (printable : Printable text) (printable' : Printable other) : Printable (text ++ other) := by
  intro c member
  exact (List.mem_append.mp member).elim (printable c) (printable' c)

theorem cons {c : Char} (first : isPrintable c = true) (printable : Printable text) :
    Printable (c :: text) := by
  intro c' member
  obtain rfl | member := List.mem_cons.mp member
  · exact first
  · exact printable c' member

theorem notMem {c : Char} (printable : Printable text) (other : isPrintable c = false) : c ∉ text := by
  intro member
  rw [printable c member] at other
  contradiction

end Printable

theorem printable_ofNat (value : Nat) : Printable (Digits.ofNat value) := by
  intro c member
  have digit := Digits.isDigit_of_mem_ofNat member
  unfold Digits.isDigit Digits.digit? at digit
  split at digit
  · rename_i bounds
    simp only [isPrintable, Bool.and_eq_true, decide_eq_true_eq]
    omega
  · contradiction

section Letters

variable {c letter : Char}

/-- The letters are printable, read back, and none of them starts another kind of escape. -/
theorem ofLetter?_of_letter? (short : letter? c = some letter) :
    ofLetter? letter = some c ∧ isPrintable letter = true ∧ letter ≠ 'u' ∧ letter ≠ 'x' := by
  unfold letter? at short
  split at short
  all_goals first | contradiction | (cases short; decide)

theorem ne_backslash_of_letter? (long : letter? c = none) : c ≠ '\x5c' := by
  rintro rfl
  contradiction

end Letters

section HexDigits

variable {value : Nat}

theorem ofHexDigit?_hexDigit (small : value < 16) : ofHexDigit? (hexDigit value) = some value := by
  have all : ∀ value < 16, ofHexDigit? (hexDigit value) = some value := by decide
  exact all value small

theorem isPrintable_hexDigit (small : value < 16) :
    isPrintable (hexDigit value) = true ∧ hexDigit value ≠ '\x7d' := by
  have all : ∀ value < 16, isPrintable (hexDigit value) = true ∧ hexDigit value ≠ '\x7d' := by decide
  exact all value small

theorem isPrintable_of_mem_hexDigits {c : Char} (member : c ∈ hexDigits value) :
    isPrintable c = true ∧ c ≠ '\x7d' := by
  induction value using hexDigits.induct with
  | case1 value small =>
    rw [hexDigits, if_pos small, List.mem_singleton] at member
    exact member ▸ isPrintable_hexDigit small
  | case2 value large ih =>
    rw [hexDigits, if_neg large, List.mem_append, List.mem_singleton] at member
    rcases member with front | rfl
    · exact ih front
    · exact isPrintable_hexDigit (Nat.mod_lt _ (by decide))

/-- The digits of a number in base sixteen denote it. -/
private theorem ofHexDigits?_hexDigits (value : Nat) : ofHexDigits? (hexDigits value) = some value := by
  induction value using hexDigits.induct with
  | case1 value small =>
    rw [hexDigits, if_pos small, ofHexDigits?]
    simp [ofHexDigit?_hexDigit small]
  | case2 value large ih =>
    rw [ofHexDigits?] at ih
    rw [hexDigits, if_neg large, ofHexDigits?, List.foldlM_append, ih]
    simp only [List.foldlM_cons, List.foldlM_nil, ofHexDigit?_hexDigit (Nat.mod_lt value (by decide))]
    simp
    omega

end HexDigits

theorem braced?_append {inner : List Char} (rest : List Char) (open' : '\x7d' ∉ inner) :
    braced? (inner ++ '\x7d' :: rest) = some (inner, rest) := by
  induction inner with
  | nil => rfl
  | cons c inner ih =>
    obtain ⟨other, later⟩ := not_or.mp fun member => open' (List.mem_cons.mpr member)
    rw [List.cons_append, braced?, if_neg (Ne.symm other), ih later]
    rfl

section Chars

/-- The reader takes off the written form of one character. -/
private theorem chars?_ofChar_append (c : Char) (rest : List Char) :
    chars? (ofChar c ++ rest) = (chars? rest).map (c :: ·) := by
  unfold ofChar
  split
  · rename_i letter short
    obtain ⟨reads, _, other, _⟩ := ofLetter?_of_letter? short
    rw [List.cons_append, List.cons_append, List.nil_append, chars?]
    · rw [reads]
      cases chars? rest <;> rfl
    · exact fun _ same _ => other same
  · rename_i long
    -- A backslash has a letter of its own, so whatever is written as itself starts no escape.
    have other := ne_backslash_of_letter? long
    split
    · rename_i printable
      rw [List.cons_append, List.nil_append, chars?]
      · rw [if_pos (by rw [printable, bne_iff_ne.mpr other]; rfl)]
      · exact fun _ same _ => other same
      · exact fun _ _ same _ => other same
    · have closes : '\x7d' ∉ hexDigits c.toNat := fun member => (isPrintable_of_mem_hexDigits member).2 rfl
      simp only [List.append_assoc, List.cons_append, List.nil_append]
      rw [chars?]
      split
      · rename_i missing
        rw [braced?_append rest closes] at missing
        contradiction
      · rename_i inner after found
        rw [braced?_append rest closes] at found
        obtain ⟨rfl, rfl⟩ := Prod.mk.inj (Option.some.inj found)
        rw [ofHexDigits?_hexDigits, Option.bind_eq_bind, Option.bind_some, Char.ofNat_toNat]
        cases chars? rest <;> rfl

/-- The written form of characters reads back. -/
theorem chars?_ofChars (text : List Char) : chars? (ofChars text) = some text := by
  induction text with
  | nil => rw [ofChars, List.flatMap_nil, chars?]
  | cons c text ih =>
    rw [ofChars, List.flatMap_cons, chars?_ofChar_append, ← ofChars, ih]
    rfl

private theorem printable_ofChar (c : Char) : Printable (ofChar c) := by
  unfold ofChar
  split
  · rename_i letter short
    exact .cons rfl (.cons (ofLetter?_of_letter? short).2.1 nofun)
  · split
    · rename_i printable
      exact .cons printable nofun
    · have digits : Printable (hexDigits c.toNat) := fun _ member => (isPrintable_of_mem_hexDigits member).1
      exact .append (.append (.cons rfl (.cons rfl (.cons rfl nofun))) digits) (.cons rfl nofun)

theorem printable_ofChars (text : List Char) : Printable (ofChars text) := by
  intro written member
  obtain ⟨c, _, member⟩ := List.mem_flatMap.mp member
  exact printable_ofChar c written member

end Chars

section Bytes

private theorem toNat_ofNat_toNat (byte : UInt8) : (Char.ofNat byte.toNat).toNat = byte.toNat := by
  have small : byte.toNat < 256 := byte.toNat_lt
  have valid : byte.toNat.isValidChar := .inl (by omega)
  rw [Char.ofNat, dif_pos valid]
  rfl

/-- The reader takes off the written form of one byte. -/
private theorem bytes?_ofByte_append (byte : UInt8) (rest : List Char) :
    bytes? (ofByte byte ++ rest) = (bytes? rest).map (byte :: ·) := by
  have same : UInt8.ofNat (Char.ofNat byte.toNat).toNat = byte := by
    rw [toNat_ofNat_toNat, UInt8.ofNat_toNat]
  simp only [ofByte]
  split
  · rename_i letter short
    obtain ⟨reads, _, _, other⟩ := ofLetter?_of_letter? short
    rw [List.cons_append, List.cons_append, List.nil_append, bytes?]
    · rw [reads, Option.bind_eq_bind, Option.bind_some, same]
      cases bytes? rest <;> rfl
    · exact fun _ _ _ same _ => other same
  · rename_i long
    have other := ne_backslash_of_letter? long
    split
    · rename_i printable
      rw [List.cons_append, List.nil_append, bytes?]
      · rw [if_pos (by rw [printable, bne_iff_ne.mpr other]; rfl), same]
      · exact fun _ _ _ same _ => other same
      · exact fun _ _ same _ => other same
    · have small : byte.toNat < 256 := byte.toNat_lt
      have halves : 16 * (byte.toNat / 16) + byte.toNat % 16 = byte.toNat := Nat.div_add_mod ..
      simp only [List.cons_append, List.nil_append]
      rw [bytes?, ofHexDigit?_hexDigit (by omega), ofHexDigit?_hexDigit (by omega)]
      simp only [Option.bind_eq_bind, Option.bind_some, halves, UInt8.ofNat_toNat]
      cases bytes? rest <;> rfl

/-- The written form of bytes reads back. -/
theorem bytes?_ofBytes (bytes : List UInt8) : bytes? (ofBytes bytes) = some bytes := by
  induction bytes with
  | nil => rfl
  | cons byte bytes ih =>
    rw [ofBytes, List.flatMap_cons, bytes?_ofByte_append, ← ofBytes, ih]
    rfl

private theorem printable_ofByte (byte : UInt8) : Printable (ofByte byte) := by
  simp only [ofByte]
  split
  · rename_i letter short
    exact .cons rfl (.cons (ofLetter?_of_letter? short).2.1 nofun)
  · split
    · rename_i printable
      exact .cons printable nofun
    · have small : byte.toNat < 256 := byte.toNat_lt
      have below : byte.toNat / 16 < 16 := by omega
      have high := (isPrintable_hexDigit below).1
      have low := (isPrintable_hexDigit (Nat.mod_lt byte.toNat (by decide))).1
      exact .cons rfl (.cons rfl (.cons high (.cons low nofun)))

theorem printable_ofBytes (bytes : List UInt8) : Printable (ofBytes bytes) := by
  intro written member
  obtain ⟨byte, _, member⟩ := List.mem_flatMap.mp member
  exact printable_ofByte byte written member

end Bytes

end OwnedText.Escape
