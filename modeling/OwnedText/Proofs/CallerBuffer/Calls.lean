import OwnedText.Proofs.CallerBuffer
import OwnedText.Proofs.Decimal.Integer
import OwnedText.Proofs.Decimal.RoundTrip
import OwnedText.Text.Utf8

/-! # Calls on a caller's buffer

Values are written to the start of one buffer, one call after the other. A call writes the whole text of
its value or nothing: the bytes behind the text are those that were there, and where the buffer is too
short all of them are. So each byte of the buffer is that of the latest text which was written and is long
enough to reach it.

A number is composed in a scratch before it is copied. The scratch would lose all that is behind the first
piece that does not fit, and nobody would notice. It never does, in whatever pieces a text comes, because
none is longer than its scratch.
-/

namespace OwnedText

/-- A text in ASCII takes one byte for each character. -/
theorem Utf8.encode_of_ascii {text : List Char} (ascii : ∀ c ∈ text, c.toNat < 128) :
    encode text = CallerBuffer.asciiBytes text := by
  have single (c : Char) (member : c ∈ text) : String.utf8EncodeChar c = [UInt8.ofNat c.toNat] := by
    have small : c.val.toNat ≤ 127 := Nat.le_of_lt_succ (ascii c member)
    simp only [String.utf8EncodeChar, if_pos small]
    rfl
  rw [encode, CallerBuffer.asciiBytes, List.flatMap_def, List.map_congr_left single, ← List.flatMap_def,
    ← List.map_eq_flatMap]

namespace Scalar

theorem ascii_text (value : Scalar) : ∀ c ∈ value.text, c.toNat < 128 := by
  cases value with
  | int number => exact Integer.ascii_text number.toInt
  | float number => exact number.ascii_text
  | bool truth => cases truth <;> simp [text]

/-- No text of a kind is longer. -/
def width : Scalar → Nat
  | int _ => 20
  | float _ => 24
  | bool _ => 5

theorem length_text_le_width (value : Scalar) : value.text.length ≤ value.width := by
  cases value with
  | int number => exact Integer.length_text_le (Integer.inRange_toInt number)
  | float number => exact number.length_text_le
  | bool truth => cases truth <;> decide

theorem width_le_capacity (value : Scalar) : value.width ≤ value.capacity := by
  cases value with
  | int _ => exact (by decide : 20 ≤ intCapacity)
  | float _ => exact (by decide : 24 ≤ floatCapacity)
  | bool _ => exact (by decide : 5 ≤ boolCapacity)

/-- Every text fits the scratch for its kind. -/
theorem length_text_le (value : Scalar) : value.text.length ≤ value.capacity :=
  value.length_text_le_width.trans value.width_le_capacity

/-- The bytes of the whole written form. -/
def bytes (value : Scalar) : List UInt8 := Utf8.encode value.text

theorem bytes_eq (value : Scalar) : value.bytes = CallerBuffer.asciiBytes value.text :=
  Utf8.encode_of_ascii value.ascii_text

theorem length_bytes_le_width (value : Scalar) : value.bytes.length ≤ value.width := by
  simpa [bytes_eq] using value.length_text_le_width

end Scalar

namespace CallerBuffer

theorem composed_eq (value : Scalar) : composed value = value.bytes := by
  rw [composed_of_le value.length_text_le, value.bytes_eq]

/-- The buffer after calls, one for each value. -/
def run (buffer : List UInt8) (values : List Scalar) : List UInt8 := values.foldl after buffer

section Calls

variable {buffer : List UInt8} {value : Scalar}

theorem after_of_le (room : value.bytes.length ≤ buffer.length) :
    after buffer value = value.bytes ++ buffer.drop value.bytes.length := by
  rw [← composed_eq] at room ⊢
  rw [after, put_of_le room]

theorem after_of_lt (short : buffer.length < value.bytes.length) : after buffer value = buffer := by
  rw [← composed_eq] at short
  rw [after, put_of_lt short]

@[simp] theorem length_after (buffer : List UInt8) (value : Scalar) :
    (after buffer value).length = buffer.length := by
  rcases Nat.lt_or_ge buffer.length value.bytes.length with short | room
  · rw [after_of_lt short]
  · rw [after_of_le room, List.length_append, List.length_drop]
    omega

@[simp] theorem length_run (buffer : List UInt8) (values : List Scalar) :
    (run buffer values).length = buffer.length := by
  induction values generalizing buffer with
  | nil => rfl
  | cons value rest ih => exact (ih _).trans (length_after buffer value)

/-- A text that the buffer has room for, if it has, covers the bytes in front of its end. -/
def Covers (buffer : List UInt8) (value : Scalar) (index : Nat) : Prop :=
  value.bytes.length ≤ buffer.length ∧ index < value.bytes.length

private theorem getElem?_after_of_covers {index : Nat} (covers : Covers buffer value index) :
    (after buffer value)[index]? = value.bytes[index]? := by
  rw [after_of_le covers.1, List.getElem?_append_left covers.2]

private theorem getElem?_after_of_not_covers {index : Nat} (bare : ¬ Covers buffer value index) :
    (after buffer value)[index]? = buffer[index]? := by
  rcases Nat.lt_or_ge buffer.length value.bytes.length with short | room
  · rw [after_of_lt short]
  · have behind : value.bytes.length ≤ index := Nat.le_of_not_lt fun inside => bare ⟨room, inside⟩
    rw [after_of_le room, List.getElem?_append_right behind, List.getElem?_drop, Nat.add_sub_cancel' behind]

/-- Which bytes a text covers depends on the length of the buffer alone. -/
theorem covers_after_iff (other : Scalar) {index : Nat} :
    Covers (after buffer other) value index ↔ Covers buffer value index := by
  simp [Covers]

/-- A byte that no text covers is left over from before. -/
theorem getElem?_run_of_not_covers {values : List Scalar} {index : Nat}
    (bare : ∀ value ∈ values, ¬ Covers buffer value index) : (run buffer values)[index]? = buffer[index]? := by
  induction values generalizing buffer with
  | nil => rfl
  | cons value rest ih =>
    have later : ∀ other ∈ rest, ¬ Covers (after buffer value) other index := by
      intro other member
      rw [covers_after_iff]
      exact bare other (List.mem_cons_of_mem _ member)
    exact (ih later).trans (getElem?_after_of_not_covers (bare value List.mem_cons_self))

private theorem run_append (buffer : List UInt8) (front back : List Scalar) :
    run buffer (front ++ back) = run (run buffer front) back := List.foldl_append

/-- A byte is that of the latest text that covers it. -/
theorem getElem?_run_of_covers {front back : List Scalar} {index : Nat} (covers : Covers buffer value index)
    (bare : ∀ later ∈ back, ¬ Covers buffer later index) :
    (run buffer (front ++ value :: back))[index]? = value.bytes[index]? := by
  have same (other : Scalar) : Covers (run buffer front) other index ↔ Covers buffer other index := by
    simp [Covers]
  have last : ∀ later ∈ back, ¬ Covers (after (run buffer front) value) later index := by
    intro later member
    rw [covers_after_iff, same]
    exact bare later member
  rw [run_append]
  exact (getElem?_run_of_not_covers last).trans (getElem?_after_of_covers ((same value).mpr covers))

end Calls

/-- How a call answers on a buffer of so many bytes. If there is room for the whole text, its length comes
back and the text stands at the start, in front of what was behind that place before. If there is not, both
lengths come back and nothing has changed. -/
structure Answers (capacity : Nat) (buffer : List UInt8) (value : Scalar) : Prop where
  whole : value.bytes.length ≤ capacity → ∃ written, put value buffer = .ok (value.bytes.length, written) ∧
    after buffer value = written ∧ written.length = capacity ∧
      written.take value.bytes.length = value.bytes ∧
        written.drop value.bytes.length = buffer.drop value.bytes.length
  refused : capacity < value.bytes.length →
    put value buffer = .error ⟨value.bytes.length, capacity⟩ ∧ after buffer value = buffer

theorem answers (buffer : List UInt8) (value : Scalar) : Answers buffer.length buffer value where
  whole room := by
    refine ⟨_, ?_, rfl, length_after buffer value, ?_, ?_⟩
    · rw [after_of_le room]
      rw [← composed_eq] at room ⊢
      exact put_of_le room
    · rw [after_of_le room, List.take_left]
    · rw [after_of_le room, List.drop_left]
  refused short := by
    refine ⟨?_, after_of_lt short⟩
    rw [← composed_eq] at short ⊢
    exact put_of_lt short

/-- What calls do to a buffer, one for each value. Each of them writes the whole text or is refused, and each
byte is that of the latest text that covers it, or the one from before all calls. No text loses a piece on
the way, none is longer than those of its kind can be, and no call is refused on a buffer with the capacity
for its kind. -/
structure WritesWhole (buffer : List UInt8) (values : List Scalar) : Prop where
  answers : ∀ front value back, values = front ++ value :: back →
    Answers buffer.length (run buffer front) value
  latest : ∀ front value back index, values = front ++ value :: back → Covers buffer value index →
    (∀ later ∈ back, ¬ Covers buffer later index) →
      (run buffer values)[index]? = value.bytes[index]?
  leftover : ∀ index, (∀ value ∈ values, ¬ Covers buffer value index) →
    (run buffer values)[index]? = buffer[index]?
  unbroken : ∀ (value : Scalar) (pieces : List (List UInt8)), pieces.flatten = value.bytes →
    Scratch.filled value.capacity pieces = ⟨value.bytes, false⟩
  int_width : ∀ number, (Scalar.int number).bytes.length ≤ 20
  float_width : ∀ number, (Scalar.float number).bytes.length ≤ 24
  bool_width : ∀ truth, (Scalar.bool truth).bytes.length ≤ 5
  roomy : ∀ value : Scalar, value.capacity ≤ buffer.length →
    ∃ written, put value (run buffer values) = .ok (value.bytes.length, written)

/-- Whatever is in a buffer, whatever its length is and whichever values are written to it. -/
theorem writesWhole (buffer : List UInt8) (values : List Scalar) : WritesWhole buffer values where
  answers front value back _ := by
    simpa using CallerBuffer.answers (run buffer front) value
  latest front value back index same covers bare := by
    subst same
    exact getElem?_run_of_covers covers bare
  leftover _ bare := getElem?_run_of_not_covers bare
  unbroken value pieces same := by
    have fits : pieces.flatten.length ≤ value.capacity := by
      rw [same]
      exact value.length_bytes_le_width.trans value.width_le_capacity
    rw [Scratch.filled_of_le fits, same]
  int_width number := (Scalar.int number).length_bytes_le_width
  float_width number := (Scalar.float number).length_bytes_le_width
  bool_width truth := (Scalar.bool truth).length_bytes_le_width
  roomy value enough := by
    have room : value.bytes.length ≤ (run buffer values).length := by
      simpa using value.length_bytes_le_width.trans (value.width_le_capacity.trans enough)
    obtain ⟨written, success, _⟩ := (CallerBuffer.answers (run buffer values) value).whole room
    exact ⟨written, success⟩

/-- The second text hides the front of the first one and leaves its end. -/
example : run (asciiBytes "######".toList) [.bool false, .int 42] = asciiBytes "42lse#".toList := by
  decide +kernel

end CallerBuffer

end OwnedText
