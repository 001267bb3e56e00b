import OwnedText.Decimal.Integer
import OwnedText.Decimal.Notation
import OwnedText.Window

/-! # Writing values into a caller's buffer

A value is written as text from the start of a buffer that the caller owns. Either the whole text is
written and its length returned, or the buffer is too short and nothing changes. No terminator is
added, and bytes behind the text stay as they were.

A number is first composed in a scratch of fixed capacity, piece by piece. From the first piece on that the
scratch cannot hold the text would be lost, and nobody would notice; the capacities are large enough that
this does not happen.
-/

namespace OwnedText

/-- Values that can be written. -/
inductive Scalar where
  | int (value : Int64)
  | float (value : Binary64)
  | bool (value : Bool)
deriving DecidableEq

namespace Scalar

/-- Room for any 64-bit integer and one byte more, for a terminator that the caller may add. -/
def intCapacity : Nat := 21

/-- Room for any floating-point number in its shortest form. -/
def floatCapacity : Nat := 32

/-- Room for the longer of the two truth values. -/
def boolCapacity : Nat := 5

def capacity : Scalar → Nat
  | int _ => intCapacity
  | float _ => floatCapacity
  | bool _ => boolCapacity

/-- The written form. -/
def text : Scalar → List Char
  | int value => Integer.text value.toInt
  | float value => value.text
  | bool true => "true".toList
  | bool false => "false".toList

end Scalar

namespace CallerBuffer

/-- One byte per character, for text in ASCII. -/
def asciiBytes (text : List Char) : List UInt8 := text.map fun c => UInt8.ofNat c.toNat

/-- One character per byte. -/
def asciiText (bytes : List UInt8) : List Char := bytes.map fun byte => Char.ofNat byte.toNat

/-- A scratch while a text is composed in it: what it holds, and whether a piece did not fit. -/
structure Scratch where
  bytes : List UInt8
  cut : Bool
deriving DecidableEq

namespace Scratch

/-- Nothing written yet. -/
def empty : Scratch := ⟨[], false⟩

/-- Add a piece if there is room for all of it. Behind a piece that did not fit nothing is added. -/
def add (capacity : Nat) (scratch : Scratch) (piece : List UInt8) : Scratch :=
  if scratch.cut then scratch
  else if scratch.bytes.length + piece.length ≤ capacity then ⟨scratch.bytes ++ piece, false⟩
  else ⟨scratch.bytes, true⟩

/-- The scratch behind a text that comes in pieces. -/
def filled (capacity : Nat) (pieces : List (List UInt8)) : Scratch := pieces.foldl (add capacity) empty

end Scratch

/-- Compose a text from its pieces. What has been lost on the way is not asked for. -/
def compose (capacity : Nat) (pieces : List (List UInt8)) : List UInt8 :=
  (Scratch.filled capacity pieces).bytes

/-- The pieces in which a number comes: its sign, if one is shown, and what is behind it. A formatter that
cuts more finely makes no difference to a text that fits, by `Scratch.filled_of_le`. -/
def pieces : List Char → List (List UInt8)
  | '-' :: unsigned => [asciiBytes ['-'], asciiBytes unsigned]
  | unsigned => [asciiBytes unsigned]

/-- Copy a text to the start of a buffer that has room for all of it. -/
def emit (text buffer : List UInt8) : Except OutOfRange (Nat × List UInt8) :=
  (window text.length buffer).map fun _ => (text.length, text ++ buffer.drop text.length)

/-- The bytes of a value: those of a number as composed in the scratch for its kind, those of a truth value
as they are. -/
def composed (value : Scalar) : List UInt8 :=
  match value with
  | .int _ | .float _ => compose value.capacity (pieces value.text)
  | .bool _ => asciiBytes value.text

/-- Write one value; the result is the number of bytes written and the buffer afterwards. -/
def put (value : Scalar) (buffer : List UInt8) : Except OutOfRange (Nat × List UInt8) :=
  emit (composed value) buffer

/-- The buffer after one call, changed or not. -/
def after (buffer : List UInt8) (value : Scalar) : List UInt8 :=
  match put value buffer with
  | .ok (_, written) => written
  | .error _ => buffer

end CallerBuffer

end OwnedText
