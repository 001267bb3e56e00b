import OwnedText.Flags
import OwnedText.Memory.Element
import OwnedText.Memory.Heap
import OwnedText.Window

/-! # Bundles

A bundle is an optional buffer, a count of elements and a flag word. It does not grow by itself:
callers size the buffer and hand it over in parts. The three parts are stored as they are given; that
the counted elements lie inside the buffer is checked once, when a bundle is assembled, and what every
typed view relies on afterwards.
-/

namespace OwnedText

structure Bundle {α : Type} (element : Element α) where
  data : Option Buffer
  length : UInt32
  flags : Flags
deriving DecidableEq

/-- A buffer that cannot hold the elements counted for it. -/
structure BufferTooSmall where
  length : UInt32
deriving DecidableEq, Repr

namespace BufferTooSmall

def message (failure : BufferTooSmall) : String :=
  s!"buffer too small for {failure.length.toNat} elements"

end BufferTooSmall

namespace Bundle

variable {α : Type} {element : Element α}

/-- No buffer, no elements, no flags. -/
def empty : Bundle element := ⟨none, 0, Flags.empty⟩

/-- Bytes covered by the counted elements. -/
def byteLength (bundle : Bundle element) : Nat := bundle.length.toNat * element.size

def isEmpty (bundle : Bundle element) : Bool := bundle.length == 0

/-- The counted elements lie inside the buffer, and without a buffer there are none. -/
def Covered (bundle : Bundle element) : Prop :=
  match bundle.data with
  | none => bundle.length = 0
  | some buffer => bundle.byteLength ≤ buffer.length

instance (bundle : Bundle element) : Decidable bundle.Covered := by
  unfold Covered
  cases bundle.data <;> infer_instance

/-- Put parts together. Parts that do not fit are refused and their buffer goes back to the heap. -/
def assemble (heap : Heap) (data : Option Buffer) (length : UInt32) (flags : Flags) :
    Reply (Except BufferTooSmall (Bundle element)) :=
  let bundle : Bundle element := ⟨data, length, flags⟩
  if bundle.Covered then ⟨.ok bundle, heap, []⟩
  else ⟨.error ⟨length⟩, heap.release data, []⟩

/-- Move the buffer out; an empty bundle stays behind. -/
def takeData (bundle : Bundle element) : Option Buffer × Bundle element :=
  let taken := take bundle.data
  (taken.moved, ⟨taken.left, 0, Flags.empty⟩)

/-- Buffer, count and flags; an empty bundle stays behind. -/
def parts (bundle : Bundle element) : (Option Buffer × UInt32 × Flags) × Bundle element :=
  let taken := bundle.takeData
  ((taken.1, bundle.length, bundle.flags), taken.2)

def withFlags (bundle : Bundle element) (flags : Flags) : Bundle element :=
  { bundle with flags := flags }

/-- The bytes of the counted elements. -/
def bytes (bundle : Bundle element) : Except OutOfRange (List UInt8) :=
  match bundle.data with
  | none => .ok []
  | some buffer => window bundle.byteLength buffer.bytes

/-- The counted elements. Elements without bytes cannot be told apart in a buffer, so there are none. -/
def elements (bundle : Bundle element) : Except OutOfRange (List α) :=
  bundle.bytes.map fun bytes => element.decodeAll (bytes.length / element.size) bytes

/-- Why elements could not be stored: the view itself is out of range, or the place for them is. -/
inductive StoreError where
  | view (failure : OutOfRange)
  | outOfRange
deriving DecidableEq, Repr

/-- Overwrite elements from index `offset` on; all of them must lie among the counted ones. -/
def store (bundle : Bundle element) (offset : Nat) (values : List α) :
    Except StoreError (Bundle element) :=
  match bundle.elements with
  | .error failure => .error (.view failure)
  | .ok old =>
    if offset + values.length ≤ old.length then
      match bundle.data with
      | none => .ok bundle
      | some buffer =>
        match buffer.write? (offset * element.size) (element.encodeAll values) with
        | none => .error .outOfRange
        | some written => .ok { bundle with data := some written }
    else .error .outOfRange

/-- The form used for inspection. -/
def describe (bundle : Bundle element) : String :=
  let data := match bundle.data with
    | none => "None"
    | some buffer => "Some(" ++ buffer.describe ++ ")"
  s!"Bundle \x7b data: {data}, length: {bundle.length.toNat}, flags: {bundle.flags.describe} \x7d"

/-- The digits of a flag word in base sixteen, in lower case. -/
def flagDigits (flags : Flags) : String := String.ofList (Nat.toDigits 16 flags.bits.toNat)

/-- The three fields as other code sees them: a null address stands for an absent buffer. -/
def describeRaw (bundle : Bundle element) : String :=
  let data := if bundle.data.isSome then "PTR" else "0x0"
  let digits := flagDigits bundle.flags
  s!"RawBundle \x7b data: {data}, length: {bundle.length.toNat}, flags: 0x{digits} \x7d"

end Bundle

end OwnedText
