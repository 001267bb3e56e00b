import OwnedText.Memory.Bundle
import OwnedText.Text.Escape

/-! # Byte strings with explicit ownership

A byte string is data, a length that never counts a terminator, and a flag word; a terminator is a zero
byte behind the counted ones, announced by a flag. Where the data lives is part of the value. A literal
lies in memory that nobody here frees, an owned string in a heap buffer of its own, an alias shows the
data of another string, and an empty string has no data at all.
-/

namespace OwnedText

/-- Where data starts: at a source outside the heap, or at a heap block. -/
inductive Address where
  | source (number : Nat)
  | block (number : Nat)
deriving DecidableEq, Repr

/-- Where the bytes of a string lie. An alias keeps what its lender shows, terminator included. -/
inductive Storage where
  | literal (source : Nat) (bytes : List UInt8)
  | aliased (address : Option Address) (bytes : List UInt8)
  | owned (buffer : Buffer)
deriving DecidableEq

namespace Storage

/-- The counted bytes, and the terminator if there is one. -/
def bytes : Storage → List UInt8
  | literal _ bytes | aliased _ bytes => bytes
  | owned buffer => buffer.bytes

/-- Where the first byte lies; an owned buffer without bytes lies nowhere. -/
def address : Storage → Option Address
  | literal source _ => some (.source source)
  | aliased address _ => address
  | owned buffer => buffer.block.map .block

end Storage

/-- Who answers for the data. -/
inductive Ownership where
  | empty
  | literal
  | owned
  | aliased
deriving DecidableEq, Repr

namespace Ownership

def name : Ownership → String
  | empty => "Empty"
  | literal => "Literal"
  | owned => "Owned"
  | aliased => "Alias"

end Ownership

structure ByteString where
  data : Option Storage
  length : UInt32
  flags : Flags
deriving DecidableEq

/-- A zero byte inside a text that is to be terminated by one, at the first place where there is one. -/
structure InteriorNul where
  position : Nat
deriving DecidableEq, Repr

namespace InteriorNul

def message (failure : InteriorNul) : String :=
  s!"nul byte found in provided data at position: {failure.position}"

end InteriorNul

namespace ByteString

/-- The largest length that can be counted. -/
def maxLength : Nat := UInt32.size - 1

/-- No data, no length, no flags. -/
def empty : ByteString := ⟨none, 0, Flags.empty⟩

/-- Show bytes at a source without copying, at most as many as can be counted. -/
def ofBytes (source : Nat) (bytes : List UInt8) : ByteString :=
  let counted := bytes.take maxLength
  ⟨some (.literal source counted), UInt32.ofNat counted.length, Flags.empty⟩

/-- Show a literal that ends with a terminator, which the length does not count. A literal too long to
be counted is shown without its terminator. -/
def ofLiteral (source : Nat) (bytes : List UInt8) : ByteString :=
  if bytes.length ≤ maxLength then
    ⟨some (.literal source (bytes ++ [0])), UInt32.ofNat bytes.length, Flags.nulTerminated⟩
  else ofBytes source bytes

/-- Show bytes as a literal with a terminator, provided that none of them is zero. -/
def ofText? (source : Nat) (bytes : List UInt8) : Except InteriorNul ByteString :=
  match bytes.findIdx? (· == 0) with
  | some position => .error ⟨position⟩
  | none => .ok (ofLiteral source bytes)

/-- Move the contents into a new string; the second result is what stays behind. -/
def take (string : ByteString) : ByteString × ByteString :=
  let taken := OwnedText.take string.data
  (⟨taken.moved, string.length, string.flags⟩, ⟨taken.left, 0, Flags.empty⟩)

/-- The same data, length and flags, without owning anything. -/
def aliasOf (string : ByteString) : ByteString :=
  { string with data := string.data.map fun storage => .aliased storage.address storage.bytes }

def isEmpty (string : ByteString) : Bool := string.length == 0

/-- A zero byte follows the counted bytes. -/
def isNulTerminated (string : ByteString) : Bool := string.flags.contains Flags.nulTerminated

def ownership (string : ByteString) : Ownership :=
  match string.data with
  | none => .empty
  | some (.literal ..) => .literal
  | some (.aliased ..) => .aliased
  | some (.owned _) => .owned

/-- All bytes that are stored. -/
def stored (string : ByteString) : List UInt8 := (string.data.map Storage.bytes).getD []

/-- The counted bytes. -/
def bytes (string : ByteString) : Except OutOfRange (List UInt8) :=
  match string.data with
  | none => .ok []
  | some storage => window string.length.toNat storage.bytes

/-- The counted bytes and the terminator, for strings that have one. -/
def bytesWithNul (string : ByteString) : Except OutOfRange (Option (List UInt8)) :=
  match string.data with
  | none => .ok none
  | some storage =>
    if string.isNulTerminated then (window (string.length.toNat + 1) storage.bytes).map some
    else .ok none

/-- As many of the stored bytes as are counted, all of them for every string that can be built. -/
def counted (string : ByteString) : List UInt8 := string.stored.take string.length.toNat

/-- Where the data starts, if there is any. -/
def address (string : ByteString) : Option Address := string.data.bind Storage.address

/-- How many bytes a copy needs. -/
def copySize (string : ByteString) : Nat :=
  string.length.toNat + if string.isNulTerminated then 1 else 0

/-- An independent copy in a buffer of its own. A copy that needs no bytes asks for none and has no
data.

Neither the counted bytes nor the new buffer can be too short. A consistent string stores all that it
counts, so `counted` is the whole view of it (`Consistent.bytes_eq`); and a buffer that was asked for has just
the length of the content, so the write succeeds and nothing else is left in it (`Buffer.write?_whole`).
`Consistent.copying` shows both, and `Workspace.Reachable.consistent` that every string in use is consistent. -/
def copy (heap : Heap) (string : ByteString) : Reply (Except AllocationError ByteString) :=
  if string.copySize = 0 then ⟨.ok ⟨none, 0, string.flags⟩, heap, []⟩
  else
    let started := Event.copying string.length.toNat string.isNulTerminated
    let reply := heap.tryAllocate string.copySize
    match reply.value with
    | .error cause => ⟨.error cause, reply.heap, started :: reply.events⟩
    | .ok buffer =>
      let content := string.counted ++ if string.isNulTerminated then [0] else []
      -- `none` does not come up here, see above.
      let filled := (buffer.write? 0 content).getD buffer
      ⟨.ok ⟨some (.owned filled), string.length, string.flags⟩, reply.heap, started :: reply.events⟩

/-- Give back what the string owns; borrowed bytes stay where they are. -/
def release (heap : Heap) (string : ByteString) : Heap :=
  match string.data with
  | some (.owned buffer) => heap.drop buffer
  | _ => heap

/-- Strings are equal if their counted bytes are. -/
def agrees (string other : ByteString) : Bool := string.counted == other.counted

/-- The form used for inspection. -/
def describe (string : ByteString) : String :=
  let bytes := String.ofList (Escape.ofBytes string.counted)
  s!"JoStr \x7b ownership: {string.ownership.name}, length: {string.length.toNat}, flags: {string.flags.describe}, bytes: \"{bytes}\" \x7d"

end ByteString

end OwnedText
