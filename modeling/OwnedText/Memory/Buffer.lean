/-! # Buffers

A buffer is a run of bytes with one owner. Every non-empty buffer lives in a heap block of its own and
an empty buffer in none, so which buffers cost memory can be read off the buffers themselves.
-/

namespace OwnedText

/-- Alignment of every buffer, enough for any element type in use. -/
def maxAlignment : Nat := 16

structure Buffer where
  block : Option Nat
  bytes : List UInt8
  owns_block : block.isSome = !bytes.isEmpty
deriving DecidableEq

namespace Buffer

/-- No bytes and no block. -/
def empty : Buffer := ⟨none, [], rfl⟩

def length (buffer : Buffer) : Nat := buffer.bytes.length

def isEmpty (buffer : Buffer) : Bool := buffer.bytes.isEmpty

/-- Contents of a non-empty block. -/
def ofBlock (block : Nat) (bytes : List UInt8) (nonempty : bytes ≠ []) : Buffer :=
  ⟨some block, bytes, by cases bytes <;> simp_all⟩

/-- The bytes after `content` has replaced those from `offset` on. -/
def splice (bytes : List UInt8) (offset : Nat) (content : List UInt8) : List UInt8 :=
  bytes.take offset ++ content ++ bytes.drop (offset + content.length)

theorem length_splice {bytes content : List UInt8} {offset : Nat}
    (inside : offset + content.length ≤ bytes.length) :
    (splice bytes offset content).length = bytes.length := by
  simp only [splice, List.length_append, List.length_take, List.length_drop]
  omega

/-- Replace the bytes by as many others, in the same block. -/
def withBytes (buffer : Buffer) (bytes : List UInt8)
    (sameLength : bytes.length = buffer.bytes.length) : Buffer :=
  ⟨buffer.block, bytes, by
    rw [buffer.owns_block]
    cases old : buffer.bytes <;> cases bytes <;> simp_all⟩

/-- Overwrite the bytes from `offset` on; nothing is written unless all of `content` fits. -/
def write? (buffer : Buffer) (offset : Nat) (content : List UInt8) : Option Buffer :=
  if inside : offset + content.length ≤ buffer.bytes.length then
    some (buffer.withBytes (splice buffer.bytes offset content) (length_splice inside))
  else none

/-- Give byte `i` the value `seed + i` modulo 256. -/
def fill (buffer : Buffer) (seed : Nat) : Buffer :=
  buffer.withBytes (buffer.bytes.mapIdx fun index _ => UInt8.ofNat (seed + index))
    List.length_mapIdx

/-- The form used for inspection; where the bytes are is no part of it. -/
def describe (buffer : Buffer) : String :=
  s!"OwnedBuf \x7b ptr: PTR, len: {buffer.length} \x7d"

end Buffer

end OwnedText
