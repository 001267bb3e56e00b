import OwnedText.Event
import OwnedText.Memory.Buffer

/-! # The heap

A heap is a ledger of live blocks together with a policy that says which sizes it refuses. The policy
is an arbitrary predicate, so whatever is stated for all heaps holds under every pattern of refusals.
Blocks are numbered in the order in which they are handed out, and a number is never used twice.

A block may be given back or resized only while it is live. The ledger counts every attempt to do
so with a block that is not, so that giving a block back twice leaves a trace instead of passing
unnoticed.

Requests go through three gates: nothing at all is needed for zero bytes, a size above
`largestLayout` cannot be described, and any other size is up to the policy. Resizing gives up the
old buffer whatever the outcome: what comes back is the only buffer left.

A block that grows keeps its bytes and comes with more memory, in which anything may stand. What does is
up to the heap, as an arbitrary function again, and is written over with zeros before anybody sees it:
`clearedBytes_movedBytes` says that nothing is left of it.
-/

namespace OwnedText

structure Block where
  number : Nat
  size : Nat
deriving DecidableEq, Repr

structure Heap where
  live : List Block
  next : Nat
  refuses : Nat → Bool
  faults : Nat
  stale : Nat → UInt8

/-- What an operation returns, the heap that it leaves, and the events that it reports. -/
structure Reply (α : Type) where
  value : α
  heap : Heap
  events : List Event

/-- What moved out of a place, and what the place holds afterwards. -/
structure Transfer (α : Type) where
  moved : Option α
  left : Option α

/-- Move out whatever a slot holds; the slot is absent afterwards. -/
def take {α : Type} (slot : Option α) : Transfer α := ⟨slot, none⟩

/-- The largest size, in whole units of the alignment, that fits the positive half of the address range. -/
def largestLayout : Nat := Nat.pow 2 63 - maxAlignment

/-- Sizes from here on exceed what an address space of 47 bits can hold. -/
def addressSpace : Nat := Nat.pow 2 47

namespace Heap

/-- A heap without blocks that refuses what no address space can hold, in memory that is not zero. -/
def empty : Heap := ⟨[], 0, fun size => decide (addressSpace ≤ size), 0, fun _ => 0xaa⟩

/-- From now on, refuse exactly `size` besides what no address space can hold; zero refuses nothing. -/
def refusing (heap : Heap) (size : Nat) : Heap :=
  { heap with refuses := fun request => request == size || decide (addressSpace ≤ request) }

def blockCount (heap : Heap) : Nat := heap.live.length

/-- The sizes of all live blocks together. -/
def byteCount (heap : Heap) : Nat := heap.live.foldr (fun block total => block.size + total) 0

/-- Ask for a new block; the policy may refuse. -/
def acquire (heap : Heap) (size : Nat) : Option (Nat × Heap) :=
  if heap.refuses size then none
  else some (heap.next, { heap with live := ⟨heap.next, size⟩ :: heap.live, next := heap.next + 1 })

def isLive (heap : Heap) (number : Nat) : Bool := heap.live.any fun block => block.number == number

/-- The ledger after an attempt on a block: a fault is counted if the block is not live. -/
def touching (heap : Heap) (number : Nat) : Heap :=
  if heap.isLive number then heap else { heap with faults := heap.faults + 1 }

/-- Give a block back. -/
def discard (heap : Heap) (number : Nat) : Heap :=
  { heap.touching number with live := heap.live.eraseP fun block => block.number == number }

/-- Ask for another size of a live block; a refusal leaves the block as it was. -/
def regrow (heap : Heap) (number size : Nat) : Option Heap :=
  if heap.refuses size then none
  else some { heap.touching number with
    live := heap.live.map fun block => if block.number == number then ⟨number, size⟩ else block }

/-- Drop one buffer. An empty buffer owns nothing to give back. -/
def drop (heap : Heap) (buffer : Buffer) : Heap :=
  match buffer.block with
  | none => heap
  | some number => heap.discard number

/-- Return a slot's content to the heap. Releasing an absent buffer does nothing. -/
def release (heap : Heap) (content : Option Buffer) : Heap :=
  match content with
  | none => heap
  | some buffer => heap.drop buffer

/-- Request `size` zero bytes. -/
def tryAllocate (heap : Heap) (size : Nat) : Reply (Except AllocationError Buffer) :=
  if positive : 0 < size then
    if largestLayout < size then
      ⟨.error (.layoutOverflow size), heap, [.rejectedAllocation size (.layoutOverflow size)]⟩
    else
      match heap.acquire size with
      | none => ⟨.error (.exhausted size), heap, [.allocationFailed size]⟩
      | some (number, grown) =>
        ⟨.ok (.ofBlock number (List.replicate size 0) (by simp; omega)), grown, []⟩
  else ⟨.ok .empty, heap, []⟩

/-- Request `size` zero bytes and forget why a failure failed. -/
def allocate (heap : Heap) (size : Nat) : Reply (Option Buffer) :=
  let reply := heap.tryAllocate size
  ⟨reply.value.toOption, reply.heap, reply.events⟩

/-- The bytes of a block that has got another size: those that it had, as far as they fit, and behind them
what stood in the memory that came with it. -/
def movedBytes (stale : Nat → UInt8) (bytes : List UInt8) (size : Nat) : List UInt8 :=
  bytes.take size ++ (List.range (size - bytes.length)).map stale

/-- Write zeros over all that is behind the old bytes, if anything is. -/
def clearedBytes (oldLength : Nat) (bytes : List UInt8) : List UInt8 :=
  if oldLength < bytes.length then
    Buffer.splice bytes oldLength (List.replicate (bytes.length - oldLength) 0)
  else bytes

/-- The leading bytes that survive a change of size, and zeros up to the new size. -/
def resizedBytes (bytes : List UInt8) (size : Nat) : List UInt8 :=
  bytes.take size ++ List.replicate (size - bytes.length) 0

@[simp] theorem length_resizedBytes (bytes : List UInt8) (size : Nat) :
    (resizedBytes bytes size).length = size := by
  simp only [resizedBytes, List.length_append, List.length_take, List.length_replicate]
  omega

@[simp] theorem length_movedBytes (stale : Nat → UInt8) (bytes : List UInt8) (size : Nat) :
    (movedBytes stale bytes size).length = size := by
  simp only [movedBytes, List.length_append, List.length_take, List.length_map, List.length_range]
  omega

/-- Whatever stood in the memory that came with a new size, zeros are left of it. -/
theorem clearedBytes_movedBytes (stale : Nat → UInt8) (bytes : List UInt8) (size : Nat) :
    clearedBytes bytes.length (movedBytes stale bytes size) = resizedBytes bytes size := by
  rw [clearedBytes, length_movedBytes]
  split
  · rename_i grows
    have kept : bytes.take size = bytes := List.take_of_length_le (Nat.le_of_lt grows)
    have front : (movedBytes stale bytes size).take bytes.length = bytes := by
      rw [movedBytes, kept, List.take_left]
    have behind : (movedBytes stale bytes size).drop
        (bytes.length + (List.replicate (size - bytes.length) (0 : UInt8)).length) = [] := by
      apply List.drop_of_length_le
      rw [length_movedBytes, List.length_replicate]
      omega
    rw [Buffer.splice, front, behind, List.append_nil, resizedBytes, kept]
  · rename_i shrinks
    have nothing : size - bytes.length = 0 := by omega
    rw [movedBytes, resizedBytes, nothing]
    rfl

/-- Give a buffer another size. The buffer is used up: on failure its block has gone back. -/
def reallocate (heap : Heap) (buffer : Buffer) (size : Nat) : Reply (Except AllocationError Buffer) :=
  let started := Event.resizing buffer.length size
  match buffer.block with
  | none =>
    let reply := heap.tryAllocate size
    ⟨reply.value, reply.heap, started :: reply.events⟩
  | some number =>
    if positive : 0 < size then
      if largestLayout < size then ⟨.error (.layoutOverflow size), heap.discard number, [started]⟩
      else
        match heap.regrow number size with
        | none => ⟨.error (.exhausted size), heap.discard number, [started]⟩
        | some resized =>
          let bytes := clearedBytes buffer.length (movedBytes heap.stale buffer.bytes size)
          ⟨.ok (.ofBlock number bytes (by
            have length : bytes.length = size := by
              simp only [bytes, Buffer.length, clearedBytes_movedBytes, length_resizedBytes]
            exact List.ne_nil_of_length_pos (length ▸ positive))), resized, [started]⟩
    else ⟨.ok .empty, heap.discard number, [started]⟩

/-- Resize what a slot holds, absent slots as if by `allocate`. The slot is absent afterwards. -/
def resize (heap : Heap) (slot : Option Buffer) (size : Nat) : Reply (Transfer Buffer) :=
  let taken := take slot
  match taken.moved with
  | none =>
    let reply := heap.allocate size
    ⟨⟨reply.value, taken.left⟩, reply.heap, reply.events⟩
  | some buffer =>
    let reply := heap.reallocate buffer size
    match reply.value with
    | .ok resized => ⟨⟨some resized, taken.left⟩, reply.heap, reply.events⟩
    | .error cause => ⟨⟨none, taken.left⟩, reply.heap, reply.events ++ [.resizeFailed size cause]⟩

end Heap

end OwnedText
