import OwnedText.Memory.Heap

/-! # How a request to the heap ends

A request for memory ends in one of four ways, and a request for another size in one of five. The two
relations list them, each with the conditions under which it is the one, so an argument about requests
is an argument by cases over these endings and never looks into the requests again.
-/

namespace OwnedText

/-- The entry of a block after block `number` has got another size. -/
def Block.altered (number size : Nat) (block : Block) : Block :=
  if block.number == number then ⟨number, size⟩ else block

@[simp] theorem Block.number_altered (number size : Nat) (block : Block) :
    (block.altered number size).number = block.number := by
  rw [altered]
  split
  · rename_i same
    exact (beq_iff_eq.mp same).symm
  · rfl

theorem Block.altered_of_ne {number : Nat} (size : Nat) {block : Block} (other : block.number ≠ number) :
    block.altered number size = block := if_neg fun same => other (beq_iff_eq.mp same)

namespace Heap

/-- The ledger behind a new block. -/
def adding (heap : Heap) (size : Nat) : Heap :=
  { heap with live := ⟨heap.next, size⟩ :: heap.live, next := heap.next + 1 }

/-- A block that is discarded as soon as it was made leaves no trace in the ledger. -/
theorem discard_adding (heap : Heap) (size : Nat) :
    ((heap.adding size).discard heap.next).live = heap.live ∧
      ((heap.adding size).discard heap.next).faults = heap.faults := by
  have live : (heap.adding size).isLive heap.next = true :=
    List.any_eq_true.mpr ⟨_, List.mem_cons_self, beq_self_eq_true heap.next⟩
  rw [discard, touching, if_pos live]
  refine ⟨?_, rfl⟩
  exact List.eraseP_cons_of_pos (p := fun block : Block => block.number == heap.next)
    (beq_self_eq_true heap.next)

/-- The ledger behind another size of a block. -/
def altering (heap : Heap) (number size : Nat) : Heap :=
  { heap.touching number with live := heap.live.map (Block.altered number size) }

/-- The ways in which a request for `size` bytes can end. -/
inductive Allocation (heap : Heap) (size : Nat) : Reply (Except AllocationError Buffer) → Prop
  | nothing (zero : size = 0) : Allocation heap size ⟨.ok .empty, heap, []⟩
  | indescribable (positive : 0 < size) (large : largestLayout < size) :
    Allocation heap size
      ⟨.error (.layoutOverflow size), heap, [.rejectedAllocation size (.layoutOverflow size)]⟩
  | refused (positive : 0 < size) (describable : size ≤ largestLayout) (refuses : heap.refuses size = true) :
    Allocation heap size ⟨.error (.exhausted size), heap, [.allocationFailed size]⟩
  | granted (positive : 0 < size) (describable : size ≤ largestLayout) (grants : heap.refuses size = false)
    (buffer : Buffer) (block : buffer.block = some heap.next) (bytes : buffer.bytes = List.replicate size 0) :
    Allocation heap size ⟨.ok buffer, heap.adding size, []⟩

theorem allocation_tryAllocate (heap : Heap) (size : Nat) :
    Allocation heap size (heap.tryAllocate size) := by
  rw [tryAllocate]
  split
  · rename_i positive
    split
    · rename_i large
      exact .indescribable positive large
    · rename_i describable
      cases refuses : heap.refuses size with
      | true =>
        simp only [acquire, refuses]
        exact .refused positive (Nat.le_of_not_lt describable) refuses
      | false =>
        simp only [acquire, refuses]
        exact .granted positive (Nat.le_of_not_lt describable) refuses _ rfl rfl
  · rename_i zero
    exact .nothing (Nat.eq_zero_of_not_pos zero)

/-- The ways in which a buffer in a block can be given another size. Unless the size is granted, the
block has gone back. -/
inductive Reallocation (heap : Heap) (buffer : Buffer) (number size : Nat) :
    Reply (Except AllocationError Buffer) → Prop
  | nothing (zero : size = 0) :
    Reallocation heap buffer number size ⟨.ok .empty, heap.discard number, [.resizing buffer.length size]⟩
  | indescribable (positive : 0 < size) (large : largestLayout < size) :
    Reallocation heap buffer number size
      ⟨.error (.layoutOverflow size), heap.discard number, [.resizing buffer.length size]⟩
  | refused (positive : 0 < size) (describable : size ≤ largestLayout) (refuses : heap.refuses size = true) :
    Reallocation heap buffer number size
      ⟨.error (.exhausted size), heap.discard number, [.resizing buffer.length size]⟩
  | granted (positive : 0 < size) (describable : size ≤ largestLayout) (grants : heap.refuses size = false)
    (resized : Buffer) (block : resized.block = some number)
    (bytes : resized.bytes = resizedBytes buffer.bytes size) :
    Reallocation heap buffer number size
      ⟨.ok resized, heap.altering number size, [.resizing buffer.length size]⟩

theorem reallocation_reallocate (heap : Heap) {buffer : Buffer} {number : Nat} (size : Nat)
    (block : buffer.block = some number) :
    Reallocation heap buffer number size (heap.reallocate buffer size) := by
  rw [reallocate]
  split
  · rename_i none
    rw [none] at block
    contradiction
  · rename_i number' block'
    obtain rfl : number' = number := Option.some.inj (block'.symm.trans block)
    split
    · rename_i positive
      split
      · rename_i large
        exact .indescribable positive large
      · rename_i describable
        cases refuses : heap.refuses size with
        | true =>
          simp only [regrow, refuses]
          exact .refused positive (Nat.le_of_not_lt describable) refuses
        | false =>
          simp only [regrow, refuses]
          exact .granted positive (Nat.le_of_not_lt describable) refuses _ rfl
            (clearedBytes_movedBytes heap.stale buffer.bytes size)
    · rename_i zero
      exact .nothing (Nat.eq_zero_of_not_pos zero)

/-- A buffer without a block is resized by a request for a new one. -/
theorem reallocate_of_none (heap : Heap) {buffer : Buffer} (size : Nat) (none : buffer.block = none) :
    heap.reallocate buffer size =
      ⟨(heap.tryAllocate size).value, (heap.tryAllocate size).heap,
        .resizing buffer.length size :: (heap.tryAllocate size).events⟩ := by
  rw [reallocate]
  split
  · rfl
  · rename_i number block
    rw [none] at block
    contradiction

/-- Resizing clears the slot before it does anything else. -/
@[simp] theorem left_resize (heap : Heap) (slot : Option Buffer) (size : Nat) :
    (heap.resize slot size).value.left = none := by
  cases slot with
  | none => rfl
  | some buffer =>
    simp only [resize, take]
    split <;> rfl

end Heap

end OwnedText
