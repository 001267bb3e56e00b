import OwnedText.Proofs.Memory.Coverage
import OwnedText.Proofs.Memory.Slots

/-! # Resizing is making anew

Resizing a buffer in its block is meant to look like making a new buffer of the other size, copying what
both have room for, and releasing the old one. The request is granted in the same cases and the bytes are
the same. As the heap accounts for the buffers that are held afterwards in either way, and these are as
large, as many blocks and bytes are live. The one difference is which block a buffer is in.
-/

namespace OwnedText

/-- The bytes of a content; there are none without a buffer. -/
def Buffer.contents (content : Option Buffer) : List UInt8 := content.elim [] Buffer.bytes

/-- A buffer without a block is empty. -/
theorem Buffer.bytes_of_none {buffer : Buffer} (absent : buffer.block = none) : buffer.bytes = [] := by
  have owns := buffer.owns_block
  rw [absent] at owns
  simpa using owns

/-- Every buffer that is not empty has an entry of its size in the ledger. -/
theorem Buffer.map_size_ownBlock? (buffers : List Buffer) :
    (buffers.filterMap ownBlock?).map Block.size = (buffers.map length).filter (· != 0) := by
  induction buffers with
  | nil => rfl
  | cons buffer rest ih =>
    cases block : buffer.block with
    | none =>
      have empty : buffer.length = 0 := by rw [length, bytes_of_none block, List.length_nil]
      rw [List.filterMap_cons_none (ownBlock?_of_none block), ih, List.map_cons, empty]
      rfl
    | some number =>
      have nonempty : (buffer.length != 0) = true := by
        have owns := buffer.owns_block
        rw [block] at owns
        simpa [length] using owns
      rw [List.filterMap_cons_some (ownBlock?_of_block block), List.map_cons, ih, List.map_cons,
        List.filter_cons_of_pos (p := (· != 0)) nonempty]

namespace Heap

/-- A request for so many bytes succeeds. -/
def Grants (heap : Heap) (size : Nat) : Prop :=
  size = 0 ∨ size ≤ largestLayout ∧ heap.refuses size = false

instance (heap : Heap) (size : Nat) : Decidable (heap.Grants size) := by
  unfold Grants
  infer_instance

section Contents

variable {heap : Heap} {size : Nat}

@[simp] theorem resizedBytes_nil (size : Nat) : resizedBytes [] size = List.replicate size 0 := by
  rw [resizedBytes, List.take_nil, List.nil_append, List.length_nil, Nat.sub_zero]

/-- What both sizes have room for stays in front. -/
theorem resizedBytes_eq (bytes : List UInt8) (size : Nat) : resizedBytes bytes size =
    bytes.take (min bytes.length size) ++ List.replicate (size - bytes.length) 0 := by
  rw [resizedBytes, Nat.min_comm, ← List.take_eq_take_min]

/-- Zeros have room for what is copied in front of them. -/
private theorem exists_write?_zeros (bytes : List UInt8) {size : Nat} {buffer : Buffer}
    (zeros : buffer.bytes = List.replicate size 0) :
    ∃ written, buffer.write? 0 (bytes.take size) = some written ∧
      written.bytes = resizedBytes bytes size := by
  have length : (bytes.take size).length = min size bytes.length := List.length_take
  have inside : 0 + (bytes.take size).length ≤ buffer.bytes.length := by
    rw [zeros, List.length_replicate]
    omega
  have rest : size - (0 + (bytes.take size).length) = size - bytes.length := by omega
  refine ⟨_, dif_pos inside, ?_⟩
  change Buffer.splice buffer.bytes 0 (bytes.take size) = resizedBytes bytes size
  rw [Buffer.splice, zeros, List.drop_replicate, rest]
  rfl

theorem grants_zero : heap.Grants 0 := .inl rfl

theorem not_grants_of_large (positive : 0 < size) (large : largestLayout < size) : ¬ heap.Grants size := by
  rintro (zero | ⟨small, _⟩) <;> omega

theorem not_grants_of_refused (positive : 0 < size) (refuses : heap.refuses size = true) :
    ¬ heap.Grants size := by
  rintro (zero | ⟨_, granted⟩)
  · omega
  · exact Bool.eq_false_iff.mp granted refuses

theorem bytes_tryAllocate (heap : Heap) (size : Nat) :
    (heap.tryAllocate size).value.toOption.map Buffer.bytes =
      if heap.Grants size then some (List.replicate size 0) else none := by
  have ends := allocation_tryAllocate heap size
  generalize heap.tryAllocate size = reply at ends ⊢
  cases ends with
  | nothing zero =>
    subst zero
    rw [if_pos grants_zero]
    rfl
  | indescribable positive large => rw [if_neg (not_grants_of_large positive large)]; rfl
  | refused positive _ refuses => rw [if_neg (not_grants_of_refused positive refuses)]; rfl
  | granted _ describable grants buffer _ bytes =>
    rw [if_pos (.inr ⟨describable, grants⟩), ← bytes]
    rfl

theorem bytes_allocate (heap : Heap) (size : Nat) : (heap.allocate size).value.map Buffer.bytes =
    if heap.Grants size then some (List.replicate size 0) else none :=
  bytes_tryAllocate heap size

theorem bytes_reallocate (heap : Heap) (buffer : Buffer) (size : Nat) :
    (heap.reallocate buffer size).value.toOption.map Buffer.bytes =
      if heap.Grants size then some (resizedBytes buffer.bytes size) else none := by
  cases block : buffer.block with
  | none =>
    rw [reallocate_of_none heap size block, Buffer.bytes_of_none block, resizedBytes_nil]
    exact bytes_tryAllocate heap size
  | some number =>
    have ends := reallocation_reallocate heap size block
    generalize heap.reallocate buffer size = reply at ends ⊢
    cases ends with
    | nothing zero =>
      subst zero
      rw [if_pos grants_zero, resizedBytes, List.take_zero, Nat.zero_sub]
      rfl
    | indescribable positive large => rw [if_neg (not_grants_of_large positive large)]; rfl
    | refused positive _ refuses => rw [if_neg (not_grants_of_refused positive refuses)]; rfl
    | granted _ describable grants resized _ bytes =>
      rw [if_pos (.inr ⟨describable, grants⟩), ← bytes]
      rfl

/-- Whatever a slot holds, resizing it succeeds whenever a new buffer could be made. -/
theorem bytes_resize (heap : Heap) (slot : Option Buffer) (size : Nat) :
    (heap.resize slot size).value.moved.map Buffer.bytes =
      if heap.Grants size then some (resizedBytes (Buffer.contents slot) size) else none := by
  cases slot with
  | none =>
    rw [Buffer.contents, Option.elim_none, resizedBytes_nil]
    exact bytes_allocate heap size
  | some buffer =>
    rw [Buffer.contents, Option.elim_some, ← bytes_reallocate, resize]
    simp only [take]
    split
    · rename_i resized value
      rw [value]
      rfl
    · rename_i cause value
      rw [value]
      rfl

theorem isSome_moved_resize (heap : Heap) (slot : Option Buffer) (size : Nat) :
    (heap.resize slot size).value.moved.isSome ↔ heap.Grants size := by
  rw [← Option.isSome_map (f := Buffer.bytes), bytes_resize]
  split <;> simp [*]

theorem isSome_allocate (heap : Heap) (size : Nat) :
    (heap.allocate size).value.isSome ↔ heap.Grants size := by
  rw [← Option.isSome_map (f := Buffer.bytes), bytes_allocate]
  split <;> simp [*]

theorem bytes_of_resize {slot : Option Buffer} {resized : Buffer}
    (success : (heap.resize slot size).value.moved = some resized) :
    resized.bytes = resizedBytes (Buffer.contents slot) size := by
  have bytes := bytes_resize heap slot size
  rw [success] at bytes
  split at bytes
  · exact Option.some.inj bytes
  · contradiction

end Contents

/-- As many live blocks, of the same sizes, and no misuse of either heap. -/
structure SameUse (heap other : Heap) : Prop where
  sizes : (heap.live.map Block.size).Perm (other.live.map Block.size)
  blockCount : heap.blockCount = other.blockCount
  byteCount : heap.byteCount = other.byteCount
  faultless : heap.faults = 0 ∧ other.faults = 0

/-- Heaps that account for buffers of the same lengths have the same sizes live. -/
theorem Accounts.sameUse {heap other : Heap} {buffers others : List Buffer}
    (accounts : heap.Accounts buffers) (accounts' : other.Accounts others)
    (same : buffers.map Buffer.length = others.map Buffer.length) : heap.SameUse other := by
  have sizes : (heap.live.map Block.size).Perm (other.live.map Block.size) := by
    have live := accounts.live.map Block.size
    rw [Buffer.map_size_ownBlock?, same, ← Buffer.map_size_ownBlock?] at live
    exact live.trans (accounts'.live.map Block.size).symm
  refine ⟨sizes, ?_, ?_, accounts.faultless, accounts'.faultless⟩
  · rw [blockCount, blockCount, ← List.length_map Block.size, sizes.length_eq, List.length_map]
  · rw [byteCount_eq_sum, byteCount_eq_sum, sizes.sum_nat]

/-- What resizing a content leaves besides other buffers: the content is gone, and what comes back has the
new length. It holds what was in front of the content as far as both lengths go, and zeros behind. It
comes back in the cases in which a new buffer could be made, and the heap is used as if that one had been
made and the content released. -/
structure Resizes (heap : Heap) (slot : Option Buffer) (others : List Buffer) (size : Nat) : Prop where
  cleared : (heap.resize slot size).value.left = none
  present_iff : (heap.resize slot size).value.moved.isSome ↔ (heap.allocate size).value.isSome
  granted_iff : (heap.resize slot size).value.moved.isSome ↔
    size = 0 ∨ size ≤ Nat.pow 2 63 - 16 ∧ heap.refuses size = false
  length : ∀ resized, (heap.resize slot size).value.moved = some resized → resized.length = size
  kept : ∀ resized, (heap.resize slot size).value.moved = some resized →
    resized.bytes.take (min (Buffer.contents slot).length size) =
      (Buffer.contents slot).take (min (Buffer.contents slot).length size)
  zeros : ∀ resized, (heap.resize slot size).value.moved = some resized →
    ∀ byte ∈ resized.bytes.drop (min (Buffer.contents slot).length size), byte = 0
  others : (heap.resize slot size).heap.Accounts ((heap.resize slot size).value.moved.toList ++ others)
  sameUse : (heap.resize slot size).heap.SameUse ((heap.allocate size).heap.release slot)

theorem Accounts.resizes {heap : Heap} {slot : Option Buffer} {others : List Buffer}
    (accounts : heap.Accounts (slot.toList ++ others)) (size : Nat) : heap.Resizes slot others size where
  cleared := left_resize heap slot size
  present_iff := (isSome_moved_resize heap slot size).trans (isSome_allocate heap size).symm
  granted_iff := isSome_moved_resize heap slot size
  length resized success := by
    simp [Buffer.length, bytes_of_resize success]
  kept resized success := by
    rw [bytes_of_resize success, resizedBytes_eq,
      List.take_left' (List.length_take_of_le (Nat.min_le_left _ _))]
  zeros resized success byte member := by
    rw [bytes_of_resize success, resizedBytes_eq,
      List.drop_left' (List.length_take_of_le (Nat.min_le_left _ _))] at member
    exact List.eq_of_mem_replicate member
  others := accounts.resize size
  sameUse := by
    have renewed : ((heap.allocate size).heap.release slot).Accounts
        ((heap.allocate size).value.toList ++ others) :=
      ((accounts.allocate size).perm (List.perm_append_comm_assoc ..)).release
    have lengths : (heap.resize slot size).value.moved.map Buffer.length =
        (heap.allocate size).value.map Buffer.length := by
      have resized := congrArg (Option.map List.length) (bytes_resize heap slot size)
      have fresh := congrArg (Option.map List.length) (bytes_allocate heap size)
      rw [Option.map_map] at resized fresh
      refine resized.trans (.trans ?_ fresh.symm)
      split
      · simp
      · rfl
    refine (accounts.resize size).sameUse renewed ?_
    rw [List.map_append, List.map_append, ← Option.toList_map, ← Option.toList_map, lengths]

end Heap

namespace Workbench

variable {α : Type} {element : Element α}

section Renewing

variable (bench : Workbench element) (source target size : Nat)

/-- What is left when a content was resized into another slot. -/
def resized : Workbench element := (bench.step (.resize source target size)).bench

/-- What is left when a new buffer was made in the other slot, when what both sizes have room for was
copied into it, and when the old content was released. -/
def renewed : Workbench element :=
  bench.run [.allocate target size, .write target 0 ((Buffer.contents (bench.slot source)).take size),
    .release source]

@[simp] theorem bundles_resized : (bench.resized source target size).bundles = bench.bundles :=
  bundles_storeSlot _ _ _

/-- Afterwards all places hold the same bytes in either way, and as much is live. -/
structure Renews : Prop where
  slots : (bench.resized source target size).slots.map (Option.map Buffer.bytes) =
    (bench.renewed source target size).slots.map (Option.map Buffer.bytes)
  bundles : (bench.resized source target size).bundles = (bench.renewed source target size).bundles
  sameUse : (bench.resized source target size).heap.SameUse (bench.renewed source target size).heap

variable {bench source target} (apart : target ≠ source) (present : target < bench.slots.length)
  (absent : bench.slot target = none)
include apart present absent

private theorem resized_eq : bench.resized source target size =
    ((bench.setSlot source none).withHeap (bench.heap.resize (bench.slot source) size).heap).setSlot target
      (bench.heap.resize (bench.slot source) size).value.moved := by
  have there : target < (bench.setSlot source none).slots.length := by simpa using present
  have nothing : (bench.setSlot source none).slot target = none := by simpa [apart] using absent
  rw [resized]
  simp only [step, Heap.left_resize]
  exact ((bench.setSlot source none).withHeap _).storeSlot_of_absent _ there nothing

/-- If a new buffer is made, it has room for what is copied into it. -/
private theorem exists_renewed : ∃ filled : Option Buffer, filled.map Buffer.bytes =
      (if bench.heap.Grants size then
        some (Heap.resizedBytes (Buffer.contents (bench.slot source)) size) else none) ∧
    bench.renewed source target size = ((bench.setSlot target filled).setSlot source none).withHeap
      ((bench.heap.allocate size).heap.release (bench.slot source)) := by
  have made : (bench.step (.allocate target size)).bench =
      (bench.withHeap (bench.heap.allocate size).heap).setSlot target (bench.heap.allocate size).value :=
    (bench.withHeap _).storeSlot_of_absent _ present absent
  have there : ((bench.withHeap (bench.heap.allocate size).heap).setSlot target
      (bench.heap.allocate size).value).slot target = (bench.heap.allocate size).value := by
    simp [present]
  have released (filled : Option Buffer) :
      (((bench.withHeap (bench.heap.allocate size).heap).setSlot target filled).step
        (.release source)).bench = ((bench.setSlot target filled).setSlot source none).withHeap
          ((bench.heap.allocate size).heap.release (bench.slot source)) := by
    have same : ((bench.withHeap (bench.heap.allocate size).heap).setSlot target filled).slot source =
        bench.slot source := by simp [apart.symm]
    simp only [step, OwnedText.take, same]
    rfl
  have bytes := Heap.bytes_allocate bench.heap size
  cases value : (bench.heap.allocate size).value with
  | none =>
    rw [value] at made there bytes
    have refused : ¬ bench.heap.Grants size := fun grants => by simp [grants] at bytes
    refine ⟨none, (if_neg refused).symm, ?_⟩
    simp only [renewed, run, made, step_write_of_absent there]
    exact released none
  | some buffer =>
    rw [value] at made there bytes
    have granted : bench.heap.Grants size := by
      by_contra refused
      simp [refused] at bytes
    have zeros : buffer.bytes = List.replicate size 0 := by simpa [granted] using bytes
    obtain ⟨written, success, copied⟩ := Heap.exists_write?_zeros (Buffer.contents (bench.slot source)) zeros
    refine ⟨some written, ?_, ?_⟩
    · rw [if_pos granted, Option.map_some, copied]
    · simp only [renewed, run, made, step_write_of_some there success, setSlot_setSlot]
      exact released (some written)

private theorem map_bytes_resized : (bench.resized source target size).slots.map (Option.map Buffer.bytes) =
    (bench.renewed source target size).slots.map (Option.map Buffer.bytes) := by
  obtain ⟨filled, bytes, renewed⟩ := exists_renewed size apart present absent
  have slots : (bench.renewed source target size).slots = (bench.slots.set target filled).set source none := by
    rw [renewed]
    rfl
  have slots' : (bench.resized source target size).slots = (bench.slots.set source none).set target
      (bench.heap.resize (bench.slot source) size).value.moved := by
    rw [resized_eq size apart present absent]
    rfl
  rw [slots, slots', List.set_comm _ _ apart, List.map_set, List.map_set, List.map_set, List.map_set,
    bytes, Heap.bytes_resize]

private theorem bundles_renewed : (bench.renewed source target size).bundles = bench.bundles := by
  obtain ⟨filled, _, renewed⟩ := exists_renewed size apart present absent
  rw [renewed]
  rfl

theorem renews (accounts : bench.heap.Accounts bench.held) : bench.Renews source target size := by
  have slots := map_bytes_resized size apart present absent
  have same := bundles_resized bench source target size
  have same' := bundles_renewed size apart present absent
  have resized : (bench.resized source target size).heap.Accounts (bench.resized source target size).held :=
    accounts_step accounts (.resize source target size)
  have renewed : (bench.renewed source target size).heap.Accounts (bench.renewed source target size).held :=
    accounts_step (accounts_step (accounts_step accounts _) _) _
  refine ⟨slots, same.trans same'.symm, resized.sameUse renewed ?_⟩
  -- The lengths of what is held are those of the bytes in all places.
  have held (bench : Workbench element) : bench.held.map Buffer.length =
      ((bench.slots.map (Option.map Buffer.bytes)).filterMap id).map List.length ++
        (bench.bundles.filterMap Bundle.data).map Buffer.length := by
    rw [Workbench.held, List.map_append]
    congr 1
    rw [List.filterMap_map, List.map_filterMap, List.map_filterMap]
    refine List.filterMap_congr fun content _ => ?_
    cases content <;> rfl
  rw [held, held, slots, same, same']

end Renewing

/-- Resizing what a slot holds is renewing it: by what comes back and by what the heap is used for, besides
all other buffers; by every other place, which keeps its buffer; and, where another slot is free for the
new buffer, by comparison with the actions that make it, fill it and release the old one. -/
structure Resizing (bench : Workbench element) (source size : Nat) : Prop where
  resizes : bench.heap.Resizes (bench.slot source) (bench.setSlot source none).held size
  others : ∀ target index, index ≠ source → index ≠ target →
    (bench.resized source target size).slot index = bench.slot index
  bundles : ∀ target, (bench.resized source target size).bundles = bench.bundles
  renews : ∀ target, target ≠ source → target < bench.slots.length → bench.slot target = none →
    bench.Renews source target size

/-- Whatever a slot holds, whatever the heap refuses and whatever the new size is. -/
theorem resizing_of_accounts {bench : Workbench element} (accounts : bench.heap.Accounts bench.held)
    (source size : Nat) : bench.Resizing source size where
  resizes := (accounts_takeSlot accounts source).resizes size
  others target index other_source other_target :=
    slot_step_of_notMem _ (by simp [Action.slots, other_source, other_target])
  bundles target := bundles_resized bench source target size
  renews _ apart present absent := renews size apart present absent accounts

/-- A block that is asked for once more in its own size, which is refused by now, goes back. -/
theorem resizing_of_refusal :
    ∃ bench : Workbench (Element.unsigned 4),
      bench = (empty 3 0).run [.allocate 0 4, .fill 0 7, .allocate 1 8, .refuse 4] ∧
      bench.heap.Accounts bench.held ∧ Buffer.contents (bench.slot 0) = [7, 8, 9, 10] ∧
      (bench.resized 0 2 4).slots = [none, bench.slot 1, none] ∧
      (bench.resized 0 2 4).heap.live = [⟨1, 8⟩] ∧ bench.Resizing 0 4 := by
  have reachable := Reachable.run (.start 3 0 : Reachable (empty 3 0 : Workbench (Element.unsigned 4)))
    [.allocate 0 4, .fill 0 7, .allocate 1 8, .refuse 4]
  exact ⟨_, rfl, reachable.accounts, by decide +kernel, by decide +kernel, by decide +kernel,
    resizing_of_accounts reachable.accounts 0 4⟩

end Workbench

end OwnedText
