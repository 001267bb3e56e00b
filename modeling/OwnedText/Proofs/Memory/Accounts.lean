import Mathlib.Algebra.Ring.Nat
import Mathlib.Data.List.Nodup
import Mathlib.Data.List.Perm.Basic
import OwnedText.Memory.Bundle
import OwnedText.Proofs.Memory.Requests

/-! # The ledger accounts for its buffers

A heap accounts for a collection of buffers if its live blocks are those of the buffers that are not
empty, one block each, and if no block was ever given back or resized while it was not live. Every
operation turns a heap that accounts for the buffers it is given, besides any others, into one that
accounts for the buffers it returns, besides the same others. How it ends makes no difference to that.
-/

namespace OwnedText

/-- The entry that a buffer has in the ledger, if it has any. -/
def Buffer.ownBlock? (buffer : Buffer) : Option Block :=
  buffer.block.map fun number => ⟨number, buffer.length⟩

theorem Buffer.ownBlock?_of_block {buffer : Buffer} {number : Nat} (block : buffer.block = some number) :
    buffer.ownBlock? = some ⟨number, buffer.length⟩ := by
  rw [ownBlock?, block]
  rfl

theorem Buffer.ownBlock?_of_none {buffer : Buffer} (absent : buffer.block = none) :
    buffer.ownBlock? = none := by
  rw [ownBlock?, absent]
  rfl

section Rows

variable {β γ : Type} (hold : β → Option γ) (items : List β) (absent : β)

/-- Putting an item into a place, instead of one that holds nothing, adds what the item holds. -/
theorem filterMap_set_perm (item : β) (nothing : hold absent = none) {index : Nat}
    (present : index < items.length) :
    ((items.set index item).filterMap hold).Perm
      ((hold item).toList ++ (items.set index absent).filterMap hold) := by
  have filled := (List.set_perm_cons_eraseIdx present item).filterMap hold
  have cleared := (List.set_perm_cons_eraseIdx present absent).filterMap hold
  rw [List.filterMap_cons_none nothing] at cleared
  have front : (item :: items.eraseIdx index).filterMap hold =
      (hold item).toList ++ (items.eraseIdx index).filterMap hold := by
    rw [List.filterMap_cons]
    cases hold item <;> rfl
  exact (filled.trans (.of_eq front)).trans (cleared.symm.append_left _)

/-- What a row of places holds, with what one of them holds in front. -/
theorem filterMap_perm_getD (nothing : hold absent = none) (index : Nat) :
    (items.filterMap hold).Perm
      ((hold ((items[index]?).getD absent)).toList ++ (items.set index absent).filterMap hold) := by
  rcases Nat.lt_or_ge index items.length with present | outside
  · have same := filterMap_set_perm hold items absent items[index] nothing present
    rwa [List.set_getElem_self, ← Option.getD_some (a := items[index]) (b := absent),
      ← List.getElem?_eq_getElem present] at same
  · rw [List.getElem?_eq_none outside, Option.getD_none, nothing, List.set_eq_of_length_le outside]
    rfl

end Rows

namespace Heap

theorem byteCount_eq_sum (heap : Heap) : heap.byteCount = (heap.live.map Block.size).sum := by
  rw [byteCount]
  induction heap.live with
  | nil => rfl
  | cons block rest ih => rw [List.foldr_cons, ih, List.map_cons, List.sum_cons]

/-- The live blocks are those of the buffers, each holding its own, and nothing was done to others. -/
structure Accounts (heap : Heap) (buffers : List Buffer) : Prop where
  live : heap.live.Perm (buffers.filterMap Buffer.ownBlock?)
  distinct : (heap.live.map Block.number).Nodup
  below : ∀ block ∈ heap.live, block.number < heap.next
  faultless : heap.faults = 0

theorem accounts_empty : empty.Accounts [] := ⟨.nil, .nil, by simp [empty], rfl⟩

namespace Accounts

variable {heap : Heap} {buffer : Buffer} {others : List Buffer} {number : Nat}

theorem perm {buffers : List Buffer} (accounts : heap.Accounts buffers) (same : buffers.Perm others) :
    heap.Accounts others :=
  ⟨accounts.live.trans (same.filterMap _), accounts.distinct, accounts.below, accounts.faultless⟩

/-- What the heap refuses from now on has no part in its accounts. -/
theorem withPolicy {buffers : List Buffer} (accounts : heap.Accounts buffers) (refuses : Nat → Bool) :
    ({ heap with refuses := refuses } : Heap).Accounts buffers :=
  ⟨accounts.live, accounts.distinct, accounts.below, accounts.faultless⟩

/-- Nor has what stands in memory that no block had yet. -/
theorem withStale {buffers : List Buffer} (accounts : heap.Accounts buffers) (stale : Nat → UInt8) :
    ({ heap with stale := stale } : Heap).Accounts buffers :=
  ⟨accounts.live, accounts.distinct, accounts.below, accounts.faultless⟩

/-- A buffer without a block costs nothing. -/
theorem cons_iff_of_none (absent : buffer.block = none) :
    heap.Accounts (buffer :: others) ↔ heap.Accounts others := by
  have same : (buffer :: others).filterMap Buffer.ownBlock? = others.filterMap Buffer.ownBlock? :=
    List.filterMap_cons_none (Buffer.ownBlock?_of_none absent)
  constructor
  · intro accounts
    exact ⟨same ▸ accounts.live, accounts.distinct, accounts.below, accounts.faultless⟩
  · intro accounts
    exact ⟨same.symm ▸ accounts.live, accounts.distinct, accounts.below, accounts.faultless⟩

/-- The live blocks with the one of a given buffer in front. -/
theorem live_perm_cons (accounts : heap.Accounts (buffer :: others)) (block : buffer.block = some number) :
    heap.live.Perm (⟨number, buffer.length⟩ :: others.filterMap Buffer.ownBlock?) := by
  have live := accounts.live
  rwa [List.filterMap_cons_some (Buffer.ownBlock?_of_block block)] at live

theorem touching_eq (accounts : heap.Accounts (buffer :: others)) (block : buffer.block = some number) :
    heap.touching number = heap := by
  have member : (⟨number, buffer.length⟩ : Block) ∈ heap.live :=
    (accounts.live_perm_cons block).mem_iff.mpr (List.mem_cons_self ..)
  have live : heap.isLive number = true := List.any_eq_true.mpr ⟨_, member, beq_self_eq_true number⟩
  rw [touching, if_pos live]

/-- No other buffer holds the block of a given one. -/
theorem number_notMem (accounts : heap.Accounts (buffer :: others)) (block : buffer.block = some number) :
    ∀ entry ∈ others.filterMap Buffer.ownBlock?, entry.number ≠ number := by
  have distinct := accounts.distinct
  rw [((accounts.live_perm_cons block).map Block.number).nodup_iff, List.map_cons,
    List.nodup_cons] at distinct
  intro entry member same
  exact distinct.1 (List.mem_map.mpr ⟨entry, member, same⟩)

/-- Giving back the block of a buffer leaves the others accounted for. -/
theorem discard (accounts : heap.Accounts (buffer :: others)) (block : buffer.block = some number) :
    (heap.discard number).Accounts others := by
  have apart : heap.live.Pairwise fun a b =>
      (a.number == number) = true → (b.number == number) = true → False := by
    refine (List.pairwise_map.mp accounts.distinct).imp fun different first second => different ?_
    exact (beq_iff_eq.mp first).trans (beq_iff_eq.mp second).symm
  have kept : (heap.live.eraseP fun entry => entry.number == number).Sublist heap.live :=
    List.eraseP_sublist
  rw [Heap.discard]
  rw [accounts.touching_eq block]
  refine ⟨?_, ?_, ?_, accounts.faultless⟩
  · refine ((accounts.live_perm_cons block).eraseP _ apart).trans (.of_eq ?_)
    exact List.eraseP_cons_of_pos (beq_self_eq_true number)
  · exact accounts.distinct.sublist (kept.map _)
  · intro entry member
    exact accounts.below entry (kept.subset member)

/-- Dropping a buffer leaves the others accounted for. -/
theorem drop (accounts : heap.Accounts (buffer :: others)) : (heap.drop buffer).Accounts others := by
  rw [Heap.drop]
  split
  · rename_i absent
    exact (cons_iff_of_none absent).mp accounts
  · rename_i number block
    exact accounts.discard block

theorem release {content : Option Buffer} (accounts : heap.Accounts (content.toList ++ others)) :
    (heap.release content).Accounts others := by
  cases content with
  | none => exact accounts
  | some buffer => exact accounts.drop

/-- A content that takes the place of another has a holder once the other is released. -/
theorem exchange {old new : Option Buffer} {before after : List Buffer}
    (accounts : heap.Accounts (new.toList ++ before)) (removed : before.Perm (old.toList ++ others))
    (added : after.Perm (new.toList ++ others)) : (heap.release old).Accounts after := by
  have ordered : heap.Accounts (old.toList ++ (new.toList ++ others)) :=
    accounts.perm ((removed.append_left _).trans (List.perm_append_comm_assoc ..))
  exact ordered.release.perm added.symm

/-- Releasing a content removes the block of its buffer, if it has one, and no other. -/
theorem live_perm_release {content : Option Buffer} (accounts : heap.Accounts (content.toList ++ others)) :
    heap.live.Perm ((content.bind Buffer.ownBlock?).toList ++ (heap.release content).live) := by
  have own : content.toList.filterMap Buffer.ownBlock? = (content.bind Buffer.ownBlock?).toList := by
    cases content with
    | none => rfl
    | some buffer => cases own : buffer.ownBlock? <;> simp [own]
  have live := accounts.live
  rw [List.filterMap_append, own] at live
  exact live.trans (accounts.release.live.symm.append_left _)

/-- Dropping some of the buffers, one after the other, leaves the others accounted for. -/
theorem dropAll {dropped : List Buffer} (accounts : heap.Accounts (dropped ++ others)) :
    (dropped.foldl Heap.drop heap).Accounts others := by
  induction dropped generalizing heap with
  | nil => exact accounts
  | cons buffer dropped ih => exact ih accounts.drop

/-- A heap that accounts for no buffers is empty. -/
theorem live_eq_nil (accounts : heap.Accounts []) : heap.live = [] := List.perm_nil.mp accounts.live

/-- A new block is accounted for by the buffer that holds it. -/
theorem adding {size : Nat} (accounts : heap.Accounts others) (block : buffer.block = some heap.next)
    (length : buffer.length = size) : (heap.adding size).Accounts (buffer :: others) := by
  refine ⟨?_, ?_, ?_, accounts.faultless⟩
  · rw [List.filterMap_cons_some (Buffer.ownBlock?_of_block block), length]
    exact accounts.live.cons _
  · refine List.nodup_cons.mpr ⟨?_, accounts.distinct⟩
    intro member
    obtain ⟨entry, member, same⟩ := List.mem_map.mp member
    exact Nat.ne_of_lt (accounts.below entry member) same
  · intro entry member
    rcases List.mem_cons.mp member with rfl | member
    · exact Nat.lt_succ_self _
    · exact Nat.lt_succ_of_lt (accounts.below entry member)

/-- A block of another size is accounted for by the resized buffer that holds it. -/
theorem altering {size : Nat} {resized : Buffer} (accounts : heap.Accounts (buffer :: others))
    (block : buffer.block = some number) (block' : resized.block = some number)
    (length : resized.length = size) : (heap.altering number size).Accounts (resized :: others) := by
  have rest : (others.filterMap Buffer.ownBlock?).map (Block.altered number size) =
      others.filterMap Buffer.ownBlock? := by
    refine (List.map_congr_left ?_).trans (List.map_id _)
    intro entry member
    exact Block.altered_of_ne size (accounts.number_notMem block entry member)
  rw [Heap.altering]
  rw [accounts.touching_eq block]
  refine ⟨?_, ?_, ?_, accounts.faultless⟩
  · refine ((accounts.live_perm_cons block).map _).trans ?_
    rw [List.map_cons, rest, List.filterMap_cons_some (Buffer.ownBlock?_of_block block'), length]
    exact .of_eq (congrArg (· :: _) (if_pos (beq_self_eq_true number)))
  · have numbers : (heap.live.map (Block.altered number size)).map Block.number =
        heap.live.map Block.number := by
      simp [Function.comp_def]
    exact numbers ▸ accounts.distinct
  · intro entry member
    obtain ⟨before, present, rfl⟩ := List.mem_map.mp member
    rw [Block.number_altered]
    exact accounts.below before present

/-- However a request ends, what it returns is accounted for besides what was before. -/
theorem tryAllocate (accounts : heap.Accounts others) (size : Nat) :
    (heap.tryAllocate size).heap.Accounts ((heap.tryAllocate size).value.toOption.toList ++ others) := by
  have ends := allocation_tryAllocate heap size
  generalize heap.tryAllocate size = reply at ends ⊢
  cases ends with
  | nothing => exact (cons_iff_of_none rfl).mpr accounts
  | indescribable => exact accounts
  | refused => exact accounts
  | granted _ _ _ buffer block bytes =>
    exact accounts.adding block (by rw [Buffer.length, bytes, List.length_replicate])

theorem allocate (accounts : heap.Accounts others) (size : Nat) :
    (heap.allocate size).heap.Accounts ((heap.allocate size).value.toList ++ others) :=
  accounts.tryAllocate size

/-- However resizing a buffer ends, what it returns is all that is left of that buffer. -/
theorem reallocate (accounts : heap.Accounts (buffer :: others)) (size : Nat) :
    (heap.reallocate buffer size).heap.Accounts
      ((heap.reallocate buffer size).value.toOption.toList ++ others) := by
  cases block : buffer.block with
  | none =>
    rw [reallocate_of_none heap size block]
    exact ((cons_iff_of_none block).mp accounts).tryAllocate size
  | some number =>
    have ends := reallocation_reallocate heap size block
    generalize heap.reallocate buffer size = reply at ends ⊢
    cases ends with
    | nothing => exact (cons_iff_of_none rfl).mpr (accounts.discard block)
    | indescribable => exact accounts.discard block
    | refused => exact accounts.discard block
    | granted _ _ _ resized block' bytes =>
      exact accounts.altering block block' (by simp [Buffer.length, bytes])

/-- Resizing what a slot holds replaces it by what comes back. -/
theorem resize {slot : Option Buffer} (accounts : heap.Accounts (slot.toList ++ others)) (size : Nat) :
    (heap.resize slot size).heap.Accounts ((heap.resize slot size).value.moved.toList ++ others) := by
  cases slot with
  | none => exact accounts.allocate size
  | some buffer =>
    have reallocated := accounts.reallocate size
    rw [Heap.resize]
    simp only [take]
    split
    · rename_i resized value
      rwa [value] at reallocated
    · rename_i cause value
      rwa [value] at reallocated

/-- A buffer may stand in for another in the same block. -/
theorem replace {written : Buffer} (accounts : heap.Accounts (buffer :: others))
    (block : written.block = buffer.block) (length : written.length = buffer.length) :
    heap.Accounts (written :: others) := by
  have entry : written.ownBlock? = buffer.ownBlock? := by rw [Buffer.ownBlock?, block, length]; rfl
  have same : (written :: others).filterMap Buffer.ownBlock? =
      (buffer :: others).filterMap Buffer.ownBlock? := by
    rw [List.filterMap_cons, List.filterMap_cons, entry]
  exact ⟨same ▸ accounts.live, accounts.distinct, accounts.below, accounts.faultless⟩

end Accounts

end Heap

end OwnedText
