import Mathlib.Data.List.Perm.Basic
import OwnedText.Memory.Workbench
import OwnedText.Proofs.Memory.Accounts

/-! # Every live block has one holder

A state of a workbench is reachable if some sequence of actions leads to it, while the heap may change
at any moment what it refuses and what stands in the memory that blocks come with. In every such state the
heap accounts for the buffers that the slots and bundles hold: `Reachable.accounts` is an induction on the
run, and `accounts_step` goes through the actions, each of which takes content out of places, hands it
through the heap, and puts the result back.
-/

namespace OwnedText

/-- Writing into a buffer leaves it in its block and as long as it was. -/
theorem Buffer.block_length_of_write? {buffer written : Buffer} {offset : Nat} {content : List UInt8}
    (success : buffer.write? offset content = some written) :
    written.block = buffer.block ∧ written.length = buffer.length := by
  unfold write? at success
  split at success
  · rename_i inside
    cases success
    exact ⟨rfl, length_splice inside⟩
  · contradiction

/-- What is written lies inside the buffer and replaces the bytes in its place. -/
theorem Buffer.bytes_of_write? {buffer written : Buffer} {offset : Nat} {content : List UInt8}
    (success : buffer.write? offset content = some written) :
    offset + content.length ≤ buffer.bytes.length ∧ written.bytes = splice buffer.bytes offset content := by
  unfold write? at success
  split at success
  · rename_i inside
    cases success
    exact ⟨inside, rfl⟩
  · contradiction

namespace Bundle

variable {α : Type} {element : Element α}

/-- Parts that fit are put together as they are. -/
theorem assemble_of_covered (heap : Heap) {data : Option Buffer} {length : UInt32} {flags : Flags}
    (covered : (⟨data, length, flags⟩ : Bundle element).Covered) :
    assemble heap data length flags = ⟨.ok (⟨data, length, flags⟩ : Bundle element), heap, []⟩ :=
  if_pos covered

/-- Parts that do not fit are refused, and their buffer goes back. -/
theorem assemble_of_not_covered (heap : Heap) {data : Option Buffer} {length : UInt32} {flags : Flags}
    (exposed : ¬ (⟨data, length, flags⟩ : Bundle element).Covered) :
    (assemble heap data length flags : Reply (Except BufferTooSmall (Bundle element))) =
      ⟨.error ⟨length⟩, heap.release data, []⟩ :=
  if_neg exposed

/-- Storing elements writes their bytes into the buffer, if there is one, and that is all. -/
theorem stored_of_store {bundle stored : Bundle element} {offset : Nat} {values : List α}
    (success : bundle.store offset values = .ok stored) :
    bundle.data = none ∧ stored = bundle ∨ ∃ buffer written, bundle.data = some buffer ∧
      buffer.write? (offset * element.size) (element.encodeAll values) = some written ∧
      stored = { bundle with data := some written } := by
  unfold store at success
  split at success
  · contradiction
  · split at success
    · split at success
      · rename_i absent
        cases success
        exact .inl ⟨absent, rfl⟩
      · rename_i buffer held
        split at success
        · contradiction
        · rename_i written inside
          cases success
          exact .inr ⟨buffer, written, held, inside, rfl⟩
    · contradiction

/-- Storing elements keeps a buffer in its block and as long as it was. -/
theorem data_of_store {bundle stored : Bundle element} {offset : Nat} {values : List α}
    (success : bundle.store offset values = .ok stored) :
    stored.data = bundle.data ∨ ∃ buffer written, bundle.data = some buffer ∧
      stored.data = some written ∧ written.block = buffer.block ∧ written.length = buffer.length := by
  rcases stored_of_store success with ⟨_, rfl⟩ | ⟨buffer, written, held, inside, rfl⟩
  · exact .inl rfl
  · exact .inr ⟨buffer, written, held, rfl, Buffer.block_length_of_write? inside⟩

end Bundle

namespace Workbench

variable {α : Type} {element : Element α}

/-- From now on the heap refuses exactly the given sizes. -/
def withPolicy (bench : Workbench element) (refuses : Nat → Bool) : Workbench element :=
  bench.withHeap { bench.heap with refuses := refuses }

/-- From now on other bytes stand in the memory that blocks come with. -/
def withStale (bench : Workbench element) (stale : Nat → UInt8) : Workbench element :=
  bench.withHeap { bench.heap with stale := stale }

/-- Some sequence of actions leads from empty places to this state, under any pattern of refusals and
whatever memory was like. -/
inductive Reachable : Workbench element → Prop
  | start (slotCount bundleCount : Nat) : Reachable (empty slotCount bundleCount)
  | repolicy {bench : Workbench element} (reachable : Reachable bench) (refuses : Nat → Bool) :
    Reachable (bench.withPolicy refuses)
  | dirty {bench : Workbench element} (reachable : Reachable bench) (stale : Nat → UInt8) :
    Reachable (bench.withStale stale)
  | step {bench : Workbench element} (reachable : Reachable bench) (action : Action α) :
    Reachable (bench.step action).bench

theorem Reachable.run {bench : Workbench element} (reachable : Reachable bench)
    (actions : List (Action α)) : Reachable (bench.run actions) := by
  induction actions generalizing bench with
  | nil => exact reachable
  | cons action rest ih => exact ih (reachable.step action)

section Places

variable (bench : Workbench element)

/-- The buffers held once a slot has got a content, with that content in front. -/
theorem held_setSlot_perm {index : Nat} (content : Option Buffer) (present : index < bench.slots.length) :
    (bench.setSlot index content).held.Perm (content.toList ++ (bench.setSlot index none).held) := by
  unfold held setSlot
  rw [← List.append_assoc]
  exact (filterMap_set_perm id _ none content rfl present).append_right _

/-- The buffers held once a bundle has got a content, with its buffer in front. -/
theorem held_setBundle_perm {index : Nat} (content : Bundle element) (present : index < bench.bundles.length) :
    (bench.setBundle index content).held.Perm
      (content.data.toList ++ (bench.setBundle index .empty).held) := by
  unfold held setBundle
  have front := (filterMap_set_perm Bundle.data _ .empty content rfl present).append_left
    (bench.slots.filterMap id)
  exact front.trans (List.perm_append_comm_assoc ..)

theorem slot_of_le {index : Nat} (outside : bench.slots.length ≤ index) : bench.slot index = none := by
  rw [slot, List.getElem?_eq_none outside]
  rfl

/-- The buffers held, with the one of a slot in front. -/
theorem held_perm_slot (index : Nat) :
    bench.held.Perm ((bench.slot index).toList ++ (bench.setSlot index none).held) := by
  unfold held setSlot slot
  rw [← List.append_assoc]
  exact (filterMap_perm_getD id _ none rfl index).append_right _

/-- The buffers held, with the one of a bundle in front. -/
theorem held_perm_bundle (index : Nat) :
    bench.held.Perm ((bench.bundle index).data.toList ++ (bench.setBundle index .empty).held) := by
  unfold held setBundle bundle
  have front := (filterMap_perm_getD Bundle.data bench.bundles .empty rfl index).append_left
    (bench.slots.filterMap id)
  exact front.trans (List.perm_append_comm_assoc ..)

end Places

section Steps

variable {bench : Workbench element}

/-- Clearing a slot leaves what it held beside the other buffers. -/
theorem accounts_takeSlot (accounts : bench.heap.Accounts bench.held) (index : Nat) :
    bench.heap.Accounts ((bench.slot index).toList ++ (bench.setSlot index none).held) :=
  accounts.perm (bench.held_perm_slot index)

theorem accounts_takeBundle (accounts : bench.heap.Accounts bench.held) (index : Nat) :
    bench.heap.Accounts ((bench.bundle index).data.toList ++ (bench.setBundle index .empty).held) :=
  accounts.perm (bench.held_perm_bundle index)

/-- Storing a content gives it a holder and drops what was in its place, or drops the content itself if
there is no such place. -/
theorem accounts_storeSlot {content : Option Buffer} (index : Nat)
    (accounts : bench.heap.Accounts (content.toList ++ bench.held)) :
    (bench.storeSlot index content).heap.Accounts (bench.storeSlot index content).held := by
  rw [storeSlot]
  split
  · rename_i present
    exact accounts.exchange (bench.held_perm_slot index) (bench.held_setSlot_perm content present)
  · exact accounts.release

theorem accounts_storeBundle {content : Bundle element} (index : Nat)
    (accounts : bench.heap.Accounts (content.data.toList ++ bench.held)) :
    (bench.storeBundle index content).heap.Accounts (bench.storeBundle index content).held := by
  rw [storeBundle]
  split
  · rename_i present
    exact accounts.exchange (bench.held_perm_bundle index) (bench.held_setBundle_perm content present)
  · exact accounts.release

/-- Changing the bytes of a buffer in its slot changes no holder. -/
theorem accounts_rewriteSlot {index : Nat} {buffer written : Buffer}
    (accounts : bench.heap.Accounts bench.held) (content : bench.slot index = some buffer)
    (block : written.block = buffer.block) (length : written.length = buffer.length) :
    (bench.setSlot index (some written)).heap.Accounts (bench.setSlot index (some written)).held := by
  have present : index < bench.slots.length := by
    by_contra outside
    rw [bench.slot_of_le (Nat.le_of_not_lt outside)] at content
    contradiction
  have apart := accounts_takeSlot accounts index
  rw [content] at apart
  exact (apart.replace block length).perm (bench.held_setSlot_perm (some written) present).symm

/-- A bundle whose buffer keeps its block and its length may stand in for the one before. -/
theorem accounts_rewriteBundle {index : Nat} {content : Bundle element}
    (accounts : bench.heap.Accounts bench.held)
    (same : content.data = (bench.bundle index).data ∨
      ∃ buffer written, (bench.bundle index).data = some buffer ∧ content.data = some written ∧
        written.block = buffer.block ∧ written.length = buffer.length) :
    (bench.setBundle index content).heap.Accounts (bench.setBundle index content).held := by
  have apart := accounts_takeBundle accounts index
  rcases Nat.lt_or_ge index bench.bundles.length with present | outside
  · refine Heap.Accounts.perm ?_ (bench.held_setBundle_perm content present).symm
    rcases same with same | ⟨buffer, written, before, after, block, length⟩
    · rwa [same]
    · rw [before] at apart
      rw [after]
      exact apart.replace block length
  · have unchanged : bench.setBundle index content = bench := by
      rw [setBundle, List.set_eq_of_length_le outside]
    rwa [unchanged]

/-- Every action keeps the heap accounting for what the places hold. -/
theorem accounts_step (accounts : bench.heap.Accounts bench.held) (action : Action α) :
    (bench.step action).bench.heap.Accounts (bench.step action).bench.held := by
  cases action with
  | refuse size => exact accounts.withPolicy _
  | allocate slot size => exact accounts_storeSlot slot (accounts.allocate size)
  | tryAllocate slot size =>
    have requested := accounts.tryAllocate size
    simp only [step]
    split
    · rename_i buffer value
      rw [value] at requested
      exact accounts_storeSlot slot requested
    · rename_i cause value
      rwa [value] at requested
  | placeEmpty slot =>
    exact accounts_storeSlot slot ((Heap.Accounts.cons_iff_of_none rfl).mpr accounts)
  | release slot => exact (accounts_takeSlot accounts slot).release
  | take source target => exact accounts_storeSlot target (accounts_takeSlot accounts source)
  | resize source target size =>
    refine accounts_storeSlot target ?_
    rw [Heap.left_resize]
    exact (accounts_takeSlot accounts source).resize size
  | write slot offset content =>
    simp only [step]
    split
    · exact accounts
    · rename_i buffer held
      split
      · exact accounts
      · rename_i written success
        obtain ⟨block, length⟩ := Buffer.block_length_of_write? success
        exact accounts_rewriteSlot accounts held block length
  | fill slot seed =>
    simp only [step]
    split
    · exact accounts
    · rename_i buffer held
      exact accounts_rewriteSlot accounts held rfl List.length_mapIdx
  | clearBundle bundle => exact accounts_storeBundle bundle accounts
  | assemble bundle slot length flags =>
    have taken := accounts_takeSlot accounts slot
    by_cases covered : (⟨bench.slot slot, length, flags⟩ : Bundle element).Covered
    · simp only [step, OwnedText.take, Bundle.assemble_of_covered _ covered]
      exact accounts_storeBundle bundle taken
    · simp only [step, OwnedText.take, Bundle.assemble_of_not_covered _ covered]
      exact taken.release
  | takeData bundle slot => exact accounts_storeSlot slot (accounts_takeBundle accounts bundle)
  | takeParts bundle slot => exact accounts_storeSlot slot (accounts_takeBundle accounts bundle)
  | setFlags bundle flags => exact accounts_rewriteBundle accounts (.inl rfl)
  | put bundle offset values =>
    simp only [step]
    split
    · exact accounts
    · rename_i stored success
      exact accounts_rewriteBundle accounts (Bundle.data_of_store success)

end Steps

/-- Whatever a run did, and whatever the heap refused, the heap accounts for what the places hold. -/
theorem Reachable.accounts {bench : Workbench element} (reachable : Reachable bench) :
    bench.heap.Accounts bench.held := by
  induction reachable with
  | start slotCount bundleCount =>
    have nothing : (empty slotCount bundleCount : Workbench element).held = [] := by
      simp [held, empty, Bundle.empty]
    rw [nothing]
    exact Heap.accounts_empty
  | repolicy _ refuses ih => exact ih.withPolicy refuses
  | dirty _ stale ih => exact ih.withStale stale
  | step _ action ih => exact accounts_step ih action

end Workbench

end OwnedText
