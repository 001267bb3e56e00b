import OwnedText.Proofs.Memory.Ownership

/-! # What an action leaves in the slots

Putting a content into a place shows in that place and in no other. An action names the slots that it
empties or fills. What it puts there can be read off it, and every other slot holds afterwards what it held
before.
-/

namespace OwnedText.Workbench

variable {α : Type} {element : Element α} {bench : Workbench element}

/-- The slots that an action names. -/
def Action.slots : Action α → List Nat
  | .refuse _ | .clearBundle _ | .setFlags .. | .put .. => []
  | .allocate slot _ | .tryAllocate slot _ | .placeEmpty slot | .release slot => [slot]
  | .write slot .. | .fill slot _ => [slot]
  | .take source target | .resize source target _ => [source, target]
  | .assemble _ slot .. | .takeData _ slot | .takeParts _ slot => [slot]

section Places

theorem lt_length_of_slot {index : Nat} {buffer : Buffer} (held : bench.slot index = some buffer) :
    index < bench.slots.length := by
  refine Nat.lt_of_not_le fun outside => ?_
  rw [slot_of_le bench outside] at held
  contradiction

variable (bench : Workbench element) {index other : Nat}

@[simp] theorem slots_withHeap (heap : Heap) : (bench.withHeap heap).slots = bench.slots := by
  rw [withHeap]

@[simp] theorem slot_withHeap (heap : Heap) : (bench.withHeap heap).slot index = bench.slot index := rfl

@[simp] theorem slot_setBundle (bundle : Nat) (content : Bundle element) :
    (bench.setBundle bundle content).slot index = bench.slot index := rfl

@[simp] theorem slot_storeBundle (bundle : Nat) (content : Bundle element) :
    (bench.storeBundle bundle content).slot index = bench.slot index := by
  rw [storeBundle]
  split <;> rfl

@[simp] theorem bundle_setBundle_self (content : Bundle element) (present : index < bench.bundles.length) :
    (bench.setBundle index content).bundle index = content := by
  simp [bundle, setBundle, present]

@[simp] theorem bundle_setBundle_of_ne (content : Bundle element) (apart : other ≠ index) :
    (bench.setBundle index content).bundle other = bench.bundle other := by
  simp [bundle, setBundle, apart.symm]

@[simp] theorem bundle_storeBundle_self (content : Bundle element) (present : index < bench.bundles.length) :
    (bench.storeBundle index content).bundle index = content := by
  rw [storeBundle, if_pos present]
  exact bundle_setBundle_self _ content present

variable (content : Option Buffer)

@[simp] theorem length_slots_setSlot (index : Nat) :
    (bench.setSlot index content).slots.length = bench.slots.length := List.length_set

@[simp] theorem bundles_setSlot (index : Nat) :
    (bench.setSlot index content).bundles = bench.bundles := by
  rw [setSlot]

@[simp] theorem slot_setSlot_self (present : index < bench.slots.length) :
    (bench.setSlot index content).slot index = content := by
  simp [slot, setSlot, present]

@[simp] theorem slot_setSlot_of_ne (apart : other ≠ index) :
    (bench.setSlot index content).slot other = bench.slot other := by
  simp [slot, setSlot, apart.symm]

/-- A slot that was cleared is absent, and so is one that does not exist. -/
@[simp] theorem slot_setSlot_none (index : Nat) : (bench.setSlot index none).slot index = none := by
  rcases Nat.lt_or_ge index bench.slots.length with present | outside
  · exact bench.slot_setSlot_self none present
  · exact slot_of_le _ (by simpa using outside)

@[simp] theorem setSlot_setSlot (before : Option Buffer) :
    (bench.setSlot index before).setSlot index content = bench.setSlot index content := by
  simp only [setSlot, List.set_set]

@[simp] theorem length_slots_storeSlot (index : Nat) :
    (bench.storeSlot index content).slots.length = bench.slots.length := by
  rw [storeSlot]
  split <;> simp

@[simp] theorem bundles_storeSlot (index : Nat) :
    (bench.storeSlot index content).bundles = bench.bundles := by
  rw [storeSlot]
  split <;> rfl

@[simp] theorem slot_storeSlot_self (present : index < bench.slots.length) :
    (bench.storeSlot index content).slot index = content := by
  simp [storeSlot, present]

@[simp] theorem slot_storeSlot_of_ne (apart : other ≠ index) :
    (bench.storeSlot index content).slot other = bench.slot other := by
  rw [storeSlot]
  split <;> simp [apart]

/-- Nothing is dropped where nothing was. -/
theorem storeSlot_of_absent (present : index < bench.slots.length) (absent : bench.slot index = none) :
    bench.storeSlot index content = bench.setSlot index content := by
  rw [storeSlot, if_pos present, absent]
  rfl

end Places

section Writing

variable {index offset : Nat} {content : List UInt8}

theorem step_write_of_absent (absent : bench.slot index = none) :
    bench.step (.write index offset content) = ⟨bench, .written false, []⟩ := by
  simp only [step, absent]

theorem step_write_of_some {buffer written : Buffer} (held : bench.slot index = some buffer)
    (success : buffer.write? offset content = some written) :
    bench.step (.write index offset content) =
      ⟨bench.setSlot index (some written), .written true, []⟩ := by
  simp only [step, held, success]

end Writing

/-- What comes back from a resize is in the slot that it was meant for. -/
theorem slot_step_resize {source target : Nat} (there : target < bench.slots.length) (size : Nat) :
    (bench.step (.resize source target size)).bench.slot target =
      (bench.heap.resize (bench.slot source) size).value.moved := by
  simp [step, there]

/-- A slot that an action does not name keeps what it holds. -/
theorem slot_step_of_notMem {index : Nat} (action : Action α) (unnamed : index ∉ action.slots) :
    (bench.step action).bench.slot index = bench.slot index := by
  cases action with
  | refuse | setFlags => rfl
  | allocate slot | placeEmpty slot | release slot | takeData bundle slot | takeParts bundle slot =>
    simp [step, List.ne_of_not_mem_cons unnamed]
  | tryAllocate slot | fill slot =>
    simp only [step]
    split <;> simp [List.ne_of_not_mem_cons unnamed]
  | take source target | resize source target =>
    have apart := List.ne_of_not_mem_cons unnamed
    have apart' := List.ne_of_not_mem_cons (List.not_mem_of_not_mem_cons unnamed)
    simp [step, apart, apart']
  | write slot =>
    simp only [step]
    split
    · rfl
    · split <;> simp [List.ne_of_not_mem_cons unnamed]
  | clearBundle bundle => simp [step]
  | assemble bundle slot length flags =>
    simp only [step]
    split <;> simp [List.ne_of_not_mem_cons unnamed]
  | put bundle =>
    simp only [step]
    split <;> rfl

end OwnedText.Workbench
