import OwnedText.Proofs.Memory.Slots

/-! # Views of bundles are total

The elements that a bundle counts lie inside its buffer, and without a buffer there are none. Assembling
checks this, every other action keeps it, and all that a typed view relies on follows from it: the bytes
of the counted elements are there, they are a whole number of elements, and since blocks are aligned for
any element in use, they can be seen as such.
-/

namespace OwnedText

/-- As many elements as a content has room for: all of them lie inside the buffer, and without a buffer
there are none. -/
def Element.Inside {α : Type} (element : Element α) (length : UInt32) (content : Option Buffer) : Prop :=
  (content = none → length = 0) ∧
    ∀ buffer, content = some buffer → length.toNat * element.size ≤ buffer.length

/-- Where blocks are in memory: each at a multiple of the alignment that buffers have. -/
structure Placement where
  address : Nat → Nat
  aligned : ∀ number, maxAlignment ∣ address number

/-- Where a buffer starts. One without a block is at the lowest place of the right alignment. -/
def Placement.start (placement : Placement) (buffer : Buffer) : Nat :=
  match buffer.block with
  | none => maxAlignment
  | some number => placement.address number

/-- Blocks one behind the other, with room for sixteen bytes each. -/
def Placement.dense : Placement :=
  ⟨fun number => maxAlignment * (number + 1), fun number => Nat.dvd_mul_right _ (number + 1)⟩

private theorem Placement.dvd_start (placement : Placement) (buffer : Buffer) :
    maxAlignment ∣ placement.start buffer := by
  unfold start
  split
  · exact Nat.dvd_refl _
  · exact placement.aligned _

/-- A way to see bytes at an address as elements. It succeeds at the alignment of the elements for the
bytes of a whole number of them; if an element has no bytes, that number is zero. -/
structure Element.Cast {α : Type} (element : Element α) where
  alignment : Nat
  cast? : Nat → List UInt8 → Option (List α)
  cast?_whole : ∀ (address count : Nat) (bytes : List UInt8), alignment ∣ address →
    bytes.length = count * element.size → (element.size = 0 → count = 0) →
      cast? address bytes = some (element.decodeAll count bytes)

/-- The cast that checks the alignment of the address and that the elements use up the bytes. -/
def Element.Cast.checked {α : Type} {element : Element α} (alignment : Nat) : element.Cast where
  alignment := alignment
  cast? address bytes :=
    let count := bytes.length / element.size
    if alignment ∣ address ∧ count * element.size = bytes.length then
      some (element.decodeAll count bytes)
    else none
  cast?_whole := by
    intro address count bytes aligned whole none
    have counted : bytes.length / element.size = count := by
      rw [whole]
      rcases Nat.eq_zero_or_pos element.size with zero | positive
      · rw [none zero, Nat.zero_mul, Nat.zero_div]
      · exact Nat.mul_div_cancel _ positive
    simp only [counted]
    rw [if_pos ⟨aligned, whole.symm⟩]

@[simp] theorem Element.length_decodeAll {α : Type} (element : Element α) (count : Nat) (bytes : List UInt8) :
    (element.decodeAll count bytes).length = count := by
  induction count generalizing bytes with
  | zero => rfl
  | succ count ih => rw [decodeAll, List.length_cons, ih]

private theorem dvd_maxAlignment {alignment : Nat} (power : alignment.isPowerOfTwo)
    (small : alignment ≤ maxAlignment) : alignment ∣ maxAlignment := by
  obtain ⟨exponent, rfl⟩ := power
  have same : maxAlignment = 2 ^ 4 := rfl
  rw [same] at small ⊢
  exact Nat.pow_dvd_pow 2 ((Nat.pow_le_pow_iff_right (by decide)).mp small)

namespace Bundle

variable {α : Type} {element : Element α}

theorem covered_iff_inside (bundle : Bundle element) :
    bundle.Covered ↔ element.Inside bundle.length bundle.data := by
  unfold Covered Element.Inside byteLength
  cases bundle.data with
  | none => simp
  | some buffer => simp

theorem covered_empty : (.empty : Bundle element).Covered := (rfl : (0 : UInt32) = 0)

/-- How many elements a view shows. -/
def shown (bundle : Bundle element) : Nat := if element.size = 0 then 0 else bundle.length.toNat

/-- The bytes of the counted elements are those of the elements shown. -/
theorem byteLength_eq_shown (bundle : Bundle element) : bundle.byteLength = bundle.shown * element.size := by
  unfold byteLength shown
  split
  · rename_i zero
    rw [zero, Nat.mul_zero, Nat.mul_zero]
  · rfl

private theorem byteLength_div_size (bundle : Bundle element) :
    bundle.byteLength / element.size = bundle.shown := by
  rw [byteLength_eq_shown]
  rcases Nat.eq_zero_or_pos element.size with zero | positive
  · rw [zero, Nat.div_zero, shown, if_pos zero]
  · exact Nat.mul_div_cancel _ positive

/-- The bytes of the counted elements are there. -/
theorem Covered.bytes_eq {bundle : Bundle element} (covered : bundle.Covered) :
    ∃ bytes, bundle.bytes = .ok bytes ∧ bytes.length = bundle.byteLength := by
  unfold Covered at covered
  unfold bytes
  cases data : bundle.data with
  | none =>
    rw [data] at covered
    have none : bundle.length = 0 := covered
    refine ⟨[], rfl, ?_⟩
    rw [byteLength, none]
    exact (Nat.zero_mul _).symm
  | some buffer =>
    rw [data] at covered
    exact ⟨_, window_of_le covered, List.length_take_of_le covered⟩

/-- The counted elements are decoded from their bytes. -/
theorem Covered.elements_eq {bundle : Bundle element} (covered : bundle.Covered) :
    ∃ bytes values, bundle.bytes = .ok bytes ∧ bytes.length = bundle.byteLength ∧
      values = element.decodeAll bundle.shown bytes ∧ bundle.elements = .ok values := by
  obtain ⟨bytes, visible, length⟩ := covered.bytes_eq
  refine ⟨bytes, _, visible, length, rfl, ?_⟩
  rw [elements, visible, ← bundle.byteLength_div_size, ← length]
  rfl

/-- Elements are stored wherever a view shows as many, and nowhere else. -/
theorem Covered.store_eq {bundle : Bundle element} (covered : bundle.Covered) (offset : Nat)
    (values : List α) :
    if offset + values.length ≤ bundle.shown then ∃ stored, bundle.store offset values = .ok stored
    else bundle.store offset values = .error .outOfRange := by
  obtain ⟨bytes, old, _, _, shown, visible⟩ := covered.elements_eq
  have length : old.length = bundle.shown := by simp [shown]
  split
  · rename_i room
    have goes : offset + values.length ≤ old.length := length ▸ room
    unfold store
    simp only [visible, if_pos goes]
    cases data : bundle.data with
    -- without a buffer there is nothing to show, so there are no elements to store either
    | none => exact ⟨bundle, rfl⟩
    | some buffer =>
      have counted : bundle.byteLength ≤ buffer.bytes.length := by
        unfold Covered at covered
        rwa [data] at covered
      have inside : offset * element.size + (element.encodeAll values).length ≤ buffer.bytes.length := by
        rw [element.length_encodeAll, ← Nat.add_mul]
        exact Nat.le_trans (Nat.mul_le_mul_right _ room) (bundle.byteLength_eq_shown ▸ counted)
      simp only [Buffer.write?, dif_pos inside]
      exact ⟨_, rfl⟩
  · rename_i short
    have exceeds : ¬ offset + values.length ≤ old.length := length ▸ short
    unfold store
    simp only [visible, if_neg exceeds]

private theorem length_of_store {bundle stored : Bundle element} {offset : Nat} {values : List α}
    (success : bundle.store offset values = .ok stored) : stored.length = bundle.length := by
  rcases stored_of_store success with ⟨_, rfl⟩ | ⟨_, _, _, _, rfl⟩
  · rfl
  · rfl

/-- Storing elements changes neither the count nor the length of the buffer. -/
theorem Covered.of_store {bundle stored : Bundle element} (covered : bundle.Covered) {offset : Nat}
    {values : List α} (success : bundle.store offset values = .ok stored) : stored.Covered := by
  have count := length_of_store success
  rw [covered_iff_inside] at covered ⊢
  rcases data_of_store success with same | ⟨buffer, written, data, data', _, length⟩
  · rwa [same, count]
  · rw [data', count]
    refine ⟨nofun, ?_⟩
    rintro _ ⟨⟩
    exact length ▸ covered.2 buffer data

/-- The counted elements lie inside the buffer, their bytes can be counted in 64 bits, and they are what
a view shows, all of them unless they have no bytes. A cast of the bytes shows the same, and a write
through the view succeeds wherever there are elements to replace. -/
structure Viewable (cast : element.Cast) (placement : Placement) (bundle : Bundle element) : Prop where
  inside : element.Inside bundle.length bundle.data
  representable : bundle.byteLength < UInt64.size
  view : ∃ bytes values, bundle.bytes = .ok bytes ∧ bundle.elements = .ok values ∧
    values.length = (if element.size = 0 then 0 else bundle.length.toNat) ∧
    ∀ buffer, bundle.data = some buffer → cast.cast? (placement.start buffer) bytes = some values
  writes : ∀ (offset : Nat) (values : List α),
    if offset + values.length ≤ (if element.size = 0 then 0 else bundle.length.toNat) then
      ∃ stored, bundle.store offset values = .ok stored
    else bundle.store offset values = .error .outOfRange

end Bundle

/-- A count of elements of less than 2^32 bytes takes a number of bytes that 64 bits can count. -/
theorem Element.bytes_representable {α : Type} {element : Element α} (small : element.size < UInt32.size)
    (length : UInt32) : length.toNat * element.size < UInt64.size :=
  Nat.mul_lt_mul'' length.toNat_lt small

theorem Bundle.Covered.viewable {α : Type} {element : Element α} {bundle : Bundle element}
    (covered : bundle.Covered) (small : element.size < UInt32.size) {cast : element.Cast}
    (suits : cast.alignment ∣ maxAlignment) (placement : Placement) : bundle.Viewable cast placement := by
  obtain ⟨bytes, values, visible, length, shown, elements⟩ := covered.elements_eq
  refine ⟨bundle.covered_iff_inside.mp covered, Element.bytes_representable small _,
    ⟨bytes, values, visible, elements, ?_, ?_⟩, covered.store_eq⟩
  · simp [shown, Bundle.shown]
  · intro buffer _
    rw [shown]
    refine cast.cast?_whole _ _ _ (Nat.dvd_trans suits (placement.dvd_start buffer)) ?_ ?_
    · rw [length, bundle.byteLength_eq_shown]
    · intro zero
      rw [Bundle.shown, if_pos zero]

namespace Workbench

variable {α : Type} {element : Element α} {bench : Workbench element}

section Bundles

/-- Every bundle counts elements inside its buffer. -/
def AllCovered (bench : Workbench element) : Prop := ∀ bundle ∈ bench.bundles, bundle.Covered

theorem AllCovered.bundle (covered : bench.AllCovered) (index : Nat) : (bench.bundle index).Covered := by
  rw [Workbench.bundle]
  cases present : bench.bundles[index]? with
  | none => exact Bundle.covered_empty
  | some bundle => exact covered bundle (List.mem_of_getElem? present)

theorem AllCovered.setBundle (covered : bench.AllCovered) (index : Nat) {content : Bundle element}
    (inside : content.Covered) : (bench.setBundle index content).AllCovered := by
  intro bundle member
  rcases List.mem_or_eq_of_mem_set member with before | rfl
  · exact covered bundle before
  · exact inside

theorem AllCovered.storeBundle (covered : bench.AllCovered) (index : Nat) {content : Bundle element}
    (inside : content.Covered) : (bench.storeBundle index content).AllCovered := by
  unfold Workbench.storeBundle
  split
  · have charged (heap : Heap) : (bench.withHeap heap).AllCovered := covered
    exact (charged _).setBundle index inside
  · exact covered

theorem AllCovered.storeSlot (covered : bench.AllCovered) (index : Nat) (content : Option Buffer) :
    (bench.storeSlot index content).AllCovered := by
  simpa [AllCovered] using covered

end Bundles

/-- Every action keeps the counted elements inside the buffers. -/
theorem covered_step (covered : bench.AllCovered) (action : Action α) :
    (bench.step action).bench.AllCovered := by
  have charged (heap : Heap) : (bench.withHeap heap).AllCovered := covered
  have cleared (index : Nat) : (bench.setSlot index none).AllCovered := covered
  have moved (index : Nat) (left : Option Buffer) (heap : Heap) :
      ((bench.setSlot index left).withHeap heap).AllCovered := covered
  cases action with
  | refuse size => exact covered
  | allocate slot size => exact (charged _).storeSlot slot _
  | tryAllocate slot size =>
    simp only [step]
    split
    · exact (charged _).storeSlot slot _
    · exact covered
  | placeEmpty slot => exact covered.storeSlot slot _
  | release slot => exact covered
  | take source target => exact (cleared source).storeSlot target _
  | resize source target size => exact (moved source _ _).storeSlot target _
  | write slot offset content =>
    simp only [step]
    split
    · exact covered
    · split
      · exact covered
      · exact covered
  | fill slot seed =>
    simp only [step]
    split
    · exact covered
    · exact covered
  | clearBundle bundle => exact covered.storeBundle bundle Bundle.covered_empty
  | assemble bundle slot length flags =>
    by_cases inside : (⟨bench.slot slot, length, flags⟩ : Bundle element).Covered
    · simp only [step, OwnedText.take, Bundle.assemble_of_covered _ inside]
      exact (moved slot none _).storeBundle bundle inside
    · simp only [step, OwnedText.take, Bundle.assemble_of_not_covered _ inside]
      exact covered
  | takeData bundle slot => exact (covered.setBundle bundle Bundle.covered_empty).storeSlot slot _
  | takeParts bundle slot => exact (covered.setBundle bundle Bundle.covered_empty).storeSlot slot _
  | setFlags bundle flags => exact covered.setBundle bundle (covered.bundle bundle)
  | put bundle offset values =>
    simp only [step]
    split
    · exact covered
    · rename_i stored success
      exact covered.setBundle bundle ((covered.bundle bundle).of_store success)

/-- In every reachable state each bundle counts elements inside its buffer. -/
theorem Reachable.covered (reachable : Reachable bench) : bench.AllCovered := by
  induction reachable with
  | start slotCount bundleCount =>
    intro bundle member
    rw [List.eq_of_mem_replicate member]
    exact Bundle.covered_empty
  | repolicy _ refuses ih => exact ih
  | dirty _ stale ih => exact ih
  | step _ action ih => exact covered_step ih action

/-- A bundle is assembled from the content of a slot exactly if the counted elements lie inside it. If
they do not, the content is lost: its block is given back, once, and no other, and every bundle is as
before, the one to be replaced among them. -/
structure Assembles (bench : Workbench element) (target slot : Nat) (length : UInt32) (flags : Flags) :
    Prop where
  representable : length.toNat * element.size < UInt64.size
  rejected_iff : (bench.step (.assemble target slot length flags)).response = .rejected ⟨length⟩ ↔
    ¬ element.Inside length (bench.slot slot)
  done_iff : (bench.step (.assemble target slot length flags)).response = .done ↔
    element.Inside length (bench.slot slot)
  assembled : element.Inside length (bench.slot slot) → target < bench.bundles.length →
    (bench.step (.assemble target slot length flags)).bench.bundle target =
      ⟨bench.slot slot, length, flags⟩
  freed : ¬ element.Inside length (bench.slot slot) →
    bench.heap.live.Perm (((bench.slot slot).bind Buffer.ownBlock?).toList ++
      (bench.step (.assemble target slot length flags)).bench.heap.live)
  faultless : (bench.step (.assemble target slot length flags)).bench.heap.faults = 0
  cleared : ¬ element.Inside length (bench.slot slot) →
    (bench.step (.assemble target slot length flags)).bench.slots = bench.slots.set slot none
  kept : ¬ element.Inside length (bench.slot slot) →
    (bench.step (.assemble target slot length flags)).bench.bundles = bench.bundles

section Assembling

variable {target slot : Nat} {length : UInt32} {flags : Flags}

theorem step_assemble_of_inside (inside : element.Inside length (bench.slot slot)) :
    bench.step (.assemble target slot length flags) =
      ⟨(bench.setSlot slot none).storeBundle target ⟨bench.slot slot, length, flags⟩, .done, []⟩ := by
  have covered : (⟨bench.slot slot, length, flags⟩ : Bundle element).Covered :=
    (Bundle.covered_iff_inside _).mpr inside
  simp only [step, OwnedText.take, Bundle.assemble_of_covered _ covered]
  rfl

theorem step_assemble_of_not_inside (exposed : ¬ element.Inside length (bench.slot slot)) :
    bench.step (.assemble target slot length flags) =
      ⟨(bench.setSlot slot none).withHeap (bench.heap.release (bench.slot slot)),
        .rejected ⟨length⟩, []⟩ := by
  have covered : ¬ (⟨bench.slot slot, length, flags⟩ : Bundle element).Covered :=
    fun covered => exposed ((Bundle.covered_iff_inside _).mp covered)
  simp only [step, OwnedText.take, Bundle.assemble_of_not_covered _ covered]
  rfl

theorem Reachable.assembles (reachable : Reachable bench) (small : element.size < UInt32.size)
    (target slot : Nat) (length : UInt32) (flags : Flags) :
    bench.Assembles target slot length flags := by
  have faultless := (reachable.step (.assemble target slot length flags)).accounts.faultless
  have apart := accounts_takeSlot reachable.accounts slot
  refine ⟨Element.bytes_representable small length, ?_, ?_, ?_, ?_, faultless, ?_, ?_⟩
  · by_cases inside : element.Inside length (bench.slot slot)
    · simp [step_assemble_of_inside inside, inside]
    · simp [step_assemble_of_not_inside inside, inside]
  · by_cases inside : element.Inside length (bench.slot slot)
    · simp [step_assemble_of_inside inside, inside]
    · simp [step_assemble_of_not_inside inside, inside]
  · intro inside present
    simp [step_assemble_of_inside inside, present]
  · intro exposed
    rw [step_assemble_of_not_inside exposed]
    exact apart.live_perm_release
  · intro exposed
    rw [step_assemble_of_not_inside exposed]
    rfl
  · intro exposed
    rw [step_assemble_of_not_inside exposed]
    rfl

end Assembling

/-- For elements of less than 2^32 bytes, with an alignment that buffers have, every bundle of a
reachable state has total views, and a bundle is assembled from exactly what it can count inside of. -/
theorem viewable_of_reachable (reachable : Reachable bench) (small : element.size < UInt32.size)
    (cast : element.Cast) (power : cast.alignment.isPowerOfTwo) (suits : cast.alignment ≤ maxAlignment)
    (placement : Placement) :
    (∀ bundle ∈ bench.bundles, bundle.Viewable cast placement) ∧
      ∀ target slot length flags, bench.Assembles target slot length flags := by
  refine ⟨?_, reachable.assembles small⟩
  intro bundle member
  exact (reachable.covered bundle member).viewable small (dvd_maxAlignment power suits) placement

/-- A bundle of two elements has views, and keeps them when four bytes were refused to replace it. -/
theorem viewable_of_refused_replacement :
    ∃ bench : Workbench Element.float32,
      bench = (empty 2 1).run [.allocate 0 10, .assemble 0 0 2 .empty, .allocate 1 4,
        .assemble 0 1 2 .empty, .put 0 1 [258]] ∧
      bench.heap.live = [⟨0, 10⟩] ∧ (bench.bundle 0).elements = .ok [0, 258] ∧
      (∀ bundle ∈ bench.bundles, bundle.Viewable (.checked 4) .dense) ∧
      ∀ target slot length flags, bench.Assembles target slot length flags :=
  ⟨_, rfl, by decide +kernel, by decide +kernel,
    viewable_of_reachable (.run (.start 2 1) _) (by decide) (.checked 4) ⟨2, rfl⟩ (by decide) .dense⟩

end Workbench

end OwnedText
