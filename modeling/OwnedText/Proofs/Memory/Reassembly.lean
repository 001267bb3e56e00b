import OwnedText.Proofs.Memory.Elements
import OwnedText.Proofs.Memory.Renewal

/-! # Bundles taken apart and put together again

A bundle grows and shrinks by being taken apart: its buffer goes into a slot, is resized there by bytes,
and is put together with another count. Elements are windows onto bytes, so what becomes of each element
is what becomes of its window. A window inside both lengths shows what it showed, one behind the old bytes
shows zeros, and one across their end shows the slack that was there, and then zeros.
-/

namespace OwnedText

private theorem Element.encode_injective {α : Type} (element : Element α) {value other : α}
    (same : element.encode value = element.encode other) : value = other := by
  rw [← element.decode_encode value, same, element.decode_encode]

namespace Heap

variable {bytes : List UInt8} {size start stop : Nat}

/-- What lies inside both lengths is as it was. -/
private theorem take_resizedBytes (before : stop ≤ bytes.length) (after : stop ≤ size) :
    (resizedBytes bytes size).take stop = bytes.take stop := by
  have inside : stop ≤ (bytes.take size).length := by
    rw [List.length_take]
    omega
  rw [resizedBytes, List.take_append_of_le_length inside, List.take_take, Nat.min_eq_left after]

/-- Behind the old bytes there are zeros. -/
private theorem drop_resizedBytes (behind : bytes.length ≤ start) :
    (resizedBytes bytes size).drop start = List.replicate (size - start) 0 := by
  have kept : (bytes.take size).length ≤ start := by
    rw [List.length_take]
    omega
  rw [resizedBytes, List.drop_append, List.drop_of_length_le kept, List.nil_append, List.drop_replicate,
    List.length_take]
  congr 1
  omega

end Heap

namespace Bundle

variable {α : Type} {element : Element α}

/-- The elements of a bundle over a buffer that was resized, against those shown before over so many bytes.
As far as both counts go they are the same, and the windows that lie behind the old bytes are zero. So
where there was no slack, all elements behind the old ones are. -/
structure Regrown (element : Element α) (shown : List α) (room : Nat) (regrown : List α) : Prop where
  kept : regrown.take (min shown.length regrown.length) = shown.take (min shown.length regrown.length)
  zeros : ∀ index (inside : index < regrown.length), room ≤ index * element.size →
    element.encode regrown[index] = List.replicate element.size 0
  fresh : room = shown.length * element.size → ∀ index (inside : index < regrown.length),
    shown.length ≤ index → element.encode regrown[index] = List.replicate element.size 0

section Windows

variable {bundle other : Bundle element} {shown regrown : List α} {buffer : Buffer}

/-- The counted elements lie inside what the bundle holds. -/
theorem Covered.length_le_contents (covered : bundle.Covered) :
    bundle.length.toNat * element.size ≤ (Buffer.contents bundle.data).length := by
  obtain ⟨absent, inside⟩ := (covered_iff_inside bundle).mp covered
  cases data : bundle.data with
  | none =>
    rw [absent data]
    exact Nat.le_of_eq (Nat.zero_mul _)
  | some buffer => exact inside buffer data

/-- The window of an element shows its encoding. -/
theorem Faithful.window (faithful : bundle.Faithful shown) (covered : bundle.Covered) (positive : 0 < element.size)
    {index : Nat} (inside : index < shown.length) :
    ((Buffer.contents bundle.data).take ((index + 1) * element.size)).drop (index * element.size) =
      element.encode shown[index] := by
  cases data : bundle.data with
  | none =>
    have count := covered.length_le_contents
    rw [data, ← faithful.length] at count
    have some : 0 < shown.length * element.size := Nat.mul_pos (Nat.zero_lt_of_lt inside) positive
    simp only [Buffer.contents, Option.elim_none, List.length_nil] at count
    omega
  | some buffer => exact faithful.encoded buffer data index inside

private theorem regrown_of_resized (covered : bundle.Covered) (positive : 0 < element.size)
    (faithful : bundle.Faithful shown) (covered' : other.Covered) (faithful' : other.Faithful regrown)
    {size : Nat}
    (resized : Buffer.contents other.data = Heap.resizedBytes (Buffer.contents bundle.data) size) :
    Regrown element shown (Buffer.contents bundle.data).length regrown := by
  have old := covered.length_le_contents
  have new := covered'.length_le_contents
  rw [← faithful.length] at old
  rw [← faithful'.length, resized, Heap.length_resizedBytes] at new
  have zeros (index : Nat) (inside : index < regrown.length)
      (behind : (Buffer.contents bundle.data).length ≤ index * element.size) :
      element.encode regrown[index] = List.replicate element.size 0 := by
    have stop : (index + 1) * element.size ≤ size := Nat.le_trans (Nat.mul_le_mul_right _ inside) new
    rw [← faithful'.window covered' positive inside, resized, List.drop_take, Heap.drop_resizedBytes behind,
      List.take_replicate]
    congr 1
    rw [Nat.add_mul, Nat.one_mul] at stop ⊢
    omega
  refine ⟨?_, zeros, ?_⟩
  · refine List.ext_getElem (by simp) fun index inside inside' => ?_
    rw [List.length_take] at inside inside'
    rw [List.getElem_take, List.getElem_take]
    have before : index < shown.length := by omega
    have after : index < regrown.length := by omega
    apply element.encode_injective
    rw [← faithful.window covered positive before, ← faithful'.window covered' positive after, resized,
      Heap.take_resizedBytes (Nat.le_trans (Nat.mul_le_mul_right _ before) old)
        (Nat.le_trans (Nat.mul_le_mul_right _ after) new)]
  · intro full index inside behind
    exact zeros index inside (full ▸ Nat.mul_le_mul_right _ behind)

end Windows

end Bundle

namespace Workbench

variable {α : Type} {element : Element α} {bench : Workbench element}

/-- What is left when a bundle was taken apart and its buffer put into a slot. -/
def takenApart (bench : Workbench element) (index slot : Nat) : Workbench element :=
  (bench.step (.takeParts index slot)).bench

/-- What is left when that buffer was then resized, into the same slot or another one. -/
def resizedApart (bench : Workbench element) (index slot slot' size : Nat) : Workbench element :=
  ((bench.takenApart index slot).step (.resize slot slot' size)).bench

/-- What became of a bundle that showed some elements, once it was taken apart, its buffer was resized, and
what came back was put together with a new count. -/
structure Regrows (bench : Workbench element) (index slot : Nat) (shown : List α) (slot' size target : Nat)
    (count : UInt32) (flags : Flags) : Prop where
  granted : ((bench.takenApart index slot).step (.resize slot slot' size)).response = .resized true true
  done : ((bench.resizedApart index slot slot' size).step (.assemble target slot' count flags)).response = .done
  bundle : ∃ resized regrown, resized.length = size ∧
    (bench.resizedApart index slot slot' size).slot slot' = some resized ∧
    ((bench.resizedApart index slot slot' size).step (.assemble target slot' count flags)).bench.bundle target =
      ⟨some resized, count, flags⟩ ∧
    (⟨some resized, count, flags⟩ : Bundle element).elements = .ok regrown ∧
    regrown.length = count.toNat ∧
    Bundle.Regrown element shown (Buffer.contents (bench.bundle index).data).length regrown

/-- Taking a bundle apart, by either action, hands out its very buffer, along with count and flags, and
leaves nothing behind. Put together again, the parts are the bundle that they were. If the buffer is
resized in between, any count that fits its new size will do. -/
structure Reassembles (bench : Workbench element) (index slot : Nat) (shown : List α) : Prop where
  parts : (bench.step (.takeParts index slot)).response =
    .parts (bench.bundle index).length (bench.bundle index).flags
  data : bench.step (.takeData index slot) =
    ⟨bench.takenApart index slot, .present (bench.bundle index).data.isSome, []⟩
  handed : (bench.takenApart index slot).slot slot = (bench.bundle index).data
  left : (bench.takenApart index slot).bundle index = ⟨none, 0, ⟨0⟩⟩
  rebuilt : ∀ target, target < bench.bundles.length →
    ((bench.takenApart index slot).step (.assemble target slot (bench.bundle index).length
      (bench.bundle index).flags)).response = .done ∧
    ((bench.takenApart index slot).step (.assemble target slot (bench.bundle index).length
      (bench.bundle index).flags)).bench.bundle target = bench.bundle index
  regrows : ∀ slot' size target count flags, slot' < bench.slots.length → target < bench.bundles.length →
    (bench.takenApart index slot).heap.Grants size → count.toNat * element.size ≤ size →
      bench.Regrows index slot shown slot' size target count flags

section Steps

variable {index slot target : Nat} {count : UInt32} {flags : Flags}

/-- What fits is put together as it is. -/
theorem step_assemble_bundle (flags : Flags) (inside : element.Inside count (bench.slot slot))
    (present : target < bench.bundles.length) :
    (bench.step (.assemble target slot count flags)).response = .done ∧
      (bench.step (.assemble target slot count flags)).bench.bundle target = ⟨bench.slot slot, count, flags⟩ := by
  simp [step_assemble_of_inside inside, present]

theorem slot_takenApart (index : Nat) (there : slot < bench.slots.length) :
    (bench.takenApart index slot).slot slot = (bench.bundle index).data :=
  (bench.setBundle index .empty).slot_storeSlot_self _ there

@[simp] theorem length_slots_takenApart :
    (bench.takenApart index slot).slots.length = bench.slots.length :=
  length_slots_storeSlot _ _ _

@[simp] theorem bundles_takenApart :
    (bench.takenApart index slot).bundles = bench.bundles.set index .empty :=
  bundles_storeSlot _ _ _

private theorem bundle_takenApart (present : index < bench.bundles.length) :
    (bench.takenApart index slot).bundle index = .empty := by
  simp [Workbench.bundle, present]

/-- A granted resize puts a buffer with the bytes of the old one into its slot, and clears the other. -/
private theorem exists_resize {source target size : Nat} (there : target < bench.slots.length)
    (grants : bench.heap.Grants size) :
    ∃ resized : Buffer, resized.bytes = Heap.resizedBytes (Buffer.contents (bench.slot source)) size ∧
      (bench.step (.resize source target size)).response = .resized true true ∧
      (bench.step (.resize source target size)).bench.slot target = some resized := by
  have granted := (Heap.isSome_moved_resize bench.heap (bench.slot source) size).mpr grants
  obtain ⟨resized, moved⟩ := Option.isSome_iff_exists.mp granted
  exact ⟨resized, Heap.bytes_of_resize moved, by simp [step, moved], (slot_step_resize there size).trans moved⟩

private theorem regrows_of_covered {shown : List α} {slot' size : Nat}
    (covered : (bench.bundle index).Covered) (positive : 0 < element.size)
    (faithful : (bench.bundle index).Faithful shown) (there : slot < bench.slots.length)
    (there' : slot' < bench.slots.length) (present : target < bench.bundles.length)
    (grants : (bench.takenApart index slot).heap.Grants size) (room : count.toNat * element.size ≤ size) :
    bench.Regrows index slot shown slot' size target count flags := by
  have stays : slot' < (bench.takenApart index slot).slots.length := by simpa using there'
  obtain ⟨resized, bytes, granted, held⟩ := exists_resize stays grants
  rw [slot_takenApart index there] at bytes
  have length : resized.length = size := by simp [Buffer.length, bytes]
  change (bench.resizedApart index slot slot' size).slot slot' = some resized at held
  have inside : element.Inside count ((bench.resizedApart index slot slot' size).slot slot') := by
    rw [held]
    refine ⟨fun absent => absurd absent (Option.some_ne_none _), ?_⟩
    rintro _ ⟨⟩
    exact length.symm ▸ room
  have present' : target < (bench.resizedApart index slot slot' size).bundles.length := by
    have same : (bench.resizedApart index slot slot' size).bundles = (bench.takenApart index slot).bundles :=
      bundles_resized _ _ _ _
    simpa [same] using present
  obtain ⟨done, assembled⟩ := step_assemble_bundle flags inside present'
  rw [held] at assembled inside
  have covered' : (⟨some resized, count, flags⟩ : Bundle element).Covered :=
    (Bundle.covered_iff_inside _).mpr inside
  obtain ⟨regrown, faithful'⟩ := covered'.faithful positive
  refine ⟨granted, done, resized, regrown, length, held, assembled, faithful'.elements, faithful'.length, ?_⟩
  exact Bundle.regrown_of_resized covered positive faithful covered' faithful' bytes

end Steps

/-- In every reachable state, for elements of at least one byte, a bundle that is taken apart into a slot
can be put together again, with the buffer as it is or resized. -/
theorem reassembles_of_reachable (reachable : Reachable bench) (positive : 0 < element.size) {index slot : Nat}
    (present : index < bench.bundles.length) (there : slot < bench.slots.length) :
    ∃ shown, (bench.bundle index).elements = .ok shown ∧ shown.length = (bench.bundle index).length.toNat ∧
      bench.Reassembles index slot shown := by
  have covered := reachable.covered.bundle index
  obtain ⟨shown, faithful⟩ := covered.faithful positive
  have handed := slot_takenApart index there
  refine ⟨shown, faithful.elements, faithful.length, rfl, rfl, handed, bundle_takenApart present, ?_, ?_⟩
  · intro target present'
    have inside : element.Inside (bench.bundle index).length ((bench.takenApart index slot).slot slot) := by
      rw [handed]
      exact (Bundle.covered_iff_inside _).mp covered
    have assembled := step_assemble_bundle (bench.bundle index).flags inside (by simpa using present')
    rwa [handed] at assembled
  · intro slot' size target count flags there' present' grants room
    exact regrows_of_covered covered positive faithful there there' present' grants room

/-- Three elements of three bytes over a buffer of ten, which gets room for five: the byte of slack shows in
the fourth element, and the fifth is zero. -/
theorem reassembles_of_slack :
    ∃ bench : Workbench (Element.byteArray 3),
      bench = (empty 2 1).run [.allocate 0 10, .fill 0 1, .assemble 0 0 3 .nulTerminated] ∧
      (((bench.resizedApart 0 1 1 15).step (.assemble 0 1 5 .empty)).bench.bundle 0).elements.toOption.map
        (List.map Subtype.val) = some [[1, 2, 3], [4, 5, 6], [7, 8, 9], [10, 0, 0], [0, 0, 0]] ∧
      ∃ shown, (bench.bundle 0).elements = .ok shown ∧ shown.length = (bench.bundle 0).length.toNat ∧
        bench.Reassembles 0 1 shown :=
  ⟨_, rfl, by decide +kernel,
    reassembles_of_reachable (.run (.start 2 1) _) (by decide) (by decide +kernel) (by decide +kernel)⟩

end Workbench

end OwnedText
