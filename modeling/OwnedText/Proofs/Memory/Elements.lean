import OwnedText.Proofs.Memory.Coverage

/-! # Elements are windows onto bytes

Encoding elements one behind the other and reading that many back are inverse, since they are for one
element. So the elements that a bundle shows are exactly those whose encoding its buffer begins with, and
a write through a view can be told on either side: it replaces some elements by as many others, or their
bytes by as many others. Nothing depends on the number of bytes that an element takes.
-/

namespace OwnedText

namespace Element

/-- How the element types in use are laid out: numbers with the lowest byte first, negative ones by their
residues, numbers with a fraction by their bits, and compound elements without gaps. -/
structure Layouts : Prop where
  unsigned : ∀ count (value : Fin (values count)),
    ((unsigned count).encode value).length = count ∧ ofLittleEndian ((unsigned count).encode value) = value
  signed : ∀ count (value : Signed count), ((signed count).encode value).length = count ∧
    (ofLittleEndian ((signed count).encode value) : Int) = value.val % values count
  float32 : ∀ bits, (float32.encode bits).length = 4 ∧ ofLittleEndian (float32.encode bits) = bits.toNat
  float64 : ∀ bits, (float64.encode bits).length = 8 ∧ ofLittleEndian (float64.encode bits) = bits.toNat
  byteArray : ∀ count value, (byteArray count).encode value = value.val
  point : ∀ x y, point.encode (x, y) = Element.float32.encode x ++ Element.float32.encode y

theorem ofLittleEndian_encode_unsigned (count : Nat) (value : Fin (values count)) :
    ofLittleEndian ((unsigned count).encode value) = value := by
  change ofLittleEndian (littleEndian count value.val) = value.val
  rw [ofLittleEndian_littleEndian, Nat.mod_eq_of_lt value.isLt]

/-- The residue of a negative number is the number modulo what the bytes can count. -/
private theorem residue_eq_emod (count : Nat) (value : Signed count) :
    ((residue count value).val : Int) = value.val % values count := by
  obtain ⟨value, low, high⟩ := value
  simp only [residue]
  split
  · rename_i negative
    rw [← Int.add_emod_right, Int.toNat_of_nonneg (by omega), Int.emod_eq_of_lt (by omega) (by omega)]
  · rw [Int.toNat_of_nonneg (by omega), Int.emod_eq_of_lt (by omega) (by omega)]

theorem layouts : Layouts where
  unsigned count value := ⟨(unsigned count).length_encode value, ofLittleEndian_encode_unsigned count value⟩
  signed count value := by
    refine ⟨(signed count).length_encode value, ?_⟩
    rw [← residue_eq_emod]
    exact congrArg Int.ofNat (ofLittleEndian_encode_unsigned count _)
  float32 bits := ⟨Element.float32.length_encode bits, ofLittleEndian_encode_unsigned 4 _⟩
  float64 bits := ⟨Element.float64.length_encode bits, ofLittleEndian_encode_unsigned 8 _⟩
  byteArray _ _ := rfl
  point _ _ := rfl

variable {α : Type} (element : Element α)

theorem encodeAll_append (front back : List α) :
    element.encodeAll (front ++ back) = element.encodeAll front ++ element.encodeAll back :=
  List.flatMap_append

/-- Elements that were written are read back, whatever is behind them. -/
theorem decodeAll_encodeAll_append (values : List α) (slack : List UInt8) :
    element.decodeAll values.length (element.encodeAll values ++ slack) = values := by
  induction values with
  | nil => rfl
  | cons value rest ih =>
    have sized := element.length_encode value
    rw [encodeAll, List.flatMap_cons, List.append_assoc, List.length_cons, decodeAll,
      List.take_left' sized, List.drop_left' sized, element.decode_encode]
    exact congrArg (value :: ·) ih

/-- Bytes that were read as elements are written back. -/
theorem encodeAll_decodeAll {count : Nat} {bytes : List UInt8} (whole : bytes.length = count * element.size) :
    element.encodeAll (element.decodeAll count bytes) = bytes := by
  induction count generalizing bytes with
  | zero =>
    rw [Nat.zero_mul] at whole
    exact (List.eq_nil_of_length_eq_zero whole).symm
  | succ count ih =>
    rw [Nat.add_mul, Nat.one_mul] at whole
    have first : (bytes.take element.size).length = element.size :=
      List.length_take_of_le (by omega)
    have others : (bytes.drop element.size).length = count * element.size := by
      rw [List.length_drop]
      omega
    have rest := ih others
    rw [encodeAll] at rest
    rw [decodeAll, encodeAll, List.flatMap_cons, rest, element.encode_decode _ first,
      List.take_append_drop]

/-- Each element has its own window. -/
private theorem window_encodeAll_append (values : List α) (slack : List UInt8) {index : Nat}
    (inside : index < values.length) :
    ((element.encodeAll values ++ slack).take ((index + 1) * element.size)).drop (index * element.size) =
      element.encode values[index] := by
  have front : (element.encodeAll (values.take index)).length = index * element.size := by
    simp [Nat.le_of_lt inside]
  have parts : element.encodeAll values = element.encodeAll (values.take index) ++
      (element.encode values[index] ++ element.encodeAll (values.drop (index + 1))) := by
    conv => lhs; rw [← List.take_append_drop index values, encodeAll_append]
    rw [List.drop_eq_getElem_cons inside]
    rfl
  rw [parts, List.append_assoc, List.append_assoc, List.drop_take, List.drop_left' front,
    Nat.add_mul, Nat.one_mul, Nat.add_sub_cancel_left, List.take_left' (element.length_encode _)]

end Element

namespace Buffer

section Splices

variable {bytes content : List UInt8} {offset : Nat}

/-- The bytes before those that are replaced stay. -/
private theorem take_splice (inside : offset + content.length ≤ bytes.length) :
    (splice bytes offset content).take offset = bytes.take offset := by
  have front : (bytes.take offset).length = offset := List.length_take_of_le (by omega)
  rw [splice, List.append_assoc, List.take_left' front]

/-- The bytes behind those that are replaced stay. -/
private theorem drop_splice (inside : offset + content.length ≤ bytes.length) :
    (splice bytes offset content).drop (offset + content.length) = bytes.drop (offset + content.length) := by
  have front : (bytes.take offset ++ content).length = offset + content.length := by
    rw [List.length_append, List.length_take_of_le (by omega)]
  rw [splice, List.drop_left' front]

end Splices

/-- What stands between two parts is replaced by as much else. -/
private theorem splice_append {front middle content back : List UInt8}
    (same : content.length = middle.length) :
    splice (front ++ (middle ++ back)) front.length content = front ++ (content ++ back) := by
  rw [splice, List.take_left, same, ← List.append_assoc front middle back, ← List.length_append,
    List.drop_left, List.append_assoc]

end Buffer

/-- Replacing the bytes of some elements by those of as many values is replacing the elements. -/
private theorem Element.splice_encodeAll {α : Type} (element : Element α) {shown values : List α}
    {offset : Nat} (slack : List UInt8) (room : offset + values.length ≤ shown.length) :
    Buffer.splice (element.encodeAll shown ++ slack) (offset * element.size) (element.encodeAll values) =
      element.encodeAll (shown.take offset ++ values ++ shown.drop (offset + values.length)) ++ slack := by
  have front : (element.encodeAll (shown.take offset)).length = offset * element.size := by
    rw [Element.length_encodeAll, List.length_take_of_le (by omega)]
  have count : ((shown.drop offset).take values.length).length = values.length := by
    apply List.length_take_of_le
    rw [List.length_drop]
    omega
  have same : (element.encodeAll values).length =
      (element.encodeAll ((shown.drop offset).take values.length)).length := by
    simp only [Element.length_encodeAll, count]
  have parts : element.encodeAll shown ++ slack = element.encodeAll (shown.take offset) ++
      (element.encodeAll ((shown.drop offset).take values.length) ++
        (element.encodeAll (shown.drop (offset + values.length)) ++ slack)) := by
    rw [← List.append_assoc (element.encodeAll _), ← List.append_assoc, ← element.encodeAll_append,
      ← element.encodeAll_append, List.append_assoc, ← List.drop_drop, List.take_append_drop, List.take_append_drop]
  rw [parts, ← front, Buffer.splice_append same, element.encodeAll_append, element.encodeAll_append,
    List.append_assoc, List.append_assoc]

namespace Bundle

variable {α : Type} {element : Element α}

/-- A view of a bundle shows all counted elements, and the bytes of each are what encodes it. -/
structure Faithful (bundle : Bundle element) (shown : List α) : Prop where
  elements : bundle.elements = .ok shown
  length : shown.length = bundle.length.toNat
  encoded : ∀ buffer, bundle.data = some buffer → ∀ index (inside : index < shown.length),
    (buffer.bytes.take ((index + 1) * element.size)).drop (index * element.size) =
      element.encode shown[index]

/-- A bundle after a write: as many elements as there are values have been replaced by them from an index
on, in the same buffer, and all bytes before and behind those are as they were. -/
structure Overwritten (bundle : Bundle element) (shown : List α) (offset : Nat) (values : List α)
    (stored : Bundle element) : Prop where
  elements : stored.elements = .ok (shown.take offset ++ values ++ shown.drop (offset + values.length))
  length : stored.length = bundle.length
  flags : stored.flags = bundle.flags
  absent : bundle.data = none → stored.data = none
  bytes : ∀ buffer, bundle.data = some buffer → ∃ written, stored.data = some written ∧
    written.block = buffer.block ∧ written.length = buffer.length ∧
    written.bytes.take (offset * element.size) = buffer.bytes.take (offset * element.size) ∧
    written.bytes.drop ((offset + values.length) * element.size) =
      buffer.bytes.drop ((offset + values.length) * element.size)

section Views

variable {bundle stored : Bundle element} {shown values : List α} {offset : Nat}

theorem shown_of_pos (positive : 0 < element.size) (bundle : Bundle element) :
    bundle.shown = bundle.length.toNat := if_neg (Nat.ne_of_gt positive)

/-- A buffer that begins with the encoding of as many elements as are counted shows those. -/
private theorem elements_of_bytes {buffer : Buffer} {slack : List UInt8} (positive : 0 < element.size)
    (data : bundle.data = some buffer) (length : shown.length = bundle.length.toNat)
    (bytes : buffer.bytes = element.encodeAll shown ++ slack) : bundle.elements = .ok shown := by
  have size : bundle.byteLength = (element.encodeAll shown).length := by
    simp [byteLength, length]
  have visible : bundle.bytes = .ok (element.encodeAll shown) := by
    simp only [Bundle.bytes, data]
    rw [bytes, size, window_of_le (by rw [List.length_append]; exact Nat.le_add_right _ _), List.take_left]
  have count : (element.encodeAll shown).length / element.size = shown.length := by
    simp [positive]
  rw [elements, visible]
  change Except.ok (element.decodeAll ((element.encodeAll shown).length / element.size)
    (element.encodeAll shown)) = .ok shown
  have read := element.decodeAll_encodeAll_append shown []
  rw [List.append_nil] at read
  rw [count, read]

/-- Conversely, the elements shown are those that the buffer begins with, and without one there are none. -/
theorem Covered.exists_shown (covered : bundle.Covered) (positive : 0 < element.size) :
    ∃ shown, bundle.elements = .ok shown ∧ shown.length = bundle.length.toNat ∧
      ∀ buffer, bundle.data = some buffer →
        ∃ slack, buffer.bytes = element.encodeAll shown ++ slack := by
  obtain ⟨bytes, values, visible, size, rfl, elements⟩ := covered.elements_eq
  refine ⟨_, elements, ?_, ?_⟩
  · simp [shown_of_pos positive]
  · intro buffer data
    rw [byteLength_eq_shown] at size
    rw [element.encodeAll_decodeAll size]
    simp only [Bundle.bytes, data, window] at visible
    split at visible
    · cases visible
      exact ⟨_, (List.take_append_drop bundle.byteLength buffer.bytes).symm⟩
    · contradiction

private theorem overwritten_nil (visible : bundle.elements = .ok []) (absent : bundle.data = none) :
    bundle.Overwritten [] offset [] bundle where
  elements := by
    rw [visible, List.take_nil, List.drop_nil]
    rfl
  length := rfl
  flags := rfl
  absent _ := absent
  bytes _ present := by
    rw [absent] at present
    contradiction

private theorem overwritten_of_write? {buffer written : Buffer} {slack : List UInt8}
    (positive : 0 < element.size) (data : bundle.data = some buffer)
    (length : shown.length = bundle.length.toNat) (begins : buffer.bytes = element.encodeAll shown ++ slack)
    (room : offset + values.length ≤ bundle.length.toNat)
    (success : buffer.write? (offset * element.size) (element.encodeAll values) = some written) :
    bundle.Overwritten shown offset values { bundle with data := some written } := by
  obtain ⟨inside, bytes⟩ := Buffer.bytes_of_write? success
  obtain ⟨block, size⟩ := Buffer.block_length_of_write? success
  have stop : (offset + values.length) * element.size =
      offset * element.size + (element.encodeAll values).length := by
    simp [Nat.add_mul]
  have front := Buffer.take_splice inside
  have back := Buffer.drop_splice inside
  rw [← bytes] at front back
  rw [← stop] at back
  refine ⟨?_, rfl, rfl, ?_, ?_⟩
  · apply elements_of_bytes positive rfl
    · rw [List.length_append, List.length_append, List.length_take_of_le (by omega), List.length_drop]
      change _ = bundle.length.toNat
      omega
    · rw [bytes, begins, element.splice_encodeAll slack (length ▸ room)]
  · intro absent
    rw [data] at absent
    contradiction
  · intro buffer' data'
    obtain rfl := Option.some.inj (data.symm.trans data')
    exact ⟨written, rfl, block, size, front, back⟩

/-- Writing values replaces as many of the elements shown. -/
theorem Covered.overwritten (covered : bundle.Covered) (positive : 0 < element.size)
    (visible : bundle.elements = .ok shown) (room : offset + values.length ≤ bundle.length.toNat) :
    ∃ stored, bundle.store offset values = .ok stored ∧ bundle.Overwritten shown offset values stored := by
  obtain ⟨old, visible', length, begins⟩ := covered.exists_shown positive
  rw [visible] at visible'
  obtain rfl := Except.ok.inj visible'
  have fits := covered.store_eq offset values
  rw [shown_of_pos positive, if_pos room] at fits
  obtain ⟨stored, success⟩ := fits
  refine ⟨stored, success, ?_⟩
  rcases stored_of_store success with ⟨absent, same⟩ | ⟨buffer, written, data, success', rfl⟩
  · -- Without a buffer nothing is counted, so there are neither elements nor values.
    have none : bundle.length.toNat = 0 := by
      rw [((covered_iff_inside _).mp covered).1 absent]
      rfl
    obtain rfl : shown = [] := List.eq_nil_of_length_eq_zero (by omega)
    obtain rfl : values = [] := List.eq_nil_of_length_eq_zero (by omega)
    rw [same]
    exact overwritten_nil visible absent
  · obtain ⟨slack, begins⟩ := begins buffer data
    exact overwritten_of_write? positive data length begins room success'

/-- What is shown is what the bytes encode. -/
theorem Covered.faithful (covered : bundle.Covered) (positive : 0 < element.size) :
    ∃ shown, bundle.Faithful shown := by
  obtain ⟨shown, visible, length, begins⟩ := covered.exists_shown positive
  refine ⟨shown, visible, length, ?_⟩
  intro buffer data index inside
  obtain ⟨slack, bytes⟩ := begins buffer data
  rw [bytes, element.window_encodeAll_append shown slack inside]

end Views

end Bundle

namespace Workbench

variable {α : Type} {element : Element α} {bench : Workbench element} {index : Nat}

/-- What writes through the views of a bundle do to a workbench. A range of elements that are all counted
takes the values, and nothing else changes, neither on the heap nor in any other place; a range that
reaches further changes nothing at all. -/
structure WindowsOnto (bench : Workbench element) (index : Nat) (shown : List α) : Prop where
  faithful : (bench.bundle index).Faithful shown
  inside : ∀ (offset : Nat) (values : List α),
    offset + values.length ≤ (bench.bundle index).length.toNat →
      (bench.step (.put index offset values)).response = .done ∧
      (bench.bundle index).Overwritten shown offset values
        ((bench.step (.put index offset values)).bench.bundle index) ∧
      (∀ other, other ≠ index →
        (bench.step (.put index offset values)).bench.bundle other = bench.bundle other) ∧
      (bench.step (.put index offset values)).bench.slots = bench.slots ∧
      (bench.step (.put index offset values)).bench.heap = bench.heap
  outside : ∀ (offset : Nat) (values : List α),
    (bench.bundle index).length.toNat < offset + values.length →
      bench.step (.put index offset values) = ⟨bench, .outOfRange, []⟩

/-- In every reachable state, for elements of at least one byte, the views of each bundle are faithful
windows onto its buffer. -/
theorem windowsOnto_of_reachable (reachable : Reachable bench) (positive : 0 < element.size)
    (present : index < bench.bundles.length) :
    Element.Layouts ∧ ∃ shown, bench.WindowsOnto index shown := by
  have covered := reachable.covered.bundle index
  obtain ⟨shown, faithful⟩ := covered.faithful positive
  refine ⟨Element.layouts, shown, faithful, ?_, ?_⟩
  · intro offset values room
    obtain ⟨stored, success, overwritten⟩ := covered.overwritten positive faithful.elements room
    simp only [step, success]
    refine ⟨trivial, ?_, ?_, rfl, rfl⟩
    · simpa [present] using overwritten
    · intro other apart
      simp [apart]
  · intro offset values exceeds
    have refused := covered.store_eq offset values
    rw [Bundle.shown_of_pos positive, if_neg (Nat.not_le.mpr exceeds)] at refused
    simp only [step, refused]

/-- Three bytes make an element, and a buffer of ten bytes has one byte of slack behind three of them. -/
theorem windowsOnto_of_slack :
    ∃ bench : Workbench (Element.byteArray 3),
      bench = (empty 1 1).run [.allocate 0 10, .fill 0 1, .assemble 0 0 3 .empty, .put 0 1 [⟨[7, 8, 9], rfl⟩]] ∧
      (bench.bundle 0).data.map Buffer.bytes = some [1, 2, 3, 7, 8, 9, 7, 8, 9, 10] ∧
      Element.Layouts ∧ ∃ shown, bench.WindowsOnto 0 shown :=
  ⟨_, rfl, by decide +kernel, windowsOnto_of_reachable (.run (.start 1 1) _) (by decide) (by decide +kernel)⟩

end Workbench

end OwnedText
