/-! # Element types

An element type says how many bytes one value takes and how the value and those bytes determine each
other. Both directions are inverse, so reading an element never changes it and no bit pattern is
merged with another. Numbers are little-endian; compound elements have no padding.
-/

namespace OwnedText

structure Element (α : Type) where
  size : Nat
  encode : α → List UInt8
  decode : List UInt8 → α
  length_encode : ∀ value, (encode value).length = size
  decode_encode : ∀ value, decode (encode value) = value
  encode_decode : ∀ bytes, bytes.length = size → encode (decode bytes) = bytes

namespace Element

/-- How many values `count` bytes can have. -/
def values (count : Nat) : Nat := Nat.pow 256 count

theorem values_succ (count : Nat) : values (count + 1) = 256 * values count := Nat.mul_comm ..

theorem values_pos (count : Nat) : 0 < values count := by
  induction count with
  | zero => decide
  | succ count ih =>
    rw [values_succ]
    omega

/-- The `count` lowest bytes of a number, lowest first. -/
def littleEndian : Nat → Nat → List UInt8
  | 0, _ => []
  | count + 1, value => UInt8.ofNat value :: littleEndian count (value / 256)

/-- The number whose bytes are given lowest first. -/
def ofLittleEndian : List UInt8 → Nat
  | [] => 0
  | byte :: rest => byte.toNat + 256 * ofLittleEndian rest

@[simp] theorem length_littleEndian (count value : Nat) : (littleEndian count value).length = count := by
  induction count generalizing value with
  | zero => rfl
  | succ count ih => simp [littleEndian, ih]

@[simp] theorem ofLittleEndian_littleEndian (count value : Nat) :
    ofLittleEndian (littleEndian count value) = value % values count := by
  induction count generalizing value with
  | zero => exact (Nat.mod_one value).symm
  | succ count ih =>
    simp only [littleEndian, ofLittleEndian, ih, UInt8.toNat_ofNat']
    rw [values_succ, Nat.mod_mul]

theorem ofLittleEndian_lt (bytes : List UInt8) : ofLittleEndian bytes < values bytes.length := by
  induction bytes with
  | nil => exact values_pos 0
  | cons byte rest ih =>
    have bound := byte.toNat_lt
    simp only [ofLittleEndian, List.length_cons, values_succ]
    omega

@[simp] theorem littleEndian_ofLittleEndian (bytes : List UInt8) :
    littleEndian bytes.length (ofLittleEndian bytes) = bytes := by
  induction bytes with
  | nil => rfl
  | cons byte rest ih =>
    have bound := byte.toNat_lt
    simp only [ofLittleEndian, List.length_cons, littleEndian]
    have low : UInt8.ofNat (byte.toNat + 256 * ofLittleEndian rest) = byte := by
      apply UInt8.toNat_inj.mp
      simp only [UInt8.toNat_ofNat']
      omega
    have high : (byte.toNat + 256 * ofLittleEndian rest) / 256 = ofLittleEndian rest := by omega
    rw [low, high, ih]

/-- Carry an element type over to another type of values by a bijection. -/
def congr {α β : Type} (element : Element α) (forward : α → β) (back : β → α)
    (back_forward : ∀ value, back (forward value) = value)
    (forward_back : ∀ value, forward (back value) = value) : Element β where
  size := element.size
  encode value := element.encode (back value)
  decode bytes := forward (element.decode bytes)
  length_encode value := element.length_encode (back value)
  decode_encode value := by rw [element.decode_encode, forward_back]
  encode_decode bytes sized := by rw [back_forward, element.encode_decode bytes sized]

/-- Unsigned integers of `count` bytes. -/
def unsigned (count : Nat) : Element (Fin (values count)) where
  size := count
  encode value := littleEndian count value.val
  decode bytes := ⟨ofLittleEndian bytes % values count, Nat.mod_lt _ (values_pos count)⟩
  length_encode value := length_littleEndian count value.val
  decode_encode value := by
    apply Fin.ext
    simp only [ofLittleEndian_littleEndian, Nat.mod_eq_of_lt value.isLt]
  encode_decode bytes sized := by
    subst sized
    simp only [Nat.mod_eq_of_lt (ofLittleEndian_lt bytes), littleEndian_ofLittleEndian]

/-- The integers of `count` bytes in two's complement: the lower half is negative. -/
abbrev Signed (count : Nat) : Type :=
  { value : Int // -(values count : Int) ≤ 2 * value ∧ 2 * value < values count }

/-- The residue that stands for a signed value. -/
def residue (count : Nat) (value : Signed count) : Fin (values count) :=
  ⟨(if value.val < 0 then value.val + values count else value.val).toNat, by
    have bounds := value.property
    split <;> omega⟩

/-- The signed value that a residue stands for. -/
def ofResidue (count : Nat) (value : Fin (values count)) : Signed count :=
  ⟨if 2 * value.val < values count then value.val else value.val - values count, by
    have bound := value.isLt
    split <;> omega⟩

@[simp] theorem residue_ofResidue (count : Nat) (value : Fin (values count)) :
    residue count (ofResidue count value) = value := by
  apply Fin.ext
  have bound := value.isLt
  simp only [residue, ofResidue]
  split <;> split <;> omega

@[simp] theorem ofResidue_residue (count : Nat) (value : Signed count) :
    ofResidue count (residue count value) = value := by
  apply Subtype.ext
  have bounds := value.property
  simp only [residue, ofResidue]
  split <;> split <;> omega

/-- Signed integers of `count` bytes. -/
def signed (count : Nat) : Element (Signed count) :=
  (unsigned count).congr (ofResidue count) (residue count)
    (residue_ofResidue count) (ofResidue_residue count)

/-- Floating-point numbers of 32 bits, by their bits. -/
def float32 : Element UInt32 :=
  (unsigned 4).congr (fun value => ⟨⟨value.val, value.isLt⟩⟩) (fun word => ⟨word.toNat, word.toNat_lt⟩)
    (fun _ => rfl) (fun _ => rfl)

/-- Floating-point numbers of 64 bits, by their bits. -/
def float64 : Element UInt64 :=
  (unsigned 8).congr (fun value => ⟨⟨value.val, value.isLt⟩⟩) (fun word => ⟨word.toNat, word.toNat_lt⟩)
    (fun _ => rfl) (fun _ => rfl)

/-- Arrays of `count` bytes, in memory order. -/
def byteArray (count : Nat) : Element { bytes : List UInt8 // bytes.length = count } where
  size := count
  encode value := value.val
  decode bytes := ⟨(bytes ++ List.replicate count 0).take count, by simp⟩
  length_encode value := value.property
  decode_encode value := by
    apply Subtype.ext
    simp [← value.property]
  encode_decode bytes sized := by simp [← sized]

/-- Two elements, one behind the other. -/
def pair {α β : Type} (first : Element α) (second : Element β) : Element (α × β) where
  size := first.size + second.size
  encode value := first.encode value.1 ++ second.encode value.2
  decode bytes := (first.decode (bytes.take first.size), second.decode (bytes.drop first.size))
  length_encode value := by simp [first.length_encode, second.length_encode]
  decode_encode value := by
    have sized := first.length_encode value.1
    simp [← sized, first.decode_encode, second.decode_encode]
  encode_decode bytes sized := by
    simp only
    rw [first.encode_decode _ (by simp; omega), second.encode_decode _ (by simp; omega),
      List.take_append_drop]

/-- Points with two coordinates of 32 bits. -/
def point : Element (UInt32 × UInt32) := pair float32 float32

/-- The one value that needs no bytes. -/
def unit : Element Unit where
  size := 0
  encode _ := []
  decode _ := ()
  length_encode _ := rfl
  decode_encode _ := rfl
  encode_decode _ sized := (List.eq_nil_of_length_eq_zero sized).symm

/-- Read `count` elements, one behind the other. -/
def decodeAll {α : Type} (element : Element α) : Nat → List UInt8 → List α
  | 0, _ => []
  | count + 1, bytes =>
    element.decode (bytes.take element.size) :: element.decodeAll count (bytes.drop element.size)

/-- Write elements one behind the other. -/
def encodeAll {α : Type} (element : Element α) (values : List α) : List UInt8 :=
  values.flatMap element.encode

@[simp] theorem length_encodeAll {α : Type} (element : Element α) (values : List α) :
    (element.encodeAll values).length = values.length * element.size := by
  induction values with
  | nil => simp [encodeAll]
  | cons value rest ih =>
    simp only [encodeAll, List.flatMap_cons, List.length_append, element.length_encode,
      List.length_cons] at ih ⊢
    rw [ih, Nat.add_mul, Nat.one_mul, Nat.add_comm]

end Element

end OwnedText
