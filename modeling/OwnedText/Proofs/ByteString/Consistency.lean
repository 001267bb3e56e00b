import OwnedText.ByteString.Basic
import OwnedText.Proofs.Memory.Requests

/-! # Data, length and terminator of a byte string agree

A byte string keeps its data, its length and the flag that announces a terminator as three parts, and
nothing in its type ties them together. They agree if absent data goes with no length and no flag, and
if present data is as long as the length says, with one byte more, a zero, exactly if the flag is set.
Every way to make a string establishes this, and every way to make one from another keeps it; both
views of a string are then total and show what the length counts.
-/

namespace OwnedText

namespace Buffer

private theorem splice_whole {bytes content : List UInt8} (fits : content.length = bytes.length) :
    splice bytes 0 content = content := by
  rw [splice, List.take_zero, List.nil_append, Nat.zero_add, fits, List.drop_length, List.append_nil]

/-- As many bytes as a buffer has replace them all. -/
theorem write?_whole {buffer : Buffer} {content : List UInt8} (fits : content.length = buffer.bytes.length) :
    ∃ written, buffer.write? 0 content = some written ∧ written.block = buffer.block ∧
      written.bytes = content := by
  have inside : 0 + content.length ≤ buffer.bytes.length := by omega
  exact ⟨_, dif_pos inside, rfl, splice_whole fits⟩

end Buffer

namespace Flags

@[simp] theorem empty_contains_nul : empty.contains nulTerminated = false := by decide

@[simp] theorem nul_contains_nul : nulTerminated.contains nulTerminated = true := by decide

end Flags

namespace ByteString

/-- The zero byte behind the counted ones, if there is one. -/
def terminator (string : ByteString) : List UInt8 := if string.isNulTerminated then [0] else []

theorem terminator_of_true {string : ByteString} (flag : string.isNulTerminated = true) :
    string.terminator = [0] := if_pos flag

theorem terminator_of_false {string : ByteString} (flag : string.isNulTerminated = false) :
    string.terminator = [] := if_neg (Bool.eq_false_iff.mp flag)

theorem copySize_eq (string : ByteString) :
    string.copySize = string.length.toNat + string.terminator.length := by
  unfold copySize terminator
  split <;> rfl

/-- A copy needs no bytes exactly if there are none to count and there is no terminator. -/
theorem copySize_eq_zero_iff (string : ByteString) :
    string.copySize = 0 ↔ string.length.toNat = 0 ∧ string.isNulTerminated = false := by
  rw [copySize]
  cases string.isNulTerminated <;> simp

/-- Data, length and the flag for a terminator agree. -/
structure Consistent (string : ByteString) : Prop where
  absent : string.data = none → string.length = 0 ∧ string.isNulTerminated = false
  terminated : ∀ storage, string.data = some storage → string.isNulTerminated = true →
    storage.bytes.length = string.length.toNat + 1 ∧ storage.bytes[string.length.toNat]? = some 0
  unterminated : ∀ storage, string.data = some storage → string.isNulTerminated = false →
    storage.bytes.length = string.length.toNat

/-- The parts of a string agree and its views are total: one shows as many bytes as the string counts,
the other the same bytes with a zero byte behind them, exactly if there is a terminator. -/
structure Represented (string : ByteString) : Prop extends string.Consistent where
  views : ∃ bytes, string.bytes = .ok bytes ∧ bytes.length = string.length.toNat ∧
    string.bytesWithNul = .ok (if string.isNulTerminated then some (bytes ++ [0]) else none)

/-- Strings agree with themselves if what they store is their counted bytes and their terminator. -/
theorem consistent_of_bytes {string : ByteString} {storage : Storage} {counted : List UInt8}
    (present : string.data = some storage) (bytes : storage.bytes = counted ++ string.terminator)
    (length : counted.length = string.length.toNat) : string.Consistent := by
  refine ⟨?_, ?_, ?_⟩
  · intro absent
    rw [present] at absent
    contradiction
  · intro storage' present' flag
    obtain rfl : storage = storage' := Option.some.inj (present.symm.trans present')
    rw [terminator_of_true flag] at bytes
    rw [bytes, ← length]
    exact ⟨List.length_append, List.getElem?_concat_length⟩
  · intro storage' present' flag
    obtain rfl : storage = storage' := Option.some.inj (present.symm.trans present')
    rw [terminator_of_false flag] at bytes
    rw [bytes, ← length]
    exact congrArg List.length (List.append_nil counted)

private theorem eq_take_append_of_last {bytes : List UInt8} {count : Nat} {last : UInt8}
    (length : bytes.length = count + 1) (present : bytes[count]? = some last) :
    bytes = bytes.take count ++ [last] := by
  obtain ⟨inside, rfl⟩ := List.getElem?_eq_some_iff.mp present
  rw [List.take_append_getElem, List.take_of_length_le (Nat.le_of_eq length)]

/-- Conversely, what is stored is the counted bytes and the terminator. -/
theorem Consistent.stored_eq {string : ByteString} (consistent : string.Consistent) :
    string.stored = string.counted ++ string.terminator ∧
      string.counted.length = string.length.toNat := by
  unfold counted stored
  cases data : string.data with
  | none =>
    obtain ⟨length, flag⟩ := consistent.absent data
    simp [terminator, flag, length]
  | some storage =>
    cases flag : string.isNulTerminated with
    | true =>
      obtain ⟨length, last⟩ := consistent.terminated storage data flag
      rw [terminator_of_true flag]
      refine ⟨eq_take_append_of_last length last, ?_⟩
      exact List.length_take_of_le (by simp [length])
    | false =>
      have length := consistent.unterminated storage data flag
      simp [terminator, flag, ← length]

section Views

variable {string : ByteString}

/-- The view of the counted bytes is total. -/
theorem Consistent.bytes_eq (consistent : string.Consistent) : string.bytes = .ok string.counted := by
  obtain ⟨stored, length⟩ := consistent.stored_eq
  rw [bytes]
  cases data : string.data with
  | none => simp [counted, ByteString.stored, data]
  | some storage =>
    have whole : string.stored = storage.bytes := by rw [ByteString.stored, data]; rfl
    rw [whole] at stored
    have fits : string.length.toNat ≤ storage.bytes.length := by
      rw [stored, List.length_append, length]
      exact Nat.le_add_right _ _
    exact (window_of_le fits).trans (by rw [counted, whole])

/-- The view with the terminator is total, and shows the terminator if there is one. -/
theorem Consistent.bytesWithNul_eq (consistent : string.Consistent) :
    string.bytesWithNul =
      .ok (if string.isNulTerminated then some (string.counted ++ [0]) else none) := by
  obtain ⟨stored, length⟩ := consistent.stored_eq
  rw [bytesWithNul]
  cases data : string.data with
  | none => simp [(consistent.absent data).2]
  | some storage =>
    cases flag : string.isNulTerminated with
    | false => rfl
    | true =>
      have whole : string.stored = storage.bytes := by rw [ByteString.stored, data]; rfl
      rw [whole, terminator_of_true flag] at stored
      have all : storage.bytes.length = string.length.toNat + 1 := by
        rw [stored, List.length_append, length]
        rfl
      have view : window (string.length.toNat + 1) storage.bytes = .ok (string.counted ++ [0]) := by
        rw [window_of_le (Nat.le_of_eq all.symm), ← all, List.take_length, stored]
      simp only [view, if_true]
      rfl

end Views

theorem consistent_empty : empty.Consistent := by
  refine ⟨fun _ => ⟨rfl, Flags.empty_contains_nul⟩, ?_, ?_⟩
  · intro storage present
    contradiction
  · intro storage present
    contradiction

private theorem toNat_ofNat_of_le {count : Nat} (fits : count ≤ maxLength) :
    (UInt32.ofNat count).toNat = count := by
  rw [UInt32.toNat_ofNat']
  exact Nat.mod_eq_of_lt (Nat.lt_of_le_of_lt fits (by decide))

@[simp] theorem isNulTerminated_ofBytes (source : Nat) (bytes : List UInt8) :
    (ofBytes source bytes).isNulTerminated = false := Flags.empty_contains_nul

theorem consistent_ofBytes (source : Nat) (bytes : List UInt8) : (ofBytes source bytes).Consistent := by
  have whole : bytes.take maxLength = bytes.take maxLength ++ (ofBytes source bytes).terminator := by
    rw [terminator_of_false (isNulTerminated_ofBytes source bytes), List.append_nil]
  exact consistent_of_bytes rfl whole (toNat_ofNat_of_le (List.length_take_le _ _)).symm

theorem consistent_ofLiteral (source : Nat) (bytes : List UInt8) :
    (ofLiteral source bytes).Consistent := by
  rw [ofLiteral]
  split
  · rename_i fits
    have flag : (⟨some (.literal source (bytes ++ [0])), UInt32.ofNat bytes.length,
        Flags.nulTerminated⟩ : ByteString).isNulTerminated = true := Flags.nul_contains_nul
    refine consistent_of_bytes rfl ?_ (toNat_ofNat_of_le fits).symm
    rw [terminator_of_true flag]
    rfl
  · exact consistent_ofBytes source bytes

theorem consistent_of_ofText? {source : Nat} {bytes : List UInt8} {string : ByteString}
    (success : ofText? source bytes = .ok string) : string.Consistent := by
  unfold ofText? at success
  split at success
  · contradiction
  · cases success
    exact consistent_ofLiteral source bytes

theorem Consistent.aliasOf {string : ByteString} (consistent : string.Consistent) :
    string.aliasOf.Consistent := by
  refine ⟨?_, ?_, ?_⟩
  · intro absent
    exact consistent.absent (Option.map_eq_none_iff.mp absent)
  · intro shown present
    obtain ⟨storage, data, rfl⟩ := Option.map_eq_some_iff.mp present
    exact consistent.terminated storage data
  · intro shown present
    obtain ⟨storage, data, rfl⟩ := Option.map_eq_some_iff.mp present
    exact consistent.unterminated storage data

/-- The ways in which copying a consistent string can end. -/
inductive Copying (heap : Heap) (string : ByteString) : Reply (Except AllocationError ByteString) → Prop
  | nothing (zero : string.copySize = 0) : Copying heap string ⟨.ok ⟨none, 0, string.flags⟩, heap, []⟩
  | failed (positive : 0 < string.copySize) (cause : AllocationError) (events : List Event)
    (request : heap.tryAllocate string.copySize = ⟨.error cause, heap, events⟩) :
    Copying heap string
      ⟨.error cause, heap, .copying string.length.toNat string.isNulTerminated :: events⟩
  | copied (positive : 0 < string.copySize) (describable : string.copySize ≤ largestLayout)
    (grants : heap.refuses string.copySize = false) (buffer : Buffer)
    (block : buffer.block = some heap.next) (bytes : buffer.bytes = string.counted ++ string.terminator) :
    Copying heap string ⟨.ok ⟨some (.owned buffer), string.length, string.flags⟩,
      heap.adding string.copySize, [.copying string.length.toNat string.isNulTerminated]⟩

theorem Consistent.copying {string : ByteString} (consistent : string.Consistent) (heap : Heap) :
    Copying heap string (string.copy heap) := by
  rw [copy]
  split
  · rename_i zero
    exact .nothing zero
  · rename_i some
    have positive : 0 < string.copySize := Nat.pos_of_ne_zero some
    have ends := Heap.allocation_tryAllocate heap string.copySize
    generalize request : heap.tryAllocate string.copySize = reply at ends
    cases ends with
    | nothing zero => exact absurd zero some
    | indescribable _ _ => exact .failed positive _ _ request
    | refused _ _ _ => exact .failed positive _ _ request
    | granted _ describable grants buffer block bytes =>
      have fits : (string.counted ++ string.terminator).length = buffer.bytes.length := by
        rw [bytes, List.length_replicate, List.length_append, consistent.stored_eq.2, copySize_eq]
      obtain ⟨written, success, block', bytes'⟩ := Buffer.write?_whole fits
      simp only [terminator] at success bytes'
      simp only [success, Option.getD_some]
      exact .copied positive describable grants written (block'.trans block) bytes'

/-- Whatever a string counts, a copy of it can be described. -/
private theorem copySize_le_largestLayout (string : ByteString) : string.copySize ≤ largestLayout := by
  have room : UInt32.size ≤ largestLayout := by decide
  have counted : string.length.toNat < UInt32.size := string.length.toNat_lt
  have terminator : (if string.isNulTerminated then 1 else 0) ≤ 1 := by
    split <;> decide
  rw [copySize]
  omega

/-- A request for a copy fails only if it is refused. -/
theorem refuses_of_tryAllocate {heap after : Heap} {string : ByteString} {cause : AllocationError}
    {events : List Event} (request : heap.tryAllocate string.copySize = ⟨.error cause, after, events⟩) :
    heap.refuses string.copySize = true ∧ cause = .exhausted string.copySize ∧
      events = [.allocationFailed string.copySize] := by
  have ends := heap.allocation_tryAllocate string.copySize
  rw [request] at ends
  cases ends with
  | indescribable _ large => exact absurd string.copySize_le_largestLayout (Nat.not_le.mpr large)
  | refused _ _ refuses => exact ⟨refuses, rfl, rfl⟩

theorem Consistent.of_copy {heap : Heap} {string copied : ByteString} (consistent : string.Consistent)
    (success : (string.copy heap).value = .ok copied) : copied.Consistent := by
  have ends := consistent.copying heap
  generalize string.copy heap = reply at ends success
  cases ends with
  | nothing zero =>
    cases success
    refine ⟨fun _ => ⟨rfl, (string.copySize_eq_zero_iff.mp zero).2⟩, ?_, ?_⟩
    · intro storage present
      contradiction
    · intro storage present
      contradiction
  | failed => contradiction
  | copied _ _ _ buffer block bytes =>
    cases success
    exact consistent_of_bytes rfl bytes consistent.stored_eq.2

/-- Every way to make a string establishes the property, and every way to make one from another keeps it. -/
structure Hereditary (property : ByteString → Prop) : Prop where
  empty : property .empty
  text : ∀ {source : Nat} {bytes : List UInt8} {string : ByteString},
    ofText? source bytes = .ok string → property string
  bytes : ∀ (source : Nat) (bytes : List UInt8), property (ofBytes source bytes)
  aliasOf : ∀ {string : ByteString}, property string → property string.aliasOf
  copy : ∀ {heap : Heap} {string copied : ByteString}, property string →
    (string.copy heap).value = .ok copied → property copied

theorem hereditary_consistent : Hereditary Consistent :=
  ⟨consistent_empty, consistent_of_ofText?, consistent_ofBytes, .aliasOf, .of_copy⟩

end ByteString

end OwnedText
