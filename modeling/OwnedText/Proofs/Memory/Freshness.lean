import OwnedText.Proofs.Memory.Renewal

/-! # No byte outlives its place

A buffer is followed from the request that made it through every change of its length, through every move
from slot to slot, and through every store, while anything may happen in other slots and in bundles. Its
history lists the moments that matter to its bytes, the latest first. A byte is the value stored last at
its index since the buffer was last too short to have that index. What was cut off is gone for good, and
a place to which nothing was ever stored shows zero.
-/

namespace OwnedText

/-- A moment in the history of a buffer: how long the buffer was, and what was stored from which index
on. -/
structure Moment where
  length : Nat
  offset : Nat
  content : List UInt8
deriving DecidableEq, Repr

namespace Moment

/-- The buffer got a length, and nothing was stored. -/
def ofLength (length : Nat) : Moment := ⟨length, 0, []⟩

/-- What was stored at an index, if anything. -/
def storedAt (moment : Moment) (index : Nat) : Option UInt8 :=
  if moment.offset ≤ index then moment.content[index - moment.offset]? else none

/-- The value stored last at an index since the length was last at most that index; zero if there was
none. -/
def lastStored (history : List Moment) (index : Nat) : UInt8 :=
  ((history.takeWhile fun moment => decide (index < moment.length)).findSome?
    (·.storedAt index)).getD 0

@[simp] theorem storedAt_ofLength (length index : Nat) : (ofLength length).storedAt index = none := by
  simp [ofLength, storedAt]

private theorem storedAt_of_le (moment : Moment) {index : Nat}
    (behind : moment.offset + moment.content.length ≤ index) : moment.storedAt index = none := by
  rw [storedAt, List.getElem?_eq_none (by omega)]
  exact ite_self _

theorem lastStored_cons (moment : Moment) (history : List Moment) (index : Nat) :
    lastStored (moment :: history) index =
      if index < moment.length then (moment.storedAt index).getD (lastStored history index) else 0 := by
  unfold lastStored
  by_cases inside : index < moment.length
  · rw [List.takeWhile_cons_of_pos (by simpa using inside), List.findSome?_cons, if_pos inside]
    cases moment.storedAt index <;> rfl
  · rw [List.takeWhile_cons_of_neg (by simpa using inside), if_neg inside]
    rfl

/-- Without a store since the length was at most the index, or since the beginning, there is zero. -/
theorem lastStored_eq_zero {recent old : List Moment} {index : Nat}
    (short : ∀ moment, old.head? = some moment → moment.length ≤ index)
    (untouched : ∀ moment ∈ recent, moment.storedAt index = none) :
    lastStored (recent ++ old) index = 0 := by
  induction recent with
  | nil =>
    cases old with
    | nil => rfl
    | cons moment older =>
      rw [List.nil_append, lastStored_cons, if_neg (Nat.not_lt.mpr (short moment rfl))]
  | cons moment recent ih =>
    have rest := ih fun other member => untouched other (List.mem_cons_of_mem _ member)
    rw [List.cons_append, lastStored_cons, untouched moment List.mem_cons_self, rest]
    exact ite_self _

end Moment

/-- A change of size keeps the bytes in front and puts zeros behind them. -/
private theorem Heap.getD_resizedBytes (bytes : List UInt8) (size index : Nat) :
    (resizedBytes bytes size)[index]?.getD 0 = if index < size then bytes[index]?.getD 0 else 0 := by
  rcases Nat.lt_or_ge index size with inside | outside
  · rw [if_pos inside, resizedBytes, List.getElem?_append, List.length_take, List.getElem?_take_of_lt inside]
    rcases Nat.lt_or_ge index bytes.length with before | behind
    · rw [if_pos (by omega)]
    · rw [if_neg (by omega), List.getElem?_replicate_of_lt (by omega), List.getElem?_eq_none behind]
      rfl
  · rw [if_neg (Nat.not_lt.mpr outside), List.getElem?_eq_none (by simpa using outside)]
    rfl

/-- A store replaces the bytes at its place and no others. -/
private theorem Buffer.getD_splice {bytes : List UInt8} {moment : Moment}
    (inside : moment.offset + moment.content.length ≤ bytes.length) (index : Nat) :
    (splice bytes moment.offset moment.content)[index]?.getD 0 =
      (moment.storedAt index).getD (bytes[index]?.getD 0) := by
  have front : (bytes.take moment.offset).length = moment.offset := List.length_take_of_le (by omega)
  rw [splice, List.append_assoc, List.getElem?_append, front, Moment.storedAt]
  rcases Nat.lt_or_ge index moment.offset with before | behind
  · rw [if_pos before, if_neg (Nat.not_le.mpr before), List.getElem?_take_of_lt before]
    rfl
  · rw [if_neg (Nat.not_lt.mpr behind), if_pos behind, List.getElem?_append]
    split
    · rename_i among
      rw [List.getElem?_eq_getElem among]
      rfl
    · rename_i after
      have place : moment.offset + moment.content.length + (index - moment.offset - moment.content.length) =
        index := by omega
      rw [List.getElem?_drop, place, List.getElem?_eq_none (Nat.not_lt.mp after)]
      rfl

namespace Buffer

open Moment (lastStored)

/-- What filling stores from the start on. -/
def pattern (length seed : Nat) : List UInt8 := (List.range length).map fun index => UInt8.ofNat (seed + index)

@[simp] theorem length_pattern (length seed : Nat) : (pattern length seed).length = length := by
  rw [pattern, List.length_map, List.length_range]

private theorem bytes_fill (buffer : Buffer) (seed : Nat) :
    (buffer.fill seed).bytes = splice buffer.bytes 0 (pattern buffer.length seed) := by
  have nothing : buffer.bytes.drop (0 + (pattern buffer.length seed).length) = [] := by
    simp [length]
  rw [splice, nothing, List.append_nil]
  refine List.ext_getElem (by simp [fill, withBytes, pattern, length]) ?_
  intro index _ _
  simp [fill, withBytes, pattern]

/-- A buffer has the length of the latest moment, and all bytes are those that the history calls for,
zeros behind the end. -/
structure Agrees (buffer : Buffer) (history : List Moment) : Prop where
  length : history.head?.map Moment.length = some buffer.length
  bytes : ∀ index, buffer.bytes[index]?.getD 0 = lastStored history index

private theorem agrees_zeros {buffer : Buffer} {size : Nat} (zeros : buffer.bytes = List.replicate size 0) :
    buffer.Agrees [.ofLength size] where
  length := by
    simp [Buffer.length, zeros, Moment.ofLength]
  bytes index := by
    have nothing : lastStored ([.ofLength size] ++ []) index = 0 :=
      Moment.lastStored_eq_zero (by simp) fun _ member =>
        List.mem_singleton.mp member ▸ Moment.storedAt_ofLength size index
    rw [List.append_nil] at nothing
    rw [zeros, nothing, List.getElem?_replicate]
    split <;> rfl

namespace Agrees

variable {buffer : Buffer} {history : List Moment}

theorem resized {after : Buffer} {size : Nat} (agrees : buffer.Agrees history)
    (bytes : after.bytes = Heap.resizedBytes buffer.bytes size) :
    after.Agrees (.ofLength size :: history) where
  length := by
    simp [Buffer.length, bytes, Moment.ofLength]
  bytes index := by
    rw [bytes, Heap.getD_resizedBytes, agrees.bytes, Moment.lastStored_cons, Moment.storedAt_ofLength]
    rfl

theorem stored {written : Buffer} {moment : Moment} (agrees : buffer.Agrees history)
    (length : moment.length = buffer.length)
    (inside : moment.offset + moment.content.length ≤ buffer.bytes.length)
    (bytes : written.bytes = splice buffer.bytes moment.offset moment.content) :
    written.Agrees (moment :: history) where
  length := by
    rw [Buffer.length, bytes, length_splice inside]
    exact congrArg some length
  bytes index := by
    rw [bytes, getD_splice inside, agrees.bytes, Moment.lastStored_cons]
    split
    · rfl
    · rename_i outside
      rw [length, Buffer.length] at outside
      have behind : lastStored history index = 0 := by
        rw [← agrees.bytes, List.getElem?_eq_none (Nat.le_of_not_lt outside)]
        rfl
      rw [moment.storedAt_of_le (by omega), behind]
      rfl

end Agrees

end Buffer

namespace Workbench

variable {α : Type} {element : Element α} {bench : Workbench element}

/-- The buffer in a slot has this history. -/
inductive Lives : Workbench element → Nat → List Moment → Prop
  | allocated (bench : Workbench element) (slot size : Nat) (present : slot < bench.slots.length)
    (success : (bench.step (.allocate slot size)).response = .present true) :
    Lives (bench.step (.allocate slot size)).bench slot [.ofLength size]
  | resized {bench : Workbench element} {slot : Nat} {history : List Moment}
    (lives : Lives bench slot history) (target size : Nat) (present : target < bench.slots.length)
    (success : (bench.step (.resize slot target size)).response = .resized true true) :
    Lives (bench.step (.resize slot target size)).bench target (.ofLength size :: history)
  | taken {bench : Workbench element} {slot : Nat} {history : List Moment}
    (lives : Lives bench slot history) (target : Nat) (present : target < bench.slots.length) :
    Lives (bench.step (.take slot target)).bench target history
  | stored {bench : Workbench element} {slot : Nat} {history : List Moment}
    (lives : Lives bench slot history) (offset : Nat) (content : List UInt8)
    (success : (bench.step (.write slot offset content)).response = .written true) :
    Lives (bench.step (.write slot offset content)).bench slot
      (⟨(Buffer.contents (bench.slot slot)).length, offset, content⟩ :: history)
  | filled {bench : Workbench element} {slot : Nat} {history : List Moment}
    (lives : Lives bench slot history) (seed : Nat) :
    Lives (bench.step (.fill slot seed)).bench slot
      (⟨(Buffer.contents (bench.slot slot)).length, 0,
        Buffer.pattern (Buffer.contents (bench.slot slot)).length seed⟩ :: history)
  | elsewhere {bench : Workbench element} {slot : Nat} {history : List Moment}
    (lives : Lives bench slot history) (action : Action α) (unnamed : slot ∉ action.slots) :
    Lives (bench.step action).bench slot history
  | repolicy {bench : Workbench element} {slot : Nat} {history : List Moment}
    (lives : Lives bench slot history) (refuses : Nat → Bool) :
    Lives (bench.withPolicy refuses) slot history
  | dirty {bench : Workbench element} {slot : Nat} {history : List Moment}
    (lives : Lives bench slot history) (stale : Nat → UInt8) :
    Lives (bench.withStale stale) slot history

section Steps

variable {slot : Nat} {buffer : Buffer}

private theorem exists_of_allocate {size : Nat} (present : slot < bench.slots.length)
    (success : (bench.step (.allocate slot size)).response = .present true) :
    ∃ buffer, (bench.step (.allocate slot size)).bench.slot slot = some buffer ∧
      buffer.bytes = List.replicate size 0 := by
  obtain ⟨buffer, value⟩ := Option.isSome_iff_exists.mp (Response.present.inj success)
  have bytes := Heap.bytes_allocate bench.heap size
  rw [value] at bytes
  split at bytes
  · refine ⟨buffer, ?_, Option.some.inj bytes⟩
    simp [step, present, value]
  · contradiction

private theorem exists_of_resize {target size : Nat} (present : target < bench.slots.length)
    (success : (bench.step (.resize slot target size)).response = .resized true true) :
    ∃ buffer, (bench.step (.resize slot target size)).bench.slot target = some buffer ∧
      buffer.bytes = Heap.resizedBytes (Buffer.contents (bench.slot slot)) size := by
  obtain ⟨buffer, value⟩ := Option.isSome_iff_exists.mp (Response.resized.inj success).1
  exact ⟨buffer, (slot_step_resize present size).trans value, Heap.bytes_of_resize value⟩

private theorem slot_step_take {target : Nat} (present : target < bench.slots.length) :
    (bench.step (.take slot target)).bench.slot target = bench.slot slot := by
  simp [step, OwnedText.take, present]

private theorem exists_of_write {offset : Nat} {content : List UInt8} (held : bench.slot slot = some buffer)
    (success : (bench.step (.write slot offset content)).response = .written true) :
    ∃ written, (bench.step (.write slot offset content)).bench.slot slot = some written ∧
      offset + content.length ≤ buffer.bytes.length ∧
        written.bytes = Buffer.splice buffer.bytes offset content := by
  by_cases inside : offset + content.length ≤ buffer.bytes.length
  · have goes : buffer.write? offset content = some (buffer.withBytes _ (Buffer.length_splice inside)) :=
      dif_pos inside
    rw [step_write_of_some held goes]
    exact ⟨_, bench.slot_setSlot_self _ (lt_length_of_slot held), inside, rfl⟩
  · have stays : buffer.write? offset content = none := dif_neg inside
    simp only [step, held, stays] at success
    contradiction

private theorem slot_step_fill (held : bench.slot slot = some buffer) (seed : Nat) :
    (bench.step (.fill slot seed)).bench.slot slot = some (buffer.fill seed) := by
  simp [step, held, lt_length_of_slot held]

end Steps

/-- Every step of a life keeps the buffer in agreement with its history. -/
theorem Lives.agrees {slot : Nat} {history : List Moment} (lives : Lives bench slot history) :
    ∃ buffer, bench.slot slot = some buffer ∧ buffer.Agrees history := by
  induction lives with
  | allocated _ _ _ present success =>
    obtain ⟨buffer, held, zeros⟩ := exists_of_allocate present success
    exact ⟨buffer, held, Buffer.agrees_zeros zeros⟩
  | resized _ _ _ present success ih =>
    obtain ⟨buffer, held, agrees⟩ := ih
    obtain ⟨after, held', bytes⟩ := exists_of_resize present success
    rw [held] at bytes
    exact ⟨after, held', agrees.resized bytes⟩
  | taken _ _ present ih =>
    obtain ⟨buffer, held, agrees⟩ := ih
    exact ⟨buffer, (slot_step_take present).trans held, agrees⟩
  | stored _ _ _ success ih =>
    obtain ⟨buffer, held, agrees⟩ := ih
    obtain ⟨written, held', inside, bytes⟩ := exists_of_write held success
    rw [held]
    exact ⟨written, held', agrees.stored rfl inside bytes⟩
  | filled _ seed ih =>
    obtain ⟨buffer, held, agrees⟩ := ih
    rw [held]
    refine ⟨_, slot_step_fill held seed, agrees.stored rfl ?_ (buffer.bytes_fill seed)⟩
    simp [Buffer.contents]
  | elsewhere _ _ unnamed ih =>
    obtain ⟨buffer, held, agrees⟩ := ih
    exact ⟨buffer, (slot_step_of_notMem _ unnamed).trans held, agrees⟩
  | repolicy _ refuses ih => exact ih
  | dirty _ stale ih => exact ih

/-- Byte by byte, a buffer holds what its history calls for. Where nothing was stored since the length was
last at most an index, or ever, it holds zero. -/
structure Fresh (buffer : Buffer) (history : List Moment) : Prop where
  length : history.head?.map Moment.length = some buffer.length
  bytes : ∀ index, index < buffer.length →
    buffer.bytes[index]? = some (Moment.lastStored history index)
  zero : ∀ recent old index, history = recent ++ old → index < buffer.length →
    (∀ moment, old.head? = some moment → moment.length ≤ index) →
    (∀ moment ∈ recent, moment.storedAt index = none) → buffer.bytes[index]? = some 0

/-- A buffer that is followed from its making on is there, and each of its bytes was stored last at its index
since the index last came into being, or is zero. -/
theorem fresh_of_lives {slot : Nat} {history : List Moment} (lives : Lives bench slot history) :
    ∃ buffer, bench.slot slot = some buffer ∧ Fresh buffer history := by
  obtain ⟨buffer, held, agrees⟩ := lives.agrees
  have bytes (index : Nat) (inside : index < buffer.length) :
      buffer.bytes[index]? = some (Moment.lastStored history index) := by
    rw [← agrees.bytes index, List.getElem?_eq_getElem inside]
    rfl
  refine ⟨buffer, held, agrees.length, bytes, ?_⟩
  rintro recent old index rfl inside short untouched
  rw [bytes index inside, Moment.lastStored_eq_zero short untouched]

/-- What a shrinking buffer lost does not come back when it grows again: there is zero until the next store. -/
theorem fresh_of_regrowth :
    ∃ bench : Workbench (Element.unsigned 4),
      bench = (empty 3 1).run [.allocate 0 4, .fill 0 7, .resize 0 1 2, .allocate 2 8, .resize 1 1 4,
        .write 1 3 [9], .take 1 0] ∧
      Lives bench 0 [⟨4, 3, [9]⟩, .ofLength 4, .ofLength 2, ⟨4, 0, [7, 8, 9, 10]⟩, .ofLength 4] ∧
      Buffer.contents (bench.slot 0) = [7, 8, 0, 9] ∧
      ∃ buffer, bench.slot 0 = some buffer ∧
        Fresh buffer [⟨4, 3, [9]⟩, .ofLength 4, .ofLength 2, ⟨4, 0, [7, 8, 9, 10]⟩, .ofLength 4] := by
  have allocated := Lives.allocated (empty 3 1 : Workbench (Element.unsigned 4)) 0 4
    (by decide) (by decide +kernel)
  have shrunk := (allocated.filled 7).resized 1 2 (by decide +kernel) (by decide +kernel)
  have elsewhere := shrunk.elsewhere (.allocate 2 8) (by decide)
  have grown := elsewhere.resized 1 4 (by decide +kernel) (by decide +kernel)
  have lives := (grown.stored 3 [9] (by decide +kernel)).taken 0 (by decide +kernel)
  exact ⟨_, rfl, lives, by decide +kernel, fresh_of_lives lives⟩

end Workbench

end OwnedText
