import OwnedText.Proofs.ByteString.Provenance
import OwnedText.Proofs.Command.Delivery
import OwnedText.Proofs.Text.Escape

/-! # What a run shows that copies a text

Copying a text ends in one of three ways. The text is turned away if it is to be terminated and has a
zero byte in it, the heap refuses the one block that the copy needs, or the copy is described in one
line and given back. The description never has an opening parenthesis in it, so the last place on the
line where the words in front of it stand is the place where the text ends, whatever the text says.
-/

namespace OwnedText

namespace Utf8

/-- The text that bytes encode, if they encode any. -/
def decode? (bytes : List UInt8) : Option (List Char) := bytes.toByteArray.utf8Decode?.map Array.toList

theorem decode?_encode (text : List Char) : decode? (encode text) = some text :=
  congrArg (Option.map Array.toList) List.utf8Decode?_utf8Encode

end Utf8

section CutLast

/-- What is in front of the last place where a separator stands, and what is behind it. -/
def cutLast? (separator : List Char) : List Char → Option (List Char × List Char)
  | [] => none
  | c :: rest =>
    match cutLast? separator rest with
    | some (front, back) => some (c :: front, back)
    | none =>
      if separator <+: c :: rest then some ([], (c :: rest).drop separator.length) else none

variable {mark : Char}

/-- A separator does not stand where one of its characters is missing. -/
private theorem cutLast?_eq_none {separator text : List Char} (member : mark ∈ separator)
    (absent : mark ∉ text) :
    cutLast? separator text = none := by
  induction text with
  | nil => rfl
  | cons c rest ih =>
    have later : mark ∉ rest := fun inside => absent (List.mem_cons_of_mem _ inside)
    rw [cutLast?, ih later]
    exact if_neg fun stands => absent (stands.subset member)

/-- A text is cut behind its front if the second character of the separator comes only once behind it. -/
private theorem cutLast?_append {first : Char} {middle back : List Char} (front : List Char)
    (absent : mark ∉ middle ++ back) :
    cutLast? (first :: mark :: middle) (front ++ (first :: mark :: middle) ++ back) = some (front, back) := by
  -- One character further the separator cannot stand again: the mark would have to come once more.
  have none : cutLast? (first :: mark :: middle) (mark :: (middle ++ back)) = none := by
    rw [cutLast?, cutLast?_eq_none (List.mem_cons_of_mem _ List.mem_cons_self) absent]
    refine if_neg fun stands => absent ?_
    exact (List.cons_prefix_cons.mp stands).2.subset List.mem_cons_self
  induction front with
  | nil =>
    simp only [List.nil_append, List.cons_append]
    rw [cutLast?, none]
    have stands : first :: mark :: middle <+: first :: mark :: (middle ++ back) :=
      List.prefix_append (first :: mark :: middle) back
    have behind : (first :: mark :: (middle ++ back)).drop (first :: mark :: middle).length = back :=
      List.drop_left
    rw [if_pos stands, behind]
  | cons c front ih =>
    simp only [List.cons_append] at ih ⊢
    rw [cutLast?, ih]

end CutLast

/-- How many bytes a copy of a text needs. -/
def copyRequest (text : List Char) (nulTerminated : Bool) : Nat :=
  (Utf8.encode text).length + if nulTerminated then 1 else 0

/-- What is said about the copy of a text: its length, who owns it, and whether it is terminated. -/
def copyDescription (text : List Char) (nulTerminated : Bool) : List Char :=
  Digits.ofNat (Utf8.encode text).length ++ ", ".toList ++
    (if copyRequest text nulTerminated = 0 then "Empty".toList else "Owned".toList) ++
      ", nul-terminated: ".toList ++ (if nulTerminated then "true".toList else "false".toList) ++ ")".toList

/-- The line for the copy of a text, without the line feed at its end. -/
def copyRow (text : List Char) (nulTerminated : Bool) : List Char :=
  Escape.ofBytes (Utf8.encode text) ++ " (len ".toList ++ copyDescription text nulTerminated

/-- What a description says about termination. -/
def readFlag? (description : List Char) : Option Bool :=
  if "true)".toList <:+ description then some true
  else if "false)".toList <:+ description then some false
  else none

/-- The text and the flag that a line shows. The text ends where the words in front of the length stand
for the last time. -/
def readCopy? (row : List Char) : Option (List Char × Bool) := do
  let (written, description) ← cutLast? " (len ".toList row
  let bytes ← Escape.bytes? written
  let text ← Utf8.decode? bytes
  let flag ← readFlag? description
  some (text, flag)

section Rows

open Escape (Printable isPrintable)

variable (text : List Char) (nulTerminated : Bool)

private theorem parenthesis_notMem_copyDescription : '(' ∉ copyDescription text nulTerminated := by
  have digits : '(' ∉ Digits.ofNat (Utf8.encode text).length := by
    intro member
    have digit := Digits.isDigit_of_mem_ofNat member
    contradiction
  have owner : '(' ∉ if copyRequest text nulTerminated = 0 then "Empty".toList else "Owned".toList := by
    split <;> decide
  have flag : '(' ∉ if nulTerminated then "true".toList else "false".toList := by
    split <;> decide
  simp only [copyDescription, List.mem_append, not_or]
  exact ⟨⟨⟨⟨⟨digits, by decide⟩, owner⟩, by decide⟩, flag⟩, by decide⟩

private theorem readFlag?_copyDescription :
    readFlag? (copyDescription text nulTerminated) = some nulTerminated := by
  rw [copyDescription, List.append_assoc, readFlag?]
  cases nulTerminated with
  | true =>
    have last : "true".toList ++ ")".toList = "true)".toList := by decide
    rw [if_pos rfl, last, if_pos (List.suffix_append _ _)]
  | false =>
    have last : "false".toList ++ ")".toList = "false)".toList := by decide
    have other : ¬"true)".toList <:+ "false)".toList := by decide
    rw [if_neg Bool.false_ne_true, last, if_neg, if_pos (List.suffix_append _ _)]
    intro stands
    exact other (List.suffix_of_suffix_length_le stands (List.suffix_append _ _) (by decide))

private theorem printable_copyRow : Printable (copyRow text nulTerminated) := by
  have owner : Printable (if copyRequest text nulTerminated = 0 then "Empty".toList else "Owned".toList) := by
    split <;> simp [Printable, isPrintable]
  have flag : Printable (if nulTerminated then "true".toList else "false".toList) := by
    split <;> simp [Printable, isPrintable]
  have number := Escape.printable_ofNat (Utf8.encode text).length
  have between : Printable ", ".toList := by simp [Printable, isPrintable]
  have before : Printable ", nul-terminated: ".toList := by simp [Printable, isPrintable]
  have closing : Printable ")".toList := by simp [Printable, isPrintable]
  have opening : Printable " (len ".toList := by simp [Printable, isPrintable]
  have described := ((((number.append between).append owner).append before).append flag).append closing
  exact ((Escape.printable_ofBytes (Utf8.encode text)).append opening).append described

/-- The text ends where the words in front of its length stand for the last time. -/
theorem cutLast?_copyRow : cutLast? " (len ".toList (copyRow text nulTerminated) =
    some (Escape.ofBytes (Utf8.encode text), copyDescription text nulTerminated) := by
  have apart : '(' ∉ "len ".toList ++ copyDescription text nulTerminated := by
    rw [List.mem_append, not_or]
    exact ⟨by decide, parenthesis_notMem_copyDescription text nulTerminated⟩
  have separator : " (len ".toList = ' ' :: '(' :: "len ".toList := by decide
  rw [copyRow, separator]
  exact cutLast?_append _ apart

/-- The line for a copy reads back to the text and the flag. -/
theorem readCopy?_copyRow : readCopy? (copyRow text nulTerminated) = some (text, nulTerminated) := by
  simp only [readCopy?, cutLast?_copyRow, Escape.bytes?_ofBytes, Utf8.decode?_encode,
    readFlag?_copyDescription, Option.bind_eq_bind, Option.bind_some]

/-- Different copies are described in different lines. -/
theorem copyRow_injective {text other : List Char} {nulTerminated flag : Bool}
    (same : copyRow other flag = copyRow text nulTerminated) : other = text ∧ flag = nulTerminated := by
  have read := readCopy?_copyRow other flag
  rw [same, readCopy?_copyRow text nulTerminated] at read
  exact (Prod.mk.inj (Option.some.inj read)).imp Eq.symm Eq.symm

end Rows

/-- A string shows bytes, with a terminator or without. -/
structure ByteString.Showing (string : ByteString) (bytes : List UInt8) (nulTerminated : Bool) : Prop
    extends string.Consistent where
  counted : string.counted = bytes
  flag : string.isNulTerminated = nulTerminated

namespace ByteString.Showing

variable {string : ByteString} {bytes : List UInt8} {nulTerminated : Bool}

theorem length (showing : string.Showing bytes nulTerminated) : string.length.toNat = bytes.length := by
  rw [← showing.stored_eq.2, showing.counted]

theorem alike {other : ByteString} (showing : string.Showing bytes nulTerminated)
    (alike : string.Alike other) (consistent : other.Consistent) : other.Showing bytes nulTerminated where
  toConsistent := consistent
  counted := alike.counted.trans showing.counted
  flag := by rw [isNulTerminated, alike.flags, ← showing.flag, isNulTerminated]

end ByteString.Showing

namespace Execution

variable {text : List Char} {nulTerminated : Bool}

/-- A text is turned away if it is to be terminated and has a zero byte in it; else it is shown whole. -/
private theorem shownAs_cases (fits : (Utf8.encode text).length < UInt32.size - 1) :
    ((nulTerminated = true ∧ 0 ∈ Utf8.encode text) ∧ ∃ cause, shownAs text nulTerminated = .error cause) ∨
      (¬(nulTerminated = true ∧ 0 ∈ Utf8.encode text) ∧ ∃ source,
        shownAs text nulTerminated = .ok source ∧ source.Showing (Utf8.encode text) nulTerminated) := by
  have below : (Utf8.encode text).length ≤ ByteString.maxLength := Nat.le_of_lt fits
  have number : (UInt32.ofNat (Utf8.encode text).length).toNat = (Utf8.encode text).length :=
    UInt32.toNat_ofNat_of_lt' (Nat.lt_of_lt_of_le fits (Nat.sub_le ..))
  cases nulTerminated with
  | true =>
    rw [shownAs, if_pos rfl]
    by_cases zero : 0 ∈ Utf8.encode text
    · obtain ⟨position, found⟩ : ∃ position, (Utf8.encode text).findIdx? (· == 0) = some position := by
        rw [← Option.isSome_iff_exists, List.findIdx?_isSome, List.any_eq_true]
        exact ⟨0, zero, rfl⟩
      refine .inl ⟨⟨rfl, zero⟩, ⟨position⟩, ?_⟩
      rw [ByteString.ofText?, found]
    · have found : (Utf8.encode text).findIdx? (· == 0) = none := by
        rw [List.findIdx?_eq_none_iff]
        exact fun byte member => beq_false_of_ne fun same => zero (same ▸ member)
      have success : ByteString.ofText? 0 (Utf8.encode text) = .ok (.ofLiteral 0 (Utf8.encode text)) := by
        rw [ByteString.ofText?, found]
      refine .inr ⟨fun both => zero both.2, _, success, ByteString.consistent_ofLiteral _ _, ?_, ?_⟩
      · rw [ByteString.ofLiteral, if_pos below, ByteString.counted, number]
        exact List.take_left
      · rw [ByteString.ofLiteral, if_pos below]
        exact Flags.nul_contains_nul
  | false =>
    have whole : (Utf8.encode text).take ByteString.maxLength = Utf8.encode text :=
      List.take_of_length_le below
    rw [shownAs, if_neg Bool.false_ne_true]
    refine .inr ⟨fun both => Bool.false_ne_true both.1, _, rfl, ByteString.consistent_ofBytes _ _, ?_, ?_⟩
    · simp only [ByteString.ofBytes, ByteString.counted, whole, number]
      exact List.take_length
    · exact ByteString.isNulTerminated_ofBytes 0 (Utf8.encode text)

theorem copyLine_eq {copied : ByteString} (showing : copied.Showing (Utf8.encode text) nulTerminated)
    (owner : copied.ownership.name.toList =
      if copyRequest text nulTerminated = 0 then "Empty".toList else "Owned".toList) :
    copyLine copied = copyRow text nulTerminated ++ ['\n'] := by
  have closing : ")\n".toList = ")".toList ++ ['\n'] := by decide
  rw [copyLine, showing.counted, showing.length, showing.flag, owner, closing, copyRow, copyDescription]
  simp only [List.append_assoc]

/-- The ways in which a run that copies a text can end. A copy that was described has been given back. -/
inductive Ends (heap : Heap) (text : List Char) (nulTerminated : Bool) : Execution → Prop
  | rejected (terminated : nulTerminated = true) (zero : 0 ∈ Utf8.encode text) (cause : InteriorNul) :
    Ends heap text nulTerminated ⟨[], some (.interiorNul cause), heap⟩
  | refused (clean : ¬(nulTerminated = true ∧ 0 ∈ Utf8.encode text))
    (positive : 0 < copyRequest text nulTerminated)
    (refuses : heap.refuses (copyRequest text nulTerminated) = true) :
    Ends heap text nulTerminated
      ⟨[.record (.copying (Utf8.encode text).length nulTerminated),
        .record (.allocationFailed (copyRequest text nulTerminated))],
        some (.allocation (.exhausted (copyRequest text nulTerminated))), heap⟩
  | copied (clean : ¬(nulTerminated = true ∧ 0 ∈ Utf8.encode text))
    (grants : 0 < copyRequest text nulTerminated → heap.refuses (copyRequest text nulTerminated) = false)
    (events : List Event) (after : Heap) (live : after.live = heap.live) (faults : after.faults = heap.faults) :
    Ends heap text nulTerminated
      ⟨events.map .record ++ [.write (copyRow text nulTerminated ++ ['\n'])], none, after⟩

theorem ends_ofCopy (fits : (Utf8.encode text).length < UInt32.size - 1) (heap : Heap) :
    Ends heap text nulTerminated (ofCopy heap text nulTerminated) := by
  obtain ⟨⟨terminated, zero⟩, cause, failure⟩ | ⟨clean, source, success, showing⟩ := shownAs_cases fits
  · rw [ofCopy, failure]
    exact .rejected terminated zero cause
  have size : source.copySize = copyRequest text nulTerminated := by
    rw [ByteString.copySize, showing.length, showing.flag, copyRequest]
  have shows (copied : ByteString) (made : (source.copy heap).value = .ok copied) :
      copied.Showing (Utf8.encode text) nulTerminated :=
    showing.alike (showing.alike_copy made) (showing.of_copy made)
  simp only [ofCopy, success]
  have ends := showing.copying heap
  generalize source.copy heap = reply at ends shows ⊢
  cases ends with
  | nothing zero =>
    rw [size] at zero
    have line := copyLine_eq (shows _ rfl) (if_pos zero).symm
    simp only [line]
    exact .copied clean (fun positive => absurd zero positive.ne') [.copied _ _] heap rfl rfl
  | failed positive cause events request =>
    obtain ⟨refuses, rfl, rfl⟩ := ByteString.refuses_of_tryAllocate request
    rw [size] at positive refuses
    rw [size, showing.length, showing.flag]
    exact .refused clean positive refuses
  | copied positive describable grants buffer block bytes =>
    rw [size] at positive grants
    obtain ⟨live, faults⟩ := heap.discard_adding source.copySize
    have line := copyLine_eq (shows _ rfl) (if_neg positive.ne').symm
    simp only [line, ByteString.release, Heap.drop, block]
    exact .copied clean (fun _ => grants) [.copying _ _, .copied _ _] _ live faults

end Execution

/-- What a run shows that copies a text with an output that has room for everything. It fails exactly if
the text cannot be terminated or the heap refuses what the copy needs; then nothing is written, and no copy
is recorded. Else it writes one printable line, from which the text and the flag can be read. The heap is
left with the blocks that it had. -/
structure ReportsCopy (heap : Heap) (text : List Char) (nulTerminated : Bool) (outcome : Outcome) : Prop where
  fails_iff : outcome.failure ≠ none ↔
    nulTerminated = true ∧ 0 ∈ Utf8.encode text ∨
      0 < copyRequest text nulTerminated ∧ heap.refuses (copyRequest text nulTerminated) = true
  causes : ∀ failure, outcome.failure = some failure →
    (nulTerminated = true ∧ 0 ∈ Utf8.encode text) ∧ (∃ cause, failure = .interiorNul cause) ∨
      ¬(nulTerminated = true ∧ 0 ∈ Utf8.encode text) ∧
        failure = .allocation (.exhausted (copyRequest text nulTerminated)) ∧
          failure.messages = [s!"copying {copyRequest text nulTerminated} bytes into an owned string",
            s!"heap exhausted: could not allocate {copyRequest text nulTerminated} bytes"]
  silent : outcome.failure ≠ none →
    outcome.output = [] ∧ ∀ length flags, .copied length flags ∉ outcome.events
  shows : outcome.failure = none → outcome.output = copyRow text nulTerminated ++ ['\n']
  printable : Escape.Printable (copyRow text nulTerminated)
  cut : cutLast? " (len ".toList (copyRow text nulTerminated) =
    some (Escape.ofBytes (Utf8.encode text), copyDescription text nulTerminated)
  reads : readCopy? (copyRow text nulTerminated) = some (text, nulTerminated)
  apart : outcome.failure = none → ∀ (heap : Heap) (other : List Char) (flag : Bool),
    (Utf8.encode other).length < UInt32.size - 1 →
      ((Command.copy other flag).execute heap none).failure = none →
        ((Command.copy other flag).execute heap none).output = outcome.output →
          other = text ∧ flag = nulTerminated
  returned : outcome.heap.live = heap.live ∧ outcome.heap.faults = heap.faults

section Outcomes

variable {text : List Char} {nulTerminated : Bool} {heap : Heap}

theorem output_execute_copy (fits : (Utf8.encode text).length < UInt32.size - 1)
    (succeeds : ((Command.copy text nulTerminated).execute heap none).failure = none) :
    ((Command.copy text nulTerminated).execute heap none).output = copyRow text nulTerminated ++ ['\n'] := by
  have ends : Execution.Ends heap text nulTerminated (.ofCopy heap text nulTerminated) :=
    Execution.ends_ofCopy fits heap
  rw [Command.execute_none, Execution.ofCommand] at succeeds ⊢
  generalize Execution.ofCopy heap text nulTerminated = execution at ends succeeds ⊢
  cases ends with
  | rejected => contradiction
  | refused => contradiction
  | copied clean grants events =>
    simp [List.flatMap_map, Effect.text]

/-- Runs that succeed with the same output copied the same. -/
theorem eq_of_output_execute_copy (fits : (Utf8.encode text).length < UInt32.size - 1)
    (succeeds : ((Command.copy text nulTerminated).execute heap none).failure = none) (heap' : Heap)
    (other : List Char) (flag : Bool) (fits' : (Utf8.encode other).length < UInt32.size - 1)
    (succeeds' : ((Command.copy other flag).execute heap' none).failure = none)
    (same : ((Command.copy other flag).execute heap' none).output =
      ((Command.copy text nulTerminated).execute heap none).output) :
    other = text ∧ flag = nulTerminated := by
  rw [output_execute_copy fits' succeeds', output_execute_copy fits succeeds] at same
  exact copyRow_injective (List.append_cancel_right same)

end Outcomes

/-- Every run that copies a text of a length that can be counted reports so. -/
theorem reportsCopy {text : List Char} (fits : (Utf8.encode text).length < UInt32.size - 1) (heap : Heap)
    (nulTerminated : Bool) :
    ReportsCopy heap text nulTerminated ((Command.copy text nulTerminated).execute heap none) := by
  have printable := printable_copyRow text nulTerminated
  have cut := cutLast?_copyRow text nulTerminated
  have reads := readCopy?_copyRow text nulTerminated
  have shows (succeeds : ((Command.copy text nulTerminated).execute heap none).failure = none) :=
    output_execute_copy fits succeeds
  have apart (succeeds : ((Command.copy text nulTerminated).execute heap none).failure = none) :=
    eq_of_output_execute_copy fits succeeds
  have ends : Execution.Ends heap text nulTerminated (.ofCopy heap text nulTerminated) :=
    Execution.ends_ofCopy fits heap
  rw [Command.execute_none, Execution.ofCommand] at shows apart ⊢
  generalize Execution.ofCopy heap text nulTerminated = execution at ends shows apart ⊢
  cases ends with
  | rejected terminated zero cause =>
    refine ⟨?_, ?_, ?_, shows, printable, cut, reads, apart, rfl, rfl⟩
    · exact ⟨fun _ => .inl ⟨terminated, zero⟩, fun _ => nofun⟩
    · rintro failure ⟨⟩
      exact .inl ⟨⟨terminated, zero⟩, cause, rfl⟩
    · exact fun _ => ⟨rfl, fun _ _ => List.not_mem_nil⟩
  | refused clean positive refuses =>
    refine ⟨?_, ?_, ?_, shows, printable, cut, reads, apart, rfl, rfl⟩
    · exact ⟨fun _ => .inr ⟨positive, refuses⟩, fun _ => nofun⟩
    · rintro failure ⟨⟩
      exact .inr ⟨clean, rfl, rfl⟩
    · refine fun _ => ⟨rfl, ?_⟩
      intro length flags member
      simp [Effect.event?] at member
  | copied clean grants events after live faults =>
    refine ⟨?_, nofun, ?_, shows, printable, cut, reads, apart, live, faults⟩
    · refine ⟨fun fails => absurd rfl fails, ?_⟩
      rintro (zero | ⟨positive, refuses⟩)
      · exact absurd zero clean
      · rw [grants positive] at refuses
        contradiction
    · exact fun fails => absurd rfl fails

/-- A text that itself looks like a description. -/
theorem reportsCopy_of_lookalike :
    ∃ text outcome, text = " (len 3, Owned, \\".toList ∧
      outcome = (Command.copy text true).execute .empty none ∧
      outcome.output = " (len 3, Owned, \\\\ (len 17, Owned, nul-terminated: true)\n".toList ∧
      ReportsCopy .empty text true outcome :=
  ⟨_, _, rfl, rfl, by decide +kernel, reportsCopy (by decide +kernel) .empty true⟩

end OwnedText
