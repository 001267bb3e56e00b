import OwnedText.Proofs.ByteString.Independence
import OwnedText.Proofs.Memory.Renewal

/-! # Whatever fails is warned of

A request for memory passes three gates, and which of them stops it depends on its size and on what the
heap refuses, not on the way by which it comes. `Heap.failure?` says so once. The ways differ in what they
record: a request for a new block warns of its own failure, resizing warns of its failure whoever has found
it, and copying leaves the warning to the request. All of them warn of every failure, and of nothing else.
-/

namespace OwnedText

/-- What an event shows wherever it is recorded. -/
structure Entry where
  level : Level
  message : String
  fields : List (String × String)
deriving DecidableEq

def Event.entry (event : Event) : Entry := ⟨event.level, event.message, event.fields⟩

/-- The warning of a request for a new block that fails. -/
def AllocationError.warning : AllocationError → Entry
  | layoutOverflow size =>
    ⟨.warn, "rejected allocation", [("size", toString size), ("err", (layoutOverflow size).message)]⟩
  | exhausted size => ⟨.warn, "heap allocation failed", [("size", toString size)]⟩

namespace Heap

/-- Why a request for so many bytes fails, if it does. -/
def failure? (heap : Heap) (size : Nat) : Option AllocationError :=
  if size = 0 then none
  else if Nat.pow 2 63 - 16 < size then some (.layoutOverflow size)
  else if heap.refuses size then some (.exhausted size)
  else none

/-- What a request for a new block records. -/
def requestLog (heap : Heap) (size : Nat) : List Entry :=
  match heap.failure? size with
  | none => []
  | some cause => [cause.warning]

/-- What resizing a buffer of some length records. Where there is no block to be resized, a new one is
asked for. -/
def resizeLog (heap : Heap) (length size : Nat) : List Entry :=
  ⟨.trace, "resizing heap buffer", [("old_len", toString length), ("new_size", toString size)]⟩ ::
    match heap.failure? size with
    | none => []
    | some cause => (if length = 0 then [cause.warning] else []) ++
      [⟨.warn, "resize failed, original buffer released",
        [("new_size", toString size), ("err", cause.message)]⟩]

/-- What resizing the content of a slot records. -/
def contentLog (heap : Heap) (content : Option Buffer) (size : Nat) : List Entry :=
  match content with
  | none => heap.requestLog size
  | some buffer => heap.resizeLog buffer.length size

/-- What copying a string records. -/
def copyLog (heap : Heap) (string : ByteString) : List Entry :=
  if string.copySize = 0 then []
  else ⟨.trace, "copying string", [("len", toString string.length.toNat),
    ("nul_terminated", if string.isNulTerminated then "true" else "false")]⟩ ::
      heap.requestLog string.copySize

end Heap

/-- A request is answered by the failure that stops it, if any does. -/
inductive Reply.Answers {β : Type} (reply : Reply (Except AllocationError β)) (log : List Entry) :
    Option AllocationError → Prop
  | granted (value : β) (ok : reply.value = .ok value) (logged : reply.events.map Event.entry = log) :
    Answers reply log none
  | failed (cause : AllocationError) (error : reply.value = .error cause)
    (logged : reply.events.map Event.entry = log) : Answers reply log (some cause)

namespace Reply.Answers

variable {β : Type} {reply : Reply (Except AllocationError β)} {log : List Entry}
  {failure : Option AllocationError}

/-- An event in front of an answer is recorded in front of it. -/
theorem behind (answers : reply.Answers log failure) (event : Event) :
    (⟨reply.value, reply.heap, event :: reply.events⟩ : Reply (Except AllocationError β)).Answers
      (event.entry :: log) failure := by
  cases answers with
  | granted value ok logged => exact .granted value ok (congrArg (_ :: ·) logged)
  | failed cause error logged => exact .failed cause error (congrArg (_ :: ·) logged)

theorem logged (answers : reply.Answers log failure) : reply.events.map Event.entry = log := by
  cases answers with
  | granted _ _ logged | failed _ _ logged => exact logged

theorem value_cases (answers : reply.Answers log failure) :
    (∃ value, failure = none ∧ reply.value = .ok value) ∨
      ∃ cause, failure = some cause ∧ reply.value = .error cause := by
  cases answers with
  | granted value ok => exact .inl ⟨value, rfl, ok⟩
  | failed cause error => exact .inr ⟨cause, rfl, error⟩

theorem isSome_toOption (answers : reply.Answers log failure) :
    reply.value.toOption.isSome = failure.isNone := by
  rcases answers.value_cases with ⟨value, rfl, ok⟩ | ⟨cause, rfl, error⟩
  · rw [ok]
    rfl
  · rw [error]
    rfl

end Reply.Answers

namespace Heap

section Failures

variable {heap : Heap} {size : Nat}

theorem failure?_zero (heap : Heap) : heap.failure? 0 = none := if_pos rfl

theorem failure?_of_large (positive : 0 < size) (large : largestLayout < size) :
    heap.failure? size = some (.layoutOverflow size) := by
  rw [failure?, if_neg (Nat.ne_of_gt positive)]
  exact if_pos large

theorem failure?_of_refuses (positive : 0 < size) (describable : size ≤ largestLayout)
    (refuses : heap.refuses size = true) : heap.failure? size = some (.exhausted size) := by
  rw [failure?, if_neg (Nat.ne_of_gt positive), if_pos refuses]
  exact if_neg (Nat.not_lt.mpr describable)

theorem failure?_of_grants (describable : size ≤ largestLayout) (grants : heap.refuses size = false) :
    heap.failure? size = none := by
  rw [failure?, grants]
  split
  · rfl
  · exact if_neg (Nat.not_lt.mpr describable)

/-- A request that the layout stops names its size, and so does one that the heap refuses. There is no
third cause. -/
theorem failure?_eq_some_iff (heap : Heap) (size : Nat) (cause : AllocationError) :
    heap.failure? size = some cause ↔
      Nat.pow 2 63 - 16 < size ∧ cause = .layoutOverflow size ∨
        0 < size ∧ size ≤ Nat.pow 2 63 - 16 ∧ heap.refuses size = true ∧ cause = .exhausted size := by
  rcases Nat.eq_zero_or_pos size with rfl | positive
  · simp [failure?_zero]
  · rcases Nat.lt_or_ge largestLayout size with large | describable
    · have exceeds : Nat.pow 2 63 - 16 < size := large
      rw [failure?_of_large positive large]
      simp only [exceeds, Nat.not_le.mpr exceeds, Option.some.injEq, true_and, false_and, and_false, or_false,
        eq_comm]
    · have fits : size ≤ Nat.pow 2 63 - 16 := describable
      cases refuses : heap.refuses size with
      | true =>
        rw [failure?_of_refuses positive describable refuses]
        simp only [fits, Nat.not_lt.mpr fits, positive, Option.some.injEq, true_and, false_and, false_or,
          eq_comm]
      | false =>
        rw [failure?_of_grants describable refuses]
        simp only [Nat.not_lt.mpr fits, reduceCtorEq, Bool.false_eq_true, false_and, and_false, or_self]

end Failures

section Answers

variable (heap : Heap) (size : Nat)

theorem answers_tryAllocate :
    (heap.tryAllocate size).Answers (heap.requestLog size) (heap.failure? size) := by
  have ends := allocation_tryAllocate heap size
  rw [requestLog]
  generalize heap.tryAllocate size = reply at ends ⊢
  cases ends with
  | nothing zero =>
    rw [zero, failure?_zero]
    exact .granted _ rfl rfl
  | indescribable positive large =>
    rw [failure?_of_large positive large]
    exact .failed _ rfl rfl
  | refused positive describable refuses =>
    rw [failure?_of_refuses positive describable refuses]
    exact .failed _ rfl rfl
  | granted _ describable grants =>
    rw [failure?_of_grants describable grants]
    exact .granted _ rfl rfl

/-- What giving a buffer another size records, apart from the warning of whoever asked for it. -/
def reallocateLog (length : Nat) : List Entry :=
  ⟨.trace, "resizing heap buffer", [("old_len", toString length), ("new_size", toString size)]⟩ ::
    if length = 0 then heap.requestLog size else []

theorem answers_reallocate (buffer : Buffer) :
    (heap.reallocate buffer size).Answers (heap.reallocateLog size buffer.length) (heap.failure? size) := by
  rw [reallocateLog]
  cases block : buffer.block with
  | none =>
    have empty : buffer.length = 0 := by rw [Buffer.length, Buffer.bytes_of_none block, List.length_nil]
    rw [reallocate_of_none heap size block, if_pos empty]
    exact (heap.answers_tryAllocate size).behind _
  | some number =>
    have nonempty : buffer.length ≠ 0 := by
      intro empty
      have owns := buffer.owns_block
      rw [block, List.eq_nil_of_length_eq_zero empty] at owns
      contradiction
    have ends := reallocation_reallocate heap size block
    rw [if_neg nonempty]
    generalize heap.reallocate buffer size = reply at ends ⊢
    cases ends with
    | nothing zero =>
      rw [zero, failure?_zero]
      exact .granted _ rfl rfl
    | indescribable positive large =>
      rw [failure?_of_large positive large]
      exact .failed _ rfl rfl
    | refused positive describable refuses =>
      rw [failure?_of_refuses positive describable refuses]
      exact .failed _ rfl rfl
    | granted _ describable grants =>
      rw [failure?_of_grants describable grants]
      exact .granted _ rfl rfl

theorem answers_copy (string : ByteString) :
    (string.copy heap).Answers (heap.copyLog string) (heap.failure? string.copySize) := by
  rw [ByteString.copy, copyLog]
  split
  · rename_i zero
    rw [zero, failure?_zero]
    exact .granted _ rfl rfl
  · have answers := heap.answers_tryAllocate string.copySize
    rcases answers.value_cases with ⟨buffer, granted, ok⟩ | ⟨cause, failed, error⟩
    · simp only [ok, granted]
      exact .granted _ rfl (congrArg (_ :: ·) answers.logged)
    · simp only [error, failed]
      exact .failed _ rfl (congrArg (_ :: ·) answers.logged)

private theorem resizeLog_eq (length : Nat) : heap.resizeLog length size = heap.reallocateLog size length ++
    ((heap.failure? size).map fun cause => ⟨.warn, "resize failed, original buffer released",
      [("new_size", toString size), ("err", cause.message)]⟩).toList := by
  rw [resizeLog, reallocateLog, requestLog]
  cases heap.failure? size with
  | none => simp
  | some cause => simp

theorem events_resize (slot : Option Buffer) :
    (heap.resize slot size).events.map Event.entry = heap.contentLog slot size ∧
      (heap.resize slot size).value.moved.isSome = (heap.failure? size).isNone := by
  cases slot with
  | none =>
    have answers := heap.answers_tryAllocate size
    exact ⟨answers.logged, answers.isSome_toOption⟩
  | some buffer =>
    have answers := heap.answers_reallocate size buffer
    rw [contentLog, resizeLog_eq, resize]
    rcases answers.value_cases with ⟨resized, granted, ok⟩ | ⟨cause, failed, error⟩
    · simp only [take, ok, granted, answers.logged, Option.map_none, Option.toList_none, List.append_nil]
      exact ⟨trivial, rfl⟩
    · simp only [take, error, failed, List.map_append, answers.logged]
      exact ⟨rfl, rfl⟩

section Warnings

theorem warns_requestLog :
    (∃ entry ∈ heap.requestLog size, entry.level = .warn) ↔ ∃ cause, heap.failure? size = some cause := by
  rw [requestLog]
  cases heap.failure? size with
  | none => simp
  | some cause => cases cause <;> simp [AllocationError.warning]

private theorem warns_contentLog (slot : Option Buffer) :
    (∃ entry ∈ heap.contentLog slot size, entry.level = .warn) ↔ ∃ cause, heap.failure? size = some cause := by
  cases slot with
  | none => exact heap.warns_requestLog size
  | some buffer =>
    rw [contentLog, resizeLog]
    cases heap.failure? size with
    | none => simp
    | some cause => simp

private theorem warns_copyLog (string : ByteString) : (∃ entry ∈ heap.copyLog string, entry.level = .warn) ↔
    ∃ cause, heap.failure? string.copySize = some cause := by
  rw [copyLog]
  split
  · rename_i zero
    simp [zero, failure?_zero]
  · rw [← heap.warns_requestLog]
    simp

end Warnings

end Answers

end Heap

theorem Event.exists_warn_iff (events : List Event) :
    (∃ event ∈ events, event.level = .warn) ↔ ∃ entry ∈ events.map Event.entry, entry.level = .warn := by
  simp [Event.entry]

namespace Workbench

variable {α : Type} {element : Element α}

/-- The size that an action asks the heap for, if it asks at all. -/
def Action.request? : Action α → Option Nat
  | .allocate _ size | .tryAllocate _ size | .resize _ _ size => some size
  | _ => none

/-- What an action records. -/
def log (bench : Workbench element) : Action α → List Entry
  | .allocate _ size | .tryAllocate _ size => bench.heap.requestLog size
  | .resize source _ size => bench.heap.contentLog (bench.slot source) size
  | _ => []

/-- What an action answers that asks the heap. -/
def answer? (bench : Workbench element) : Action α → Option Response
  | .allocate _ size => some (.present (bench.heap.failure? size).isNone)
  | .tryAllocate _ size => some ((bench.heap.failure? size).elim .allocated .failed)
  | .resize _ _ size => some (.resized (bench.heap.failure? size).isNone true)
  | _ => none

/-- An action answers and records as its request ends, and it warns exactly of a request that fails. -/
structure Warns (bench : Workbench element) (action : Action α) : Prop where
  answer : ∀ response, bench.answer? action = some response → (bench.step action).response = response
  log : (bench.step action).events.map Event.entry = bench.log action
  warns_iff : (∃ event ∈ (bench.step action).events, event.level = .warn) ↔
    ∃ size cause, action.request? = some size ∧ bench.heap.failure? size = some cause

theorem step_allocate (bench : Workbench element) (slot size : Nat) :
    (bench.step (.allocate slot size)).response = .present (bench.heap.failure? size).isNone ∧
      (bench.step (.allocate slot size)).events.map Event.entry = bench.heap.requestLog size := by
  have answers := bench.heap.answers_tryAllocate size
  exact ⟨congrArg Response.present answers.isSome_toOption, answers.logged⟩

theorem step_tryAllocate (bench : Workbench element) (slot size : Nat) :
    (bench.step (.tryAllocate slot size)).response = (bench.heap.failure? size).elim .allocated .failed ∧
      (bench.step (.tryAllocate slot size)).events.map Event.entry = bench.heap.requestLog size := by
  have answers := bench.heap.answers_tryAllocate size
  rcases answers.value_cases with ⟨buffer, granted, ok⟩ | ⟨cause, failed, error⟩
  · simp only [step, ok, granted]
    exact ⟨rfl, answers.logged⟩
  · simp only [step, error, failed]
    exact ⟨rfl, answers.logged⟩

theorem step_resize (bench : Workbench element) (source target size : Nat) :
    (bench.step (.resize source target size)).response = .resized (bench.heap.failure? size).isNone true ∧
      (bench.step (.resize source target size)).events.map Event.entry =
        bench.heap.contentLog (bench.slot source) size := by
  obtain ⟨logged, granted⟩ := bench.heap.events_resize size (bench.slot source)
  exact ⟨by simp [step, granted], logged⟩

theorem warns (bench : Workbench element) (action : Action α) : bench.Warns action := by
  have log : (bench.step action).events.map Event.entry = bench.log action := by
    cases action with
    | allocate slot size => exact (bench.step_allocate slot size).2
    | tryAllocate slot size => exact (bench.step_tryAllocate slot size).2
    | resize source target size => exact (bench.step_resize source target size).2
    | write slot offset content =>
      simp only [step]
      split
      · rfl
      · split <;> rfl
    | fill slot seed =>
      simp only [step]
      split <;> rfl
    | assemble bundle slot length flags =>
      by_cases covered : (⟨bench.slot slot, length, flags⟩ : Bundle element).Covered
      · simp only [step, OwnedText.take, Bundle.assemble_of_covered _ covered]
        rfl
      · simp only [step, OwnedText.take, Bundle.assemble_of_not_covered _ covered]
        rfl
    | put bundle offset values =>
      simp only [step]
      split <;> rfl
    | _ => rfl
  refine ⟨?_, log, ?_⟩
  · rintro response answer
    cases action with
    | allocate slot size => exact Option.some.inj answer ▸ (bench.step_allocate slot size).1
    | tryAllocate slot size => exact Option.some.inj answer ▸ (bench.step_tryAllocate slot size).1
    | resize source target size => exact Option.some.inj answer ▸ (bench.step_resize source target size).1
    | _ => contradiction
  · rw [Event.exists_warn_iff, log]
    cases action with
    | allocate slot size | tryAllocate slot size =>
      simpa [Workbench.log, Action.request?] using bench.heap.warns_requestLog size
    | resize source target size =>
      simpa [Workbench.log, Action.request?] using bench.heap.warns_contentLog size (bench.slot source)
    | _ => simp [Workbench.log, Action.request?]

end Workbench

namespace Workspace

/-- The string that an action copies, if it is carried out. -/
def copied? (workspace : Workspace) : Action → Option ByteString
  | .copy source target =>
    if (workspace.held? source).isNone || workspace.isBorrowed target then none
    else some (workspace.shown source)
  | _ => none

/-- What an action records. -/
def log (workspace : Workspace) (action : Action) : List Entry :=
  match workspace.copied? action with
  | none => []
  | some string => workspace.heap.copyLog string

/-- An action answers and records as its copy ends, and it warns exactly of a copy that fails. -/
structure Warns (workspace : Workspace) (action : Action) : Prop where
  answer : ∀ string, workspace.copied? action = some string →
    (workspace.step action).response = (workspace.heap.failure? string.copySize).elim .copied .failed
  log : (workspace.step action).events.map Event.entry = workspace.log action
  warns_iff : (∃ event ∈ (workspace.step action).events, event.level = .warn) ↔
    ∃ string cause, workspace.copied? action = some string ∧
      workspace.heap.failure? string.copySize = some cause

section Steps

variable {workspace : Workspace} {action : Action}

/-- An action that copies nothing records nothing. -/
private theorem events_eq_nil (nothing : workspace.copied? action = none) :
    (workspace.step action).events = [] := by
  cases action with
  | copy source target =>
    simp only [copied?] at nothing
    split at nothing
    · rename_i refused
      rw [step]
      split
      · rfl
      · rename_i set
        have present : (workspace.held? source).isNone = false := by
          simp only [Action.reads, List.any_cons, List.any_nil, Bool.or_false] at set
          exact Bool.eq_false_iff.mpr set
        rw [present, Bool.false_or] at refused
        rw [if_pos (by simp [Action.changes, refused])]
    · contradiction
  | literal target bytes =>
    obtain ⟨response, _, refused⟩ | ⟨_, performed⟩ := workspace.step_cases (.literal target bytes)
    · rw [refused]
    · rw [performed]
      simp only [perform]
      split <;> rfl
  | refuse size | bytes target bytes | empty target | take source target | aliasOf lender target
  | release source | compare left right | describe source =>
    rw [step]
    split
    · rfl
    · split <;> rfl

private theorem step_of_copied? {string : ByteString} (copied : workspace.copied? action = some string) :
    (workspace.step action).response = (workspace.heap.failure? string.copySize).elim .copied .failed ∧
      (workspace.step action).events.map Event.entry = workspace.heap.copyLog string := by
  cases action with
  | copy source target =>
    simp only [copied?] at copied
    split at copied
    · contradiction
    · rename_i accepted
      obtain ⟨set, free⟩ := Bool.or_eq_false_iff.mp (Bool.eq_false_iff.mpr accepted)
      obtain ⟨held, present⟩ := Option.isSome_iff_exists.mp (Option.isNone_eq_false_iff.mp set)
      cases copied
      rw [step_copy present free]
      have answers := workspace.heap.answers_copy (workspace.shown source)
      rcases answers.value_cases with ⟨copied, granted, ok⟩ | ⟨cause, failed, error⟩
      · simp only [perform, ok, granted]
        exact ⟨rfl, answers.logged⟩
      · simp only [perform, error, failed]
        exact ⟨rfl, answers.logged⟩
  | _ => contradiction

theorem warns (workspace : Workspace) (action : Action) : workspace.Warns action := by
  cases copied : workspace.copied? action with
  | none =>
    have silent := events_eq_nil copied
    refine ⟨?_, ?_, ?_⟩
    · simp [copied]
    · rw [silent, log, copied]
      rfl
    · simp [silent, copied]
  | some string =>
    obtain ⟨answered, logged⟩ := step_of_copied? copied
    refine ⟨?_, ?_, ?_⟩
    · intro string' same
      rw [copied] at same
      cases same
      exact answered
    · rw [logged, log, copied]
    · rw [Event.exists_warn_iff, logged, workspace.heap.warns_copyLog]
      simp [copied]

end Steps

end Workspace

/-- How a request for so many bytes ends, by whatever way it comes. It fails in two cases, which exclude each
other, and the failure names the size; what is recorded depends on the way. -/
structure Heap.Requests (heap : Heap) (size : Nat) : Prop where
  fails_iff : ∀ cause, heap.failure? size = some cause ↔
    Nat.pow 2 63 - 16 < size ∧ cause = .layoutOverflow size ∨
      0 < size ∧ size ≤ Nat.pow 2 63 - 16 ∧ heap.refuses size = true ∧ cause = .exhausted size
  named : ∀ cause, heap.failure? size = some cause → cause.size = size
  fresh : (heap.tryAllocate size).Answers (heap.requestLog size) (heap.failure? size)
  forgetful : (heap.allocate size).value = (heap.tryAllocate size).value.toOption ∧
    (heap.allocate size).events = (heap.tryAllocate size).events
  buffer : ∀ buffer, (heap.reallocate buffer size).Answers (heap.reallocateLog size buffer.length)
    (heap.failure? size)
  content : ∀ content, (heap.resize content size).events.map Event.entry = heap.contentLog content size ∧
    (heap.resize content size).value.moved.isSome = (heap.failure? size).isNone
  copy : ∀ string : ByteString, string.copySize = size →
    (string.copy heap).Answers (heap.copyLog string) (heap.failure? size)

theorem Heap.requests (heap : Heap) (size : Nat) : heap.Requests size where
  fails_iff := heap.failure?_eq_some_iff size
  named cause fails := by
    rcases (heap.failure?_eq_some_iff size cause).mp fails with ⟨_, rfl⟩ | ⟨_, _, _, rfl⟩
    · rfl
    · rfl
  fresh := heap.answers_tryAllocate size
  forgetful := ⟨rfl, rfl⟩
  buffer := heap.answers_reallocate size
  content := heap.events_resize size
  copy string same := same ▸ heap.answers_copy string

/-- No failure is silent and no success warns: of a request by any way, of an action on slots and bundles in
any state, and of an action on strings in any state. -/
theorem warnsOfFailures :
    (∀ (heap : Heap) (size : Nat), heap.Requests size) ∧
      (∀ {α : Type} {element : Element α} (bench : Workbench element) (action : Workbench.Action α),
        bench.Warns action) ∧
      ∀ (workspace : Workspace) (action : Workspace.Action), workspace.Warns action :=
  ⟨Heap.requests, Workbench.warns, Workspace.warns⟩

end OwnedText
