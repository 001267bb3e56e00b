import OwnedText.Proofs.ByteString.Provenance

/-! # Copies stand on their own

A copy asks the heap once, for the counted bytes and the terminator together, and not at all if there are
neither. Whether the heap refuses any other size plays no part in it. A copy that fails leaves everything
as it was; one that succeeds has the content of its source in a block that was not live before. From then
on nothing ties it to its source: whatever happens to other variables, the copy is still there, its block
is live, and no other string owns it.
-/

namespace OwnedText

private theorem Buffer.eq_of_bytes {buffer other : Buffer} (block : other.block = buffer.block)
    (bytes : other.bytes = buffer.bytes) : other = buffer := by
  cases buffer
  cases other
  cases block
  cases bytes
  rfl

namespace ByteString

/-- What the heap is asked for by copying a string. Only its answer for this size matters, and if it is
no size at all, there is no question. -/
structure AsksFor (string : ByteString) (size : Nat) : Prop where
  nothing : size = 0 → ∀ heap, string.copy heap = ⟨.ok ⟨none, 0, string.flags⟩, heap, []⟩
  refused : 0 < size → ∀ heap : Heap, heap.refuses size = true →
    string.copy heap = ⟨.error (.exhausted size), heap,
      [.copying string.length.toNat string.isNulTerminated, .allocationFailed size]⟩
  granted : 0 < size → ∀ heap : Heap, heap.refuses size = false → ∃ copied,
    string.copy heap = ⟨.ok copied,
      { heap with live := ⟨heap.next, size⟩ :: heap.live, next := heap.next + 1 },
      [.copying string.length.toNat string.isNulTerminated]⟩ ∧
    copied.ownership = .owned ∧ copied.address = some (.block heap.next) ∧ copied.stored.length = size
  fails_iff : ∀ heap : Heap,
    (∃ cause, (string.copy heap).value = .error cause) ↔ 0 < size ∧ heap.refuses size = true
  others : ∀ (heap : Heap) (refuses : Nat → Bool), refuses size = heap.refuses size →
    string.copy { heap with refuses := refuses } =
      ⟨(string.copy heap).value, { (string.copy heap).heap with refuses := refuses },
        (string.copy heap).events⟩
  same : ∀ (heap : Heap) (copied : ByteString), (string.copy heap).value = .ok copied →
    string.SameContent copied

section Requests

variable {string : ByteString} {heap : Heap}

theorem copy_of_copySize_eq_zero (zero : string.copySize = 0) (heap : Heap) :
    string.copy heap = ⟨.ok ⟨none, 0, string.flags⟩, heap, []⟩ := if_pos zero

theorem Consistent.copy_of_refuses (consistent : string.Consistent) (positive : 0 < string.copySize)
    (refuses : heap.refuses string.copySize = true) :
    string.copy heap = ⟨.error (.exhausted string.copySize), heap,
      [.copying string.length.toNat string.isNulTerminated, .allocationFailed string.copySize]⟩ := by
  have ends := consistent.copying heap
  generalize string.copy heap = reply at ends ⊢
  cases ends with
  | nothing zero => exact absurd zero (Nat.ne_of_gt positive)
  | failed _ cause events request =>
    obtain ⟨_, rfl, rfl⟩ := refuses_of_tryAllocate request
    rfl
  | copied _ _ grants =>
    rw [refuses] at grants
    contradiction

theorem Consistent.copy_of_grants (consistent : string.Consistent) (positive : 0 < string.copySize)
    (grants : heap.refuses string.copySize = false) :
    ∃ buffer : Buffer, buffer.block = some heap.next ∧ buffer.bytes = string.counted ++ string.terminator ∧
      string.copy heap = ⟨.ok ⟨some (.owned buffer), string.length, string.flags⟩,
        heap.adding string.copySize, [.copying string.length.toNat string.isNulTerminated]⟩ := by
  have ends := consistent.copying heap
  generalize string.copy heap = reply at ends ⊢
  cases ends with
  | nothing zero => exact absurd zero (Nat.ne_of_gt positive)
  | failed _ cause events request =>
    obtain ⟨refuses, _⟩ := refuses_of_tryAllocate request
    rw [refuses] at grants
    contradiction
  | copied _ _ _ buffer block bytes => exact ⟨buffer, block, bytes, rfl⟩

/-- A heap that answers the same for the size of a copy makes the same copy. -/
theorem Consistent.copy_withPolicy (consistent : string.Consistent) {refuses : Nat → Bool}
    (same : refuses string.copySize = heap.refuses string.copySize) :
    string.copy { heap with refuses := refuses } =
      ⟨(string.copy heap).value, { (string.copy heap).heap with refuses := refuses },
        (string.copy heap).events⟩ := by
  rcases Nat.eq_zero_or_pos string.copySize with zero | positive
  · rw [copy_of_copySize_eq_zero zero, copy_of_copySize_eq_zero zero]
  · cases answer : heap.refuses string.copySize with
    | true =>
      rw [consistent.copy_of_refuses positive answer, consistent.copy_of_refuses positive (same.trans answer)]
    | false =>
      have answer' : ({ heap with refuses := refuses } : Heap).refuses string.copySize = false :=
        same.trans answer
      obtain ⟨buffer, block, bytes, copied⟩ := consistent.copy_of_grants positive answer
      obtain ⟨buffer', block', bytes', copied'⟩ := consistent.copy_of_grants positive answer'
      obtain rfl : buffer' = buffer :=
        Buffer.eq_of_bytes (block'.trans block.symm) (bytes'.trans bytes.symm)
      rw [copied, copied']
      rfl

theorem Consistent.asksFor (consistent : string.Consistent) : string.AsksFor string.copySize := by
  refine ⟨?_, ?_, ?_, ?_, ?_, ?_⟩
  · exact copy_of_copySize_eq_zero
  · intro positive heap refuses
    exact consistent.copy_of_refuses positive refuses
  · intro positive heap grants
    obtain ⟨buffer, block, bytes, copied⟩ := consistent.copy_of_grants positive grants
    refine ⟨_, copied, rfl, congrArg (Option.map Address.block) block, ?_⟩
    change buffer.bytes.length = string.copySize
    rw [bytes, List.length_append, consistent.stored_eq.2, copySize_eq]
  · intro heap
    constructor
    · rintro ⟨cause, failure⟩
      rcases Nat.eq_zero_or_pos string.copySize with zero | positive
      · rw [copy_of_copySize_eq_zero zero] at failure
        contradiction
      · refine ⟨positive, ?_⟩
        by_contra granted
        obtain ⟨buffer, _, _, copied⟩ :=
          consistent.copy_of_grants positive (Bool.eq_false_iff.mpr granted)
        rw [copied] at failure
        contradiction
    · rintro ⟨positive, refuses⟩
      exact ⟨_, congrArg Reply.value (consistent.copy_of_refuses positive refuses)⟩
  · intro heap refuses same
    exact consistent.copy_withPolicy same
  · intro heap copied success
    exact (consistent.alike_copy success).sameContent consistent (consistent.of_copy success)

namespace AsksFor

variable {size : Nat} {copied : ByteString}

/-- Nothing but a refusal of the size makes copying fail. -/
private theorem exists_ok (asks : string.AsksFor size) (grants : size = 0 ∨ heap.refuses size = false) :
    ∃ copied, (string.copy heap).value = .ok copied := by
  cases outcome : (string.copy heap).value with
  | ok copied => exact ⟨copied, rfl⟩
  | error cause =>
    obtain ⟨positive, refuses⟩ := (asks.fails_iff heap).mp ⟨cause, outcome⟩
    rcases grants with zero | grants
    · exact absurd zero (Nat.ne_of_gt positive)
    · rw [refuses] at grants
      contradiction

/-- A copy that starts at a block starts at the one that the heap gave. -/
private theorem number_eq_next (asks : string.AsksFor size) (success : (string.copy heap).value = .ok copied)
    {number : Nat} (address : copied.address = some (.block number)) : number = heap.next := by
  rcases Nat.eq_zero_or_pos size with zero | positive
  · rw [asks.nothing zero] at success
    cases success
    contradiction
  · cases answer : heap.refuses size with
    | true =>
      rw [asks.refused positive heap answer] at success
      contradiction
    | false =>
      obtain ⟨_, copies, _, starts, _⟩ := asks.granted positive heap answer
      rw [copies] at success
      cases success
      rw [starts] at address
      cases address
      rfl

end AsksFor

end Requests

end ByteString

namespace Workspace

/-- The variables that a turn changes. -/
def Turn.changes : Turn → List Nat
  | .repolicy _ => []
  | .act action => action.changes

/-- The state after several turns, the first of which comes first. -/
def afterAll (workspace : Workspace) (turns : List Turn) : Workspace := turns.foldl after workspace

/-- A variable holds a string that borrows from no other variable. The block where it starts, if there is
one, is live, and whoever else shows it has an alias. -/
structure HoldsAlone (workspace : Workspace) (index : Nat) (string : ByteString) : Prop where
  present : workspace.held? index = some ⟨string, none⟩
  live : ∀ number, string.address = some (.block number) → workspace.heap.isLive number = true
  alone : ∀ number, string.address = some (.block number) → ∀ other held,
    workspace.held? other = some held → held.string.address = some (.block number) →
      held.string.ownership ≠ .aliased → other = index

/-- How a workspace copies the string of a variable. A refusal of the size that is asked for leaves the
workspace as it is. Else the copy stands, in a block that was not live, and goes on to stand alone for as
long as its own variable is not changed. -/
structure CopiesExactly (workspace : Workspace) (source : Nat) (string : ByteString) (size : Nat) : Prop
    extends string.AsksFor size where
  failed : 0 < size → workspace.heap.refuses size = true → ∀ target, workspace.isBorrowed target = false →
    workspace.step (.copy source target) = ⟨workspace, .failed (.exhausted size),
      [.copying string.length.toNat string.isNulTerminated, .allocationFailed size]⟩
  stands : (size = 0 ∨ workspace.heap.refuses size = false) →
    ∀ target < workspace.cells.length, workspace.isBorrowed target = false →
      (workspace.step (.copy source target)).response = .copied ∧ ∃ copied,
        (string.copy workspace.heap).value = .ok copied ∧
        (∀ number, copied.address = some (.block number) → workspace.heap.isLive number = false) ∧
        ∀ turns : List Turn, (∀ turn ∈ turns, target ∉ turn.changes) →
          ((workspace.step (.copy source target)).workspace.afterAll turns).HoldsAlone target copied

section Later

variable {workspace : Workspace} {index : Nat} {held : Variable}

private theorem held?_after_of_not_changes {turn : Turn} (kept : index ∉ turn.changes) :
    (workspace.after turn).held? index = workspace.held? index := by
  cases turn with
  | repolicy refuses => rfl
  | act action => exact held?_step_of_not_changes action kept

theorem Reachable.afterAll (reachable : Reachable workspace) (turns : List Turn) :
    Reachable (workspace.afterAll turns) := by
  induction turns generalizing workspace with
  | nil => exact reachable
  | cons turn rest ih => exact ih (reachable.after turn)

/-- A variable that no turn changes holds what it held. -/
private theorem held?_afterAll {turns : List Turn} (kept : ∀ turn ∈ turns, index ∉ turn.changes) :
    (workspace.afterAll turns).held? index = workspace.held? index := by
  induction turns generalizing workspace with
  | nil => rfl
  | cons turn rest ih =>
    have first : (workspace.after turn).held? index = workspace.held? index :=
      held?_after_of_not_changes (kept turn List.mem_cons_self)
    exact (ih fun later member => kept later (List.mem_cons_of_mem _ member)).trans first

/-- Two strings that start at the same block are one, or one of them is an alias. -/
theorem Reachable.eq_of_address (reachable : Reachable workspace) {other number : Nat} {held' : Variable}
    (present : workspace.held? index = some held) (own : held.string.ownership ≠ .aliased)
    (address : held.string.address = some (.block number)) (present' : workspace.held? other = some held')
    (own' : held'.string.ownership ≠ .aliased)
    (address' : held'.string.address = some (.block number)) : other = index := by
  by_contra apart
  obtain ⟨buffer, holds, block⟩ := held.string.ownBuffer?_of_address own address
  obtain ⟨buffer', holds', block'⟩ := held'.string.ownBuffer?_of_address own' address'
  have accounts := reachable.accounts.perm (workspace.owned_perm index none rfl)
  rw [present, ownBuffer?, Option.bind_some, holds] at accounts
  have stays : (workspace.set index none).held? other = some held' := by
    rw [held?_set, if_neg fun both => apart both.1.symm, present']
  have entry := List.mem_filterMap.mpr
    ⟨buffer', mem_owned_of_held? stays holds', Buffer.ownBlock?_of_block block'⟩
  exact accounts.number_notMem block _ entry rfl

theorem Reachable.holdsAlone (reachable : Reachable workspace) {string : ByteString}
    (present : workspace.held? index = some ⟨string, none⟩) (own : string.ownership ≠ .aliased) :
    workspace.HoldsAlone index string where
  present := present
  live _ address := reachable.isLive present address
  alone _ address _ _ present' address' own' :=
    reachable.eq_of_address present own address present' own' address'

end Later

section Copies

variable {workspace : Workspace} {source target : Nat} {held : Variable}

/-- A string can be copied into every variable that nobody borrows. -/
theorem step_copy (present : workspace.held? source = some held)
    (free : workspace.isBorrowed target = false) :
    workspace.step (.copy source target) = workspace.perform workspace.shown (.copy source target) := by
  have set : (Action.copy source target).reads.any (fun index => (workspace.held? index).isNone) = false := by
    simp [Action.reads, present]
  have unborrowed : ((Action.copy source target).changes.any workspace.isBorrowed ||
      (Action.copy source target).showsItself) = false := by
    simp [Action.changes, Action.showsItself, free]
  rw [step, set, unborrowed]
  rfl

/-- A block that has not been handed out is not live. -/
private theorem Reachable.isLive_next (reachable : Reachable workspace) :
    workspace.heap.isLive workspace.heap.next = false := by
  rw [Heap.isLive, List.any_eq_false]
  intro block member same
  have below := reachable.accounts.below block member
  rw [beq_iff_eq.mp same] at below
  exact Nat.lt_irrefl _ below

end Copies

/-- In every reachable state every string is copied so. -/
theorem copiesExactly_of_reachable {workspace : Workspace} (reachable : Reachable workspace) {source : Nat}
    {held : Variable} (present : workspace.held? source = some held) :
    workspace.CopiesExactly source held.string
      (held.string.length.toNat + if held.string.isNulTerminated then 1 else 0) := by
  have consistent := reachable.consistent source held present
  change workspace.CopiesExactly source held.string held.string.copySize
  refine ⟨consistent.asksFor, ?_, ?_⟩
  · intro positive refuses target free
    rw [step_copy present free]
    simp only [perform, shown_of_held? present, consistent.copy_of_refuses positive refuses]
    rfl
  · intro grants target inside free
    obtain ⟨copied, success⟩ := consistent.asksFor.exists_ok grants
    have performed := step_copy present free
    have accepted : (workspace.step (.copy source target)).response = .copied := by
      rw [performed]
      simp only [perform, shown_of_held? present, success]
    have carried := carried_of_accepted (congrArg Response.isRefusal accepted)
    have placed := carried.held?_of_placed (.copied present success) inside
    refine ⟨accepted, copied, success, ?_, ?_⟩
    · intro number address
      rw [consistent.asksFor.number_eq_next success address]
      exact reachable.isLive_next
    · intro turns spared
      have later := (reachable.step (.copy source target)).afterAll turns
      exact later.holdsAlone ((held?_afterAll spared).trans placed)
        (ByteString.ownership_of_copy consistent success)

/-- A copy of a terminated literal of two bytes, from a heap that refuses two bytes. -/
theorem copiesExactly_of_bare_refusal :
    ∃ workspace held, workspace = (ofCount 2).run [.literal 0 [97, 98], .refuse 2] ∧
      workspace.held? 0 = some held ∧ workspace.heap.refuses held.string.length.toNat = true ∧
      ((workspace.run [.copy 0 1, .release 0, .bytes 0 [99]]).held? 1).map (·.string.stored) =
        some [97, 98, 0] ∧
      workspace.CopiesExactly 0 held.string
        (held.string.length.toNat + if held.string.isNulTerminated then 1 else 0) := by
  have present : ((ofCount 2).run [.literal 0 [97, 98], .refuse 2]).held? 0 =
      some ⟨⟨some (.literal 0 [97, 98, 0]), 2, .nulTerminated⟩, none⟩ := by decide +kernel
  exact ⟨_, _, rfl, present, by decide +kernel, by decide +kernel,
    copiesExactly_of_reachable (.run (.start 2) _) present⟩

end Workspace

end OwnedText
