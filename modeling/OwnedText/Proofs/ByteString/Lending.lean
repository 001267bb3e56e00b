import OwnedText.Proofs.ByteString.Holdings

/-! # Aliases show live data

An alias borrows the variable that it was made from, and nothing changes a variable that is borrowed. So
from an alias one can always go from lender to lender and arrives at a string that holds the data of all
of them itself. What an alias shows is there as long as the alias is: whatever a run did, no string
starts at a block that has gone back to the heap.

`Placed` says once what an action that is carried out puts into the variables that it changes.
-/

namespace OwnedText

namespace ByteString

@[simp] theorem stored_aliasOf (string : ByteString) : string.aliasOf.stored = string.stored := by
  unfold aliasOf stored
  cases string.data <;> rfl

@[simp] theorem address_aliasOf (string : ByteString) : string.aliasOf.address = string.address := by
  unfold aliasOf address
  cases string.data <;> rfl

/-- A string that starts at a block and is no alias owns the block. -/
theorem ownBuffer?_of_address {number : Nat} (string : ByteString) (own : string.ownership ≠ .aliased)
    (address : string.address = some (.block number)) :
    ∃ buffer, string.ownBuffer? = some buffer ∧ buffer.block = some number := by
  obtain ⟨storage, data, start⟩ := Option.bind_eq_some_iff.mp address
  cases storage with
  | literal source bytes => cases start
  | aliased shown bytes => exact absurd (by rw [ownership, data]) own
  | owned buffer =>
    obtain ⟨block, present, same⟩ := Option.map_eq_some_iff.mp start
    cases same
    exact ⟨buffer, by rw [ownBuffer?, data], present⟩

private theorem ownership_of_ofText? {source : Nat} {bytes : List UInt8} {string : ByteString}
    (success : ofText? source bytes = .ok string) : string.ownership ≠ .aliased := by
  unfold ofText? at success
  split at success
  · contradiction
  · cases success
    unfold ofLiteral
    split
    · nofun
    · nofun

theorem ownership_of_copy {heap : Heap} {string copied : ByteString} (consistent : string.Consistent)
    (success : (string.copy heap).value = .ok copied) : copied.ownership ≠ .aliased := by
  have ends := consistent.copying heap
  generalize string.copy heap = reply at ends success
  cases ends with
  | nothing => cases success; nofun
  | failed => contradiction
  | copied => cases success; nofun

end ByteString

namespace Workspace

variable {workspace : Workspace} {action : Action} {index : Nat} {held : Variable}

theorem inside_of_held? (present : workspace.held? index = some held) : index < workspace.cells.length := by
  by_contra outside
  rw [held?, List.getElem?_eq_none (Nat.le_of_not_lt outside)] at present
  contradiction

theorem mem_owned_of_held? {buffer : Buffer} (present : workspace.held? index = some held)
    (own : held.string.ownBuffer? = some buffer) : buffer ∈ workspace.owned := by
  have inside := inside_of_held? present
  rw [held?, List.getElem?_eq_getElem inside, Option.getD_some] at present
  exact List.mem_filterMap.mpr ⟨some held, present ▸ List.getElem_mem inside, own⟩

theorem shown_of_held? (present : workspace.held? index = some held) :
    workspace.shown index = held.string := by
  rw [shown, present]
  rfl

/-- An alias borrows its lender. -/
theorem isBorrowed_of_lender {lender : Nat} (present : workspace.held? index = some held)
    (borrows : held.lender = some lender) : workspace.isBorrowed lender = true := by
  have inside := inside_of_held? present
  rw [held?, List.getElem?_eq_getElem inside, Option.getD_some] at present
  refine List.any_eq_true.mpr ⟨some held, present ▸ List.getElem_mem inside, ?_⟩
  rw [Option.any_some, borrows]
  exact beq_self_eq_true _

/-- An action is carried out: what it reads is set, what it changes is not borrowed, and it is no alias
that would replace what it shows. -/
structure Carried (workspace : Workspace) (action : Action) : Prop where
  accepted : (workspace.step action).response.isRefusal = false
  present : ∀ index ∈ action.reads, ∃ held, workspace.held? index = some held
  free : ∀ index ∈ action.changes, workspace.isBorrowed index = false
  apart : action.showsItself = false
  performed : workspace.step action = workspace.perform workspace.shown action

theorem carried_of_accepted (accepted : (workspace.step action).response.isRefusal = false) :
    workspace.Carried action := by
  have refuses : ∀ response : Response, response.isRefusal = true →
      workspace.step action ≠ ⟨workspace, response, []⟩ := by
    intro response refusal same
    rw [same, refusal] at accepted
    contradiction
  obtain ⟨response, refusal, refused⟩ | ⟨set, performed⟩ := workspace.step_cases action
  · exact absurd refused (refuses response refusal)
  have admitted : ¬ (action.changes.any workspace.isBorrowed || action.showsItself) = true := by
    intro borrowed
    refine refuses .borrowed rfl ?_
    rw [step, if_neg, if_pos borrowed]
    intro unset
    obtain ⟨index, member, none⟩ := List.any_eq_true.mp unset
    rw [Option.isNone_iff_eq_none] at none
    have present := set index member
    rw [none] at present
    contradiction
  rw [Bool.or_eq_true, not_or, Bool.not_eq_true, Bool.not_eq_true, List.any_eq_false] at admitted
  refine ⟨accepted, ?_, ?_, admitted.2, performed⟩
  · intro index member
    exact Option.isSome_iff_exists.mp (set index member)
  · intro index member
    exact Bool.eq_false_iff.mpr (admitted.1 index member)

/-- What an action that is carried out puts into the variables that it changes. Moving a string takes
its borrow along, and making an alias begins one. -/
inductive Placed (workspace : Workspace) : Action → Nat → Variable → Prop
  | literal {target : Nat} {bytes : List UInt8} {string : ByteString}
    (success : ByteString.ofText? workspace.nextSource bytes = .ok string) :
    Placed workspace (.literal target bytes) target ⟨string, none⟩
  | bytes (target : Nat) (bytes : List UInt8) :
    Placed workspace (.bytes target bytes) target ⟨.ofBytes workspace.nextSource bytes, none⟩
  | empty (target : Nat) : Placed workspace (.empty target) target ⟨.empty, none⟩
  | moved {source : Nat} {held : Variable} (target : Nat) (present : workspace.held? source = some held) :
    Placed workspace (.take source target) target held
  | emptied {source target : Nat} (apart : source ≠ target) :
    Placed workspace (.take source target) source ⟨.empty, none⟩
  | shown {lender target : Nat} {held : Variable} (present : workspace.held? lender = some held)
    (apart : lender ≠ target) :
    Placed workspace (.aliasOf lender target) target ⟨held.string.aliasOf, some lender⟩
  | copied {source target : Nat} {held : Variable} {string : ByteString}
    (present : workspace.held? source = some held)
    (success : (held.string.copy workspace.heap).value = .ok string) :
    Placed workspace (.copy source target) target ⟨string, none⟩

namespace Carried

/-- What is put into a variable is held there afterwards. -/
theorem held?_of_placed (carried : workspace.Carried action) (placed : workspace.Placed action index held)
    (inside : index < workspace.cells.length) :
    (workspace.step action).workspace.held? index = some held := by
  rw [carried.performed]
  cases placed with
  | literal success => simp [perform, success, inside]
  | bytes | empty => simp [perform, inside]
  | moved target present => simp [perform, shown_of_held? present, present, inside, ByteString.take, OwnedText.take]
  | emptied apart => simp [perform, inside, apart.symm, ByteString.take, OwnedText.take, ByteString.empty]
  | shown present => simp [perform, shown_of_held? present, inside]
  | copied present success => simp [perform, shown_of_held? present, success, inside]

/-- A variable that an action changes gets something, or it is released. -/
theorem exists_placed (carried : workspace.Carried action) (changed : index ∈ action.changes) :
    (∃ held, workspace.Placed action index held) ∨ action = .release index := by
  have accepted := carried.accepted
  have performed := carried.performed
  cases action with
  | literal target bytes =>
    obtain rfl := List.mem_singleton.mp changed
    cases success : ByteString.ofText? workspace.nextSource bytes with
    | ok string => exact .inl ⟨_, .literal success⟩
    | error failure =>
      simp only [performed, perform, success] at accepted
      contradiction
  | bytes target bytes =>
    obtain rfl := List.mem_singleton.mp changed
    exact .inl ⟨_, .bytes index bytes⟩
  | empty target =>
    obtain rfl := List.mem_singleton.mp changed
    exact .inl ⟨_, .empty index⟩
  | take source target =>
    obtain ⟨held, present⟩ := carried.present source List.mem_cons_self
    by_cases same : index = target
    · exact .inl ⟨held, same ▸ .moved target present⟩
    · obtain rfl := List.mem_singleton.mp ((List.mem_cons.mp changed).resolve_left same)
      exact .inl ⟨_, .emptied same⟩
  | aliasOf lender target =>
    obtain rfl := List.mem_singleton.mp changed
    obtain ⟨held, present⟩ := carried.present lender List.mem_cons_self
    exact .inl ⟨_, .shown present (beq_eq_false_iff_ne.mp carried.apart)⟩
  | copy source target =>
    obtain rfl := List.mem_singleton.mp changed
    obtain ⟨held, present⟩ := carried.present source List.mem_cons_self
    cases success : (held.string.copy workspace.heap).value with
    | ok string => exact .inl ⟨_, .copied present success⟩
    | error cause =>
      simp only [performed, perform, shown_of_held? present, success] at accepted
      contradiction
  | release source =>
    obtain rfl := List.mem_singleton.mp changed
    exact .inr rfl
  | refuse => contradiction
  | compare => contradiction
  | describe => contradiction

end Carried

/-- Variables that an action does not change hold what they held before. -/
theorem held?_step_of_not_changes (action : Action) (kept : index ∉ action.changes) :
    (workspace.step action).workspace.held? index = workspace.held? index := by
  obtain ⟨response, _, refused⟩ | ⟨_, performed⟩ := workspace.step_cases action
  · rw [refused]
  rw [performed]
  cases action with
  | literal | copy =>
    simp only [perform]
    split <;> simp [(List.ne_of_not_mem_cons kept).symm]
  | bytes | empty | aliasOf | release => simp [perform, (List.ne_of_not_mem_cons kept).symm]
  | take source target =>
    have apart := List.ne_of_not_mem_cons kept
    have apart' := List.ne_of_not_mem_cons (List.not_mem_of_not_mem_cons kept)
    simp [perform, apart.symm, apart'.symm]
  | refuse | compare | describe => rfl

/-- No action adds a variable or removes one. -/
@[simp] theorem length_cells_step (action : Action) :
    (workspace.step action).workspace.cells.length = workspace.cells.length := by
  obtain ⟨response, _, refused⟩ | ⟨_, performed⟩ := workspace.step_cases action
  · rw [refused]
  rw [performed]
  cases action with
  | literal | copy =>
    simp only [perform]
    split <;> simp
  | bytes | empty | take | aliasOf | release => simp [perform]
  | refuse | compare | describe => rfl

theorem Carried.placed_of_held? (carried : workspace.Carried action) (changed : index ∈ action.changes)
    (present : (workspace.step action).workspace.held? index = some held) :
    workspace.Placed action index held := by
  have inside := inside_of_held? present
  rw [length_cells_step] at inside
  obtain ⟨held', placed⟩ | rfl := carried.exists_placed changed
  · have same := carried.held?_of_placed placed inside
    rw [present] at same
    exact Option.some.inj same ▸ placed
  · rw [carried.performed] at present
    simp only [perform, held?_store_self inside] at present
    contradiction

/-- Going from lender to lender leads from a variable to one that is no alias. Each alias on the way
shows what its lender holds. -/
inductive Traces (workspace : Workspace) : Nat → Nat → Prop
  | own {index : Nat} {held : Variable} (present : workspace.held? index = some held)
    (lender : held.lender = none) (own : held.string.ownership ≠ .aliased) : Traces workspace index index
  | lent {index lender holder : Nat} {held lent : Variable} (present : workspace.held? index = some held)
    (borrows : held.lender = some lender) (present' : workspace.held? lender = some lent)
    (shows : held.string = lent.string.aliasOf) (traces : Traces workspace lender holder) :
    Traces workspace index holder

/-- Every variable that is set leads to one that holds its data itself. -/
def Anchored (workspace : Workspace) : Prop :=
  ∀ index held, workspace.held? index = some held → ∃ holder, workspace.Traces index holder

namespace Traces

variable {holder : Nat}

/-- The data of an alias is that of the string that it leads to. -/
theorem holder_address (traces : workspace.Traces index holder) (present : workspace.held? index = some held) :
    ∃ owner, workspace.held? holder = some owner ∧ owner.string.ownership ≠ .aliased ∧
      owner.string.address = held.string.address := by
  induction traces generalizing held with
  | own present' _ own =>
    rw [present'] at present
    obtain rfl := Option.some.inj present
    exact ⟨_, present', own, rfl⟩
  | lent present' _ lent shows _ ih =>
    rw [present'] at present
    obtain rfl := Option.some.inj present
    obtain ⟨owner, owns, own, same⟩ := ih lent
    exact ⟨owner, owns, own, by simp [same, shows]⟩

/-- What is borrowed does not change, so nothing on the way changes. -/
theorem frame {after : Workspace} {changes : List Nat} (traces : workspace.Traces index holder)
    (same : ∀ other, other ∉ changes → after.held? other = workspace.held? other)
    (free : ∀ other ∈ changes, workspace.isBorrowed other = false) (kept : index ∉ changes) :
    after.Traces index holder := by
  induction traces with
  | own present lender own => exact .own ((same _ kept).trans present) lender own
  | lent present borrows lent shows _ ih =>
    have stays := fun changed => Bool.eq_false_iff.mp (free _ changed) (isBorrowed_of_lender present borrows)
    exact .lent ((same _ kept).trans present) borrows ((same _ stays).trans lent) shows (ih stays)

end Traces

theorem Anchored.step (anchored : workspace.Anchored) (consistent : workspace.Holding ByteString.Consistent)
    (action : Action) : (workspace.step action).workspace.Anchored := by
  obtain ⟨_, unchanged⟩ | ⟨accepted, _⟩ := heap_of_step consistent action
  · rw [unchanged]
    exact anchored
  have carried := carried_of_accepted accepted
  have same (other : Nat) (kept : other ∉ action.changes) :
      (workspace.step action).workspace.held? other = workspace.held? other :=
    held?_step_of_not_changes action kept
  intro index held present
  by_cases changed : index ∈ action.changes
  · cases carried.placed_of_held? changed present with
    | literal success => exact ⟨index, .own present rfl (ByteString.ownership_of_ofText? success)⟩
    | bytes => exact ⟨index, .own present rfl nofun⟩
    | empty => exact ⟨index, .own present rfl nofun⟩
    | moved target before =>
      obtain ⟨holder, traces⟩ := anchored _ _ before
      cases traces with
      | own before' lender own =>
        rw [before] at before'
        obtain rfl := Option.some.inj before'
        exact ⟨index, .own present lender own⟩
      | lent before' borrows lent shows traces =>
        rw [before] at before'
        obtain rfl := Option.some.inj before'
        -- The borrow moves along with the alias, and what is borrowed was not changed by the move.
        have stays := fun change => Bool.eq_false_iff.mp (carried.free _ change)
          (isBorrowed_of_lender before borrows)
        exact ⟨holder, .lent present borrows ((same _ stays).trans lent) shows
          (traces.frame same carried.free stays)⟩
    | emptied => exact ⟨index, .own present rfl nofun⟩
    | shown lent apart =>
      obtain ⟨holder, traces⟩ := anchored _ _ lent
      have stays := fun change => apart (List.mem_singleton.mp change)
      exact ⟨holder, .lent present rfl ((same _ stays).trans lent) rfl
        (traces.frame same carried.free stays)⟩
    | copied before success =>
      have copied := ByteString.ownership_of_copy (consistent _ _ before) success
      exact ⟨index, .own present rfl copied⟩
  · obtain ⟨holder, traces⟩ := anchored index held ((same index changed).symm.trans present)
    exact ⟨holder, traces.frame same carried.free changed⟩

/-- In every reachable state aliases lead to strings that hold their data. -/
theorem Reachable.anchored {workspace : Workspace} (reachable : Reachable workspace) :
    workspace.Anchored := by
  induction reachable with
  | start count =>
    intro index held present
    simp at present
  | @repolicy workspace _ refuses ih =>
    intro index held present
    obtain ⟨holder, traces⟩ := ih index held present
    have same (other : Nat) (_ : other ∉ ([] : List Nat)) :
        (workspace.withPolicy refuses).held? other = workspace.held? other := rfl
    exact ⟨holder, traces.frame same nofun List.not_mem_nil⟩
  | step reached action ih => exact ih.step reached.consistent action

/-- In every reachable state no string starts at a block that has gone back. -/
theorem Reachable.isLive {workspace : Workspace} (reachable : Reachable workspace) {index number : Nat}
    {held : Variable} (present : workspace.held? index = some held)
    (address : held.string.address = some (.block number)) : workspace.heap.isLive number = true := by
  obtain ⟨holder, traces⟩ := reachable.anchored index held present
  obtain ⟨owner, owns, own, same⟩ := traces.holder_address present
  rw [address] at same
  obtain ⟨buffer, holds, block⟩ := owner.string.ownBuffer?_of_address own same
  have entry := List.mem_filterMap.mpr
    ⟨buffer, mem_owned_of_held? owns holds, Buffer.ownBlock?_of_block block⟩
  exact List.any_eq_true.mpr ⟨_, reachable.accounts.live.mem_iff.mpr entry, beq_self_eq_true number⟩

end Workspace

end OwnedText
