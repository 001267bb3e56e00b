import OwnedText.ByteString.Workspace
import OwnedText.Proofs.ByteString.Consistency

/-! # Byte strings over whole runs

A state of a workspace is reachable if some sequence of actions leads to it, while the heap may change
at any moment what it refuses. An action that a borrow forbids changes nothing, so every sequence may
be tried. Whatever a run did, each string that a variable holds is consistent, and both of its views
are total.
-/

namespace OwnedText.Workspace

/-- From now on the heap refuses exactly the given sizes. -/
def withPolicy (workspace : Workspace) (refuses : Nat → Bool) : Workspace :=
  workspace.withHeap { workspace.heap with refuses := refuses }

/-- Some sequence of actions leads from unset variables to this state, under any pattern of refusals. -/
inductive Reachable : Workspace → Prop
  | start (count : Nat) : Reachable (ofCount count)
  | repolicy {workspace : Workspace} (reachable : Reachable workspace) (refuses : Nat → Bool) :
    Reachable (workspace.withPolicy refuses)
  | step {workspace : Workspace} (reachable : Reachable workspace) (action : Action) :
    Reachable (workspace.step action).workspace

theorem Reachable.run {workspace : Workspace} (reachable : Reachable workspace) (actions : List Action) :
    Reachable (workspace.run actions) := by
  induction actions generalizing workspace with
  | nil => exact reachable
  | cons action rest ih => exact ih (reachable.step action)

section Variables

variable (workspace : Workspace)

/-- What a variable holds is in its cell, and depends on nothing else. -/
@[simp] theorem held?_mk (heap : Heap) (nextSource index : Nat) :
    (⟨heap, nextSource, workspace.cells⟩ : Workspace).held? index = workspace.held? index := rfl

@[simp] theorem held?_withHeap (heap : Heap) (index : Nat) :
    (workspace.withHeap heap).held? index = workspace.held? index := rfl

@[simp] theorem cells_withHeap (heap : Heap) : (workspace.withHeap heap).cells = workspace.cells := by
  rw [withHeap]

@[simp] theorem length_cells_set (index : Nat) (content : Option Variable) :
    (workspace.set index content).cells.length = workspace.cells.length := List.length_set

@[simp] theorem length_cells_store (index : Nat) (content : Option Variable) :
    (workspace.store index content).cells.length = workspace.cells.length := by
  rw [store]
  split <;> simp

/-- A content that was put in place shows in its variable, and the other variables are as before. -/
theorem held?_set (index other : Nat) (content : Option Variable) :
    (workspace.set index content).held? other =
      if index = other ∧ index < workspace.cells.length then content else workspace.held? other := by
  unfold held? set
  rw [List.getElem?_set]
  by_cases same : index = other
  · subst same
    rcases Nat.lt_or_ge index workspace.cells.length with inside | outside
    · simp [inside]
    · simp [Nat.not_lt.mpr outside]
  · simp [same]

theorem held?_store (index other : Nat) (content : Option Variable) :
    (workspace.store index content).held? other =
      if index = other ∧ index < workspace.cells.length then content else workspace.held? other := by
  rw [store]
  split
  · simp [held?_set]
  · rename_i outside
    simp [outside]

section Held

variable {workspace} {index other : Nat} {content : Option Variable}

@[simp] theorem held?_set_self (inside : index < workspace.cells.length) :
    (workspace.set index content).held? index = content := by
  simp [held?_set, inside]

@[simp] theorem held?_set_of_ne (apart : index ≠ other) :
    (workspace.set index content).held? other = workspace.held? other := by
  simp [held?_set, apart]

@[simp] theorem held?_store_self (inside : index < workspace.cells.length) :
    (workspace.store index content).held? index = content := by
  simp [held?_store, inside]

@[simp] theorem held?_store_of_ne (apart : index ≠ other) :
    (workspace.store index content).held? other = workspace.held? other := by
  simp [held?_store, apart]

end Held

/-- At first all variables are unset. -/
@[simp] theorem held?_ofCount (count index : Nat) : (ofCount count).held? index = none := by
  rw [held?, ofCount, List.getElem?_replicate]
  split <;> rfl

/-- What a variable holds; the empty string if it is unset. -/
def shown (index : Nat) : ByteString := ((workspace.held? index).map Variable.string).getD ByteString.empty

end Variables

/-- Every string that a variable holds has the property. -/
def Holding (workspace : Workspace) (property : ByteString → Prop) : Prop :=
  ∀ index held, workspace.held? index = some held → property held.string

namespace Holding

variable {workspace : Workspace} {property : ByteString → Prop}

theorem set (holding : workspace.Holding property) (index : Nat) {content : Option Variable}
    (keeps : ∀ held, content = some held → property held.string) :
    (workspace.set index content).Holding property := by
  intro other held present
  rw [held?_set] at present
  split at present
  · exact keeps held present
  · exact holding other held present

theorem store (holding : workspace.Holding property) (index : Nat) {content : Option Variable}
    (keeps : ∀ held, content = some held → property held.string) :
    (workspace.store index content).Holding property := by
  intro other held present
  rw [held?_store] at present
  split at present
  · exact keeps held present
  · exact holding other held present

theorem store_some (holding : workspace.Holding property) (index : Nat) {string : ByteString}
    {lender : Option Nat} (keeps : property string) :
    (workspace.store index (some ⟨string, lender⟩)).Holding property :=
  holding.store index fun _ same => Option.some.inj same ▸ keeps

theorem shown (holding : workspace.Holding property) (empty : property .empty) (index : Nat) :
    property (workspace.shown index) := by
  rw [Workspace.shown]
  cases content : workspace.held? index with
  | none => exact empty
  | some held => exact holding index held content

end Holding

/-- The answers of an action that was not carried out. -/
def Response.isRefusal : Response → Bool
  | .unset | .borrowed | .interiorNul _ | .failed _ => true
  | .done | .moved _ | .copied | .compared _ | .described _ => false

/-- An action is refused, and then changes nothing, or carried out on variables that are set. -/
theorem step_cases (workspace : Workspace) (action : Action) :
    (∃ response, response.isRefusal = true ∧ workspace.step action = ⟨workspace, response, []⟩) ∨
      (∀ index ∈ action.reads, (workspace.held? index).isSome = true) ∧
        workspace.step action = workspace.perform workspace.shown action := by
  rw [step]
  split
  · exact .inl ⟨.unset, rfl, rfl⟩
  split
  · exact .inl ⟨.borrowed, rfl, rfl⟩
  · rename_i set _
    refine .inr ⟨?_, rfl⟩
    intro index member
    rw [← Option.not_isNone, Bool.not_eq_true']
    exact Bool.eq_false_iff.mpr fun unset => set (List.any_eq_true.mpr ⟨index, member, unset⟩)

/-- Every action keeps what every way to make a string keeps. -/
theorem Holding.step {workspace : Workspace} {property : ByteString → Prop}
    (holding : workspace.Holding property) (hereditary : ByteString.Hereditary property)
    (action : Action) : (workspace.step action).workspace.Holding property := by
  have shown := holding.shown hereditary.empty
  have numbered : Holding { workspace with nextSource := workspace.nextSource + 1 } property := holding
  have charged (heap : Heap) : (workspace.withHeap heap).Holding property := holding
  obtain ⟨response, _, refused⟩ | ⟨_, performed⟩ := workspace.step_cases action
  · rw [refused]
    exact holding
  rw [performed]
  cases action with
  | refuse size => exact holding
  | literal target bytes =>
    simp only [perform]
    split
    · exact holding
    · rename_i literal success
      exact numbered.store_some target (hereditary.text success)
  | bytes target bytes => exact numbered.store_some target (hereditary.bytes _ bytes)
  | empty target => exact holding.store_some target hereditary.empty
  | take source target =>
    have emptied := holding.set source fun held (same : some ⟨ByteString.empty, none⟩ = some held) =>
      Option.some.inj same ▸ hereditary.empty
    exact emptied.store_some target (shown source)
  | aliasOf lender target => exact holding.store_some target (hereditary.aliasOf (shown lender))
  | copy source target =>
    simp only [perform]
    split
    · exact holding
    · rename_i copied success
      exact (charged _).store_some target (hereditary.copy (shown source) success)
  | release source => exact holding.store source nofun
  | compare left right => exact holding
  | describe source => exact holding

/-- In every reachable state all strings have what every way to make one keeps. -/
theorem Reachable.holding {workspace : Workspace} (reachable : Reachable workspace)
    {property : ByteString → Prop} (hereditary : ByteString.Hereditary property) :
    workspace.Holding property := by
  induction reachable with
  | start count =>
    intro index held present
    simp at present
  | repolicy _ refuses ih => exact ih
  | step _ action ih => exact ih.step hereditary action

/-- In every reachable state all strings are consistent. -/
theorem Reachable.consistent {workspace : Workspace} (reachable : Reachable workspace) :
    workspace.Holding ByteString.Consistent := reachable.holding ByteString.hereditary_consistent

/-- In every reachable state the parts of each string agree and its views are total. -/
theorem represented_of_reachable {workspace : Workspace} (reachable : Reachable workspace) {index : Nat}
    {held : Variable} (present : workspace.held? index = some held) : held.string.Represented := by
  have consistent := reachable.consistent index held present
  refine ⟨consistent, held.string.counted, ?_, ?_, ?_⟩
  · exact consistent.bytes_eq
  · exact consistent.stored_eq.2
  · exact consistent.bytesWithNul_eq

/-- An alias of a copy of a terminated literal, made after a first copy was refused. -/
theorem represented_alias_of_copy :
    ∃ workspace held, workspace = (ofCount 3).run [.literal 0 [97, 98], .refuse 3, .copy 0 1, .refuse 0,
        .copy 0 1, .aliasOf 1 2] ∧
      workspace.held? 2 = some held ∧
      held.string.data = some (.aliased (some (.block 0)) [97, 98, 0]) ∧ held.string.Represented := by
  have present : ((ofCount 3).run [.literal 0 [97, 98], .refuse 3, .copy 0 1, .refuse 0, .copy 0 1,
      .aliasOf 1 2]).held? 2 =
        some ⟨⟨some (.aliased (some (.block 0)) [97, 98, 0]), 2, .nulTerminated⟩, some 1⟩ := by
    decide +kernel
  exact ⟨_, _, rfl, present, rfl, represented_of_reachable (.run (.start 3) _) present⟩

end OwnedText.Workspace
