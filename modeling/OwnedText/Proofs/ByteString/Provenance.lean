import OwnedText.Proofs.ByteString.Lending

/-! # Where data comes from

A string is made by a literal, by bytes or by a copy; moving it and making an alias of it hand the data
on. The past of a workspace is the list of all turns so far, the latest first, so a turn is named by the
past that ends with it. Two strings that are not blank share their data exactly if both come from the
same making by moves and aliases alone, wherever in memory the live data was put: makings get a serial
each, and what has a serial is handed on with it. Whoever also follows copies finds the content of the
string that he started from.
-/

namespace OwnedText

namespace ByteString

/-- Both views, length and flags of a string are those of another, and the strings are equal. -/
structure SameContent (string other : ByteString) : Prop where
  bytes : other.bytes = string.bytes
  length : other.length = string.length
  flags : other.flags = string.flags
  bytesWithNul : other.bytesWithNul = string.bytesWithNul
  agrees : other.agrees string = true

/-- The parts of two strings that moves, aliases and copies keep. -/
structure Alike (string other : ByteString) : Prop where
  counted : other.counted = string.counted
  length : other.length = string.length
  flags : other.flags = string.flags

variable {string other : ByteString}

private theorem alike_refl (string : ByteString) : string.Alike string := ⟨rfl, rfl, rfl⟩

theorem Alike.trans {third : ByteString} (first : string.Alike other) (second : other.Alike third) :
    string.Alike third :=
  ⟨second.counted.trans first.counted, second.length.trans first.length, second.flags.trans first.flags⟩

private theorem alike_aliasOf (string : ByteString) : string.Alike string.aliasOf :=
  ⟨by rw [counted, stored_aliasOf]; rfl, rfl, rfl⟩

theorem Consistent.alike_copy {heap : Heap} {copied : ByteString} (consistent : string.Consistent)
    (success : (string.copy heap).value = .ok copied) : string.Alike copied := by
  obtain ⟨_, length⟩ := consistent.stored_eq
  have ends := consistent.copying heap
  generalize string.copy heap = reply at ends success
  cases ends with
  | nothing zero =>
    cases success
    obtain ⟨none, _⟩ := string.copySize_eq_zero_iff.mp zero
    rw [none] at length
    exact ⟨(List.length_eq_zero_iff.mp length).symm, (UInt32.toNat_inj.mp none).symm, rfl⟩
  | failed => contradiction
  | copied _ _ _ buffer block bytes =>
    cases success
    refine ⟨?_, rfl, rfl⟩
    rw [counted, stored, Option.map_some, Option.getD_some, Storage.bytes, bytes]
    exact List.take_left' length

theorem Alike.sameContent (alike : string.Alike other) (consistent : string.Consistent)
    (consistent' : other.Consistent) : string.SameContent other := by
  have terminated : other.isNulTerminated = string.isNulTerminated := by
    rw [isNulTerminated, alike.flags, isNulTerminated]
  refine ⟨?_, alike.length, alike.flags, ?_, ?_⟩
  · rw [consistent'.bytes_eq, consistent.bytes_eq, alike.counted]
  · rw [consistent'.bytesWithNul_eq, consistent.bytesWithNul_eq, terminated, alike.counted]
  · rw [agrees, alike.counted]
    exact beq_self_eq_true _

/-- A literal starts at its source. -/
private theorem address_of_ofText? {source : Nat} {bytes : List UInt8}
    (success : ofText? source bytes = .ok string) : string.address = some (.source source) := by
  unfold ofText? at success
  split at success
  · contradiction
  · cases success
    unfold ofLiteral
    split <;> rfl

/-- A copy that holds anything starts at the block that the heap gave. -/
private theorem Consistent.address_of_copy {heap : Heap} {copied : ByteString}
    (consistent : string.Consistent) (success : (string.copy heap).value = .ok copied)
    (filled : copied.stored ≠ []) :
    copied.address = some (.block heap.next) ∧ (string.copy heap).heap.next = heap.next + 1 := by
  have ends := consistent.copying heap
  generalize string.copy heap = reply at ends success ⊢
  cases ends with
  | nothing =>
    cases success
    contradiction
  | failed => contradiction
  | copied _ _ _ buffer block =>
    cases success
    exact ⟨congrArg (Option.map Address.block) block, rfl⟩

end ByteString

@[simp] theorem Heap.next_release (heap : Heap) (content : Option Buffer) :
    (heap.release content).next = heap.next := by
  have touched (number : Nat) : (heap.discard number).next = heap.next := by
    unfold discard touching
    split <;> rfl
  unfold release
  split
  · rfl
  · unfold drop
    split
    · rfl
    · exact touched _

/-- Where in memory data lies. Every input has a place of its own, and so has every live block; a block
that has gone back may have left its place to another one. -/
structure Layout (heap : Heap) where
  place : Address → Nat
  sources : ∀ left right, place (.source left) = place (.source right) → left = right
  blocks : ∀ left right, heap.isLive left = true → heap.isLive right = true →
    place (.block left) = place (.block right) → left = right
  apart : ∀ source block, heap.isLive block = true → place (.source source) ≠ place (.block block)

/-- Places in a memory where none is used twice. -/
def Address.place : Address → Nat
  | .source number => 2 * number
  | .block number => 2 * number + 1

theorem Layout.nonempty (heap : Heap) : Nonempty (Layout heap) := by
  refine ⟨Address.place, ?_, ?_, ?_⟩
  · intro left right same
    simp only [Address.place] at same
    omega
  · intro left right _ _ same
    simp only [Address.place] at same
    omega
  · intro source block _ same
    simp only [Address.place] at same
    omega

namespace Workspace

/-- What happens to a workspace: the heap changes what it refuses, or an action is tried. -/
inductive Turn where
  | repolicy (refuses : Nat → Bool)
  | act (action : Action)

def after (workspace : Workspace) : Turn → Workspace
  | .repolicy refuses => workspace.withPolicy refuses
  | .act action => (workspace.step action).workspace

/-- The state that a past leads to, from as many unset variables as are given. The latest turn comes
first. -/
def ofPast (count : Nat) : List Turn → Workspace
  | [] => ofCount count
  | turn :: past => (ofPast count past).after turn

theorem Reachable.after {workspace : Workspace} (reachable : Reachable workspace) (turn : Turn) :
    Reachable (workspace.after turn) := by
  cases turn with
  | repolicy refuses => exact reachable.repolicy refuses
  | act action => exact reachable.step action

theorem reachable_ofPast (count : Nat) (past : List Turn) : Reachable (ofPast count past) := by
  induction past with
  | nil => exact .start count
  | cons turn past ih => exact ih.after turn

/-- Every reachable state has a past. -/
theorem Reachable.exists_past {workspace : Workspace} (reachable : Reachable workspace) :
    ∃ count past, workspace = ofPast count past := by
  induction reachable with
  | start count => exact ⟨count, [], rfl⟩
  | repolicy _ refuses ih =>
    obtain ⟨count, past, rfl⟩ := ih
    exact ⟨count, .repolicy refuses :: past, rfl⟩
  | step _ action ih =>
    obtain ⟨count, past, rfl⟩ := ih
    exact ⟨count, .act action :: past, rfl⟩

/-- A turn makes the string of a variable, from an input or by copying. -/
inductive Makes (workspace : Workspace) : Turn → Nat → Prop
  | literal {target : Nat} {bytes : List UInt8} (inside : target < workspace.cells.length)
    (accepted : (workspace.step (.literal target bytes)).response.isRefusal = false) :
    Makes workspace (.act (.literal target bytes)) target
  | bytes {target : Nat} {bytes : List UInt8} (inside : target < workspace.cells.length)
    (accepted : (workspace.step (.bytes target bytes)).response.isRefusal = false) :
    Makes workspace (.act (.bytes target bytes)) target
  | copy {source target : Nat} (inside : target < workspace.cells.length)
    (accepted : (workspace.step (.copy source target)).response.isRefusal = false) :
    Makes workspace (.act (.copy source target)) target

/-- After a turn, one variable holds the string that another held before, or an alias of it: it was
moved, an alias was made, or nothing happened to it. -/
inductive Hands (workspace : Workspace) : Turn → Nat → Nat → Prop
  | repolicy (refuses : Nat → Bool) (index : Nat) : Hands workspace (.repolicy refuses) index index
  | refused {action : Action} (index : Nat)
    (refusal : (workspace.step action).response.isRefusal = true) :
    Hands workspace (.act action) index index
  | kept {action : Action} {index : Nat}
    (accepted : (workspace.step action).response.isRefusal = false) (kept : index ∉ action.changes) :
    Hands workspace (.act action) index index
  | moved {source target : Nat} (inside : target < workspace.cells.length)
    (accepted : (workspace.step (.take source target)).response.isRefusal = false) :
    Hands workspace (.act (.take source target)) source target
  | aliased {lender target : Nat} (inside : target < workspace.cells.length)
    (accepted : (workspace.step (.aliasOf lender target)).response.isRefusal = false) :
    Hands workspace (.act (.aliasOf lender target)) lender target

/-- The string of a variable goes back to the making that ends `birth`, through moves and aliases. -/
inductive Descends (count : Nat) : (birth past : List Turn) → Nat → Prop
  | made {past : List Turn} {turn : Turn} {index : Nat} (makes : (ofPast count past).Makes turn index) :
    Descends count (turn :: past) (turn :: past) index
  | handed {birth past : List Turn} {turn : Turn} {source target : Nat}
    (descends : Descends count birth past source)
    (hands : (ofPast count past).Hands turn source target) : Descends count birth (turn :: past) target

/-- The string of `target` goes back to the one that `source` held after `earlier`, through moves,
aliases and copies. -/
inductive Derives (count : Nat) (earlier : List Turn) (source : Nat) : (past : List Turn) → Nat → Prop
  | itself : Derives count earlier source earlier source
  | handed {past : List Turn} {turn : Turn} {index target : Nat}
    (derives : Derives count earlier source past index)
    (hands : (ofPast count past).Hands turn index target) :
    Derives count earlier source (turn :: past) target
  | copied {past : List Turn} {index target : Nat} (derives : Derives count earlier source past index)
    (inside : target < (ofPast count past).cells.length)
    (accepted : ((ofPast count past).step (.copy index target)).response.isRefusal = false) :
    Derives count earlier source (.act (.copy index target) :: past) target

/-- The string that a making put in place. -/
inductive Born (count : Nat) : (birth : List Turn) → ByteString → Prop
  | made {past : List Turn} {turn : Turn} {target : Nat} {held : Variable}
    (makes : (ofPast count past).Makes turn target)
    (present : (ofPast count (turn :: past)).held? target = some held) :
    Born count (turn :: past) held.string

section Turns

variable {workspace : Workspace} {turn : Turn} {source target : Nat}

/-- What is handed on is the string itself or an alias of it. -/
theorem Hands.held? (hands : workspace.Hands turn source target) (reachable : Reachable workspace)
    {held : Variable} (present : workspace.held? source = some held) :
    ∃ held', (workspace.after turn).held? target = some held' ∧
      (held'.string = held.string ∨ held'.string = held.string.aliasOf) := by
  cases hands with
  | repolicy refuses => exact ⟨held, present, .inl rfl⟩
  | refused index refusal =>
    obtain ⟨_, unchanged⟩ | ⟨accepted, _⟩ := heap_of_step reachable.consistent _
    · rw [after, unchanged]
      exact ⟨held, present, .inl rfl⟩
    · rw [accepted] at refusal
      contradiction
  | kept accepted kept => exact ⟨held, (held?_step_of_not_changes _ kept).trans present, .inl rfl⟩
  | moved inside accepted =>
    exact ⟨held, (carried_of_accepted accepted).held?_of_placed (.moved target present) inside, .inl rfl⟩
  | aliased inside accepted =>
    have carried := carried_of_accepted accepted
    have apart : source ≠ target := beq_eq_false_iff_ne.mp carried.apart
    exact ⟨_, carried.held?_of_placed (.shown present apart) inside, .inr rfl⟩

/-- What a variable holds after a turn was handed on or made there, unless it is blank. -/
theorem hands_or_makes (reachable : Reachable workspace) {held : Variable}
    (present : (workspace.after turn).held? target = some held) (filled : held.string.stored ≠ []) :
    workspace.Makes turn target ∨
      ∃ source before, workspace.Hands turn source target ∧ workspace.held? source = some before ∧
        before.string.stored ≠ [] := by
  cases turn with
  | repolicy refuses => exact .inr ⟨target, held, .repolicy refuses target, present, filled⟩
  | act action =>
    obtain ⟨refusal, unchanged⟩ | ⟨accepted, _⟩ := heap_of_step reachable.consistent action
    · rw [after, unchanged] at present
      exact .inr ⟨target, held, .refused target refusal, present, filled⟩
    have inside := inside_of_held? present
    rw [after, length_cells_step] at inside
    by_cases changed : target ∈ action.changes
    · cases (carried_of_accepted accepted).placed_of_held? changed present with
      | literal => exact .inl (.literal inside accepted)
      | bytes => exact .inl (.bytes inside accepted)
      | copied => exact .inl (.copy inside accepted)
      | empty => exact absurd rfl filled
      | emptied => exact absurd rfl filled
      | moved _ before => exact .inr ⟨_, held, .moved inside accepted, before, filled⟩
      | shown before => exact .inr ⟨_, _, .aliased inside accepted, before, by simpa using filled⟩
    · have before := (held?_step_of_not_changes action changed).symm.trans present
      exact .inr ⟨target, held, .kept accepted changed, before, filled⟩

theorem Makes.exists_held (makes : workspace.Makes turn target) :
    ∃ held, (workspace.after turn).held? target = some held := by
  have placed (action : Action) (accepted : (workspace.step action).response.isRefusal = false)
      (inside : target < workspace.cells.length) (changed : target ∈ action.changes)
      (other : action ≠ .release target) : ∃ held, (workspace.after (.act action)).held? target = some held := by
    have carried := carried_of_accepted accepted
    obtain ⟨held, placed⟩ := (carried.exists_placed changed).resolve_right other
    exact ⟨held, carried.held?_of_placed placed inside⟩
  cases makes with
  | literal inside accepted => exact placed _ accepted inside List.mem_cons_self nofun
  | bytes inside accepted => exact placed _ accepted inside List.mem_cons_self nofun
  | copy inside accepted => exact placed _ accepted inside List.mem_cons_self nofun

/-- A turn makes at most one string. -/
theorem Makes.unique {other : Nat} (makes : workspace.Makes turn target)
    (makes' : workspace.Makes turn other) : target = other := by
  cases makes <;> cases makes' <;> rfl

@[simp] theorem nextSource_store (index : Nat) (content : Option Variable) :
    (workspace.store index content).nextSource = workspace.nextSource := by
  rw [store]
  split <;> rfl

@[simp] theorem next_store (index : Nat) (content : Option Variable) :
    (workspace.store index content).heap.next = workspace.heap.next := by
  have same (content : Option Variable) :
      (releaseContent workspace.heap content).next = workspace.heap.next := by
    rw [releaseContent_eq]
    exact Heap.next_release ..
  rw [store]
  split
  · exact same _
  · exact same _

private theorem next_copy {string : ByteString} (consistent : string.Consistent) (heap : Heap) :
    heap.next ≤ (string.copy heap).heap.next := by
  have ends := consistent.copying heap
  generalize string.copy heap = reply at ends ⊢
  cases ends with
  | nothing => exact Nat.le_refl _
  | failed => exact Nat.le_refl _
  | copied => exact Nat.le_succ _

/-- Serials of sources and blocks are never given back. -/
private theorem serials_after (reachable : Reachable workspace) (turn : Turn) :
    workspace.nextSource ≤ (workspace.after turn).nextSource ∧
      workspace.heap.next ≤ (workspace.after turn).heap.next := by
  cases turn with
  | repolicy refuses => exact ⟨Nat.le_refl _, Nat.le_refl _⟩
  | act action =>
    rw [after]
    obtain ⟨response, _, refused⟩ | ⟨_, performed⟩ := workspace.step_cases action
    · rw [refused]
      exact ⟨Nat.le_refl _, Nat.le_refl _⟩
    rw [performed]
    cases action with
    | refuse | compare | describe => exact ⟨Nat.le_refl _, Nat.le_refl _⟩
    | literal target bytes =>
      simp only [perform]
      split <;> simp
    | bytes target bytes => simp [perform]
    | take source target => simp [perform, set]
    | copy source target =>
      have grown := next_copy
        (reachable.consistent.shown ByteString.consistent_empty source) workspace.heap
      simp only [perform]
      split
      · exact ⟨Nat.le_refl _, grown⟩
      · simpa [withHeap] using grown
    | empty | aliasOf | release => simp [perform]

/-- The serial of an address is in use, or was. -/
def Issued (workspace : Workspace) : Address → Prop
  | .source number => number < workspace.nextSource
  | .block number => number < workspace.heap.next

theorem Issued.after {address : Address} (issued : workspace.Issued address)
    (reachable : Reachable workspace) (turn : Turn) : (workspace.after turn).Issued address := by
  obtain ⟨sources, blocks⟩ := serials_after reachable turn
  cases address with
  | source number => exact Nat.lt_of_lt_of_le issued sources
  | block number => exact Nat.lt_of_lt_of_le issued blocks

/-- What a turn makes, it makes at an address that was not issued before. -/
theorem Makes.issued (makes : workspace.Makes turn target) (reachable : Reachable workspace)
    {held : Variable} (present : (workspace.after turn).held? target = some held)
    (filled : held.string.stored ≠ []) :
    ∃ address, held.string.address = some address ∧ ¬workspace.Issued address ∧
      (workspace.after turn).Issued address := by
  cases makes with
  | @literal _ bytes inside accepted =>
    have carried := carried_of_accepted accepted
    cases carried.placed_of_held? List.mem_cons_self present with
    | literal success =>
      refine ⟨_, ByteString.address_of_ofText? success, Nat.lt_irrefl _, ?_⟩
      simp [after, Issued, carried.performed, perform, success]
  | @bytes _ bytes inside accepted =>
    have carried := carried_of_accepted accepted
    cases carried.placed_of_held? List.mem_cons_self present with
    | bytes =>
      refine ⟨_, rfl, Nat.lt_irrefl _, ?_⟩
      simp [after, Issued, carried.performed, perform]
  | @copy source _ inside accepted =>
    have carried := carried_of_accepted accepted
    cases carried.placed_of_held? List.mem_cons_self present with
    | copied before success =>
      have consistent := reachable.consistent _ _ before
      obtain ⟨address, next⟩ := consistent.address_of_copy success filled
      refine ⟨_, address, Nat.lt_irrefl _, ?_⟩
      simp [after, Issued, carried.performed, perform, shown_of_held? before, success, withHeap, next]

end Turns

section Pasts

variable {count : Nat} {birth past : List Turn} {index : Nat} {held : Variable}

theorem Descends.suffix (descends : Descends count birth past index) : birth <:+ past := by
  induction descends with
  | made => exact List.suffix_rfl
  | handed _ _ ih => exact ih.trans (List.suffix_cons _ _)

/-- Every string that is not blank goes back to a making. -/
theorem exists_descends (present : (ofPast count past).held? index = some held)
    (filled : held.string.stored ≠ []) : ∃ birth, Descends count birth past index := by
  induction past generalizing index held with
  | nil =>
    simp [ofPast] at present
  | cons turn past ih =>
    have reachable := reachable_ofPast count past
    obtain makes | ⟨source, before, hands, present, filled⟩ := hands_or_makes reachable present filled
    · exact ⟨_, .made makes⟩
    · obtain ⟨birth, descends⟩ := ih present filled
      exact ⟨birth, .handed descends hands⟩

/-- What goes back to a making lies where it was made, and stores what was made. -/
theorem Descends.born (descends : Descends count birth past index) :
    ∃ held made, (ofPast count past).held? index = some held ∧ Born count birth made ∧
      made.address = held.string.address ∧ made.stored = held.string.stored := by
  induction descends with
  | made makes =>
    obtain ⟨held, present⟩ := makes.exists_held
    exact ⟨held, held.string, present, .made makes present, rfl, rfl⟩
  | @handed _ past _ _ _ _ hands ih =>
    obtain ⟨held, made, present, born, address, stored⟩ := ih
    obtain ⟨held', present', same | shows⟩ := hands.held? (reachable_ofPast count past) present
    · exact ⟨held', made, present', born, by rw [address, same], by rw [stored, same]⟩
    · exact ⟨held', made, present', born, by simp [address, shows], by simp [stored, shows]⟩

theorem Born.unique {made other : ByteString} (born : Born count birth made)
    (born' : Born count birth other) : made = other := by
  cases born with
  | made makes present =>
    cases born' with
    | made makes' present' =>
      obtain rfl := makes.unique makes'
      rw [present] at present'
      rw [Option.some.inj present']

private theorem Issued.of_suffix {earlier : List Turn} {address : Address}
    (issued : (ofPast count earlier).Issued address) (suffix : earlier <:+ past) :
    (ofPast count past).Issued address := by
  induction past with
  | nil => exact List.suffix_nil.mp suffix ▸ issued
  | cons turn past ih =>
    obtain rfl | suffix := List.suffix_cons_iff.mp suffix
    · exact issued
    · exact (ih suffix).after (reachable_ofPast count past) turn

/-- Strings that were made at different turns, and are not blank, were made at different addresses. -/
theorem Born.address_ne {birth' : List Turn} {made made' : ByteString} (born : Born count birth made)
    (born' : Born count birth' made') (filled : made.stored ≠ []) (filled' : made'.stored ≠ [])
    (suffix : birth <:+ birth') (apart : birth ≠ birth') : made.address ≠ made'.address := by
  cases born with
  | @made past turn _ _ makes present =>
    cases born' with
    | @made past' _ _ _ makes' present' =>
      obtain ⟨address, starts, _, issued⟩ := makes.issued (reachable_ofPast count past) present filled
      obtain ⟨address', starts', fresh, _⟩ := makes'.issued (reachable_ofPast count past') present' filled'
      have issued : (ofPast count (turn :: past)).Issued address := issued
      have earlier := (List.suffix_cons_iff.mp suffix).resolve_left apart
      rw [starts, starts']
      intro same
      exact fresh (Option.some.inj same ▸ issued.of_suffix earlier)

/-- Two strings that are not blank start at the same address exactly if they go back to the same making. -/
theorem address_eq_iff {left right : Nat} {held' : Variable}
    (present : (ofPast count past).held? left = some held) (filled : held.string.stored ≠ [])
    (present' : (ofPast count past).held? right = some held') (filled' : held'.string.stored ≠ []) :
    held.string.address = held'.string.address ↔
      ∃ birth, Descends count birth past left ∧ Descends count birth past right := by
  constructor
  · intro same
    obtain ⟨birth, descends⟩ := exists_descends present filled
    obtain ⟨birth', descends'⟩ := exists_descends present' filled'
    obtain ⟨_, made, again, born, address, stored⟩ := descends.born
    obtain rfl := Option.some.inj (present.symm.trans again)
    obtain ⟨_, made', again', born', address', stored'⟩ := descends'.born
    obtain rfl := Option.some.inj (present'.symm.trans again')
    rw [← stored] at filled
    rw [← stored'] at filled'
    rw [← address, ← address'] at same
    refine ⟨birth, descends, ?_⟩
    -- Both makings lie in the same past, so one of two different ones came first.
    by_cases apart : birth = birth'
    · exact apart ▸ descends'
    · obtain suffix | suffix := List.suffix_or_suffix_of_suffix descends.suffix descends'.suffix
      · exact absurd same (born.address_ne born' filled filled' suffix apart)
      · exact absurd same.symm (born'.address_ne born filled' filled suffix (Ne.symm apart))
  · rintro ⟨birth, descends, descends'⟩
    obtain ⟨_, made, again, born, address, _⟩ := descends.born
    obtain rfl := Option.some.inj (present.symm.trans again)
    obtain ⟨_, made', again', born', address', _⟩ := descends'.born
    obtain rfl := Option.some.inj (present'.symm.trans again')
    rw [← address, ← address', born.unique born']

/-- What derives from a string has its content. -/
theorem Derives.alike {earlier : List Turn} {source target : Nat}
    (derives : Derives count earlier source past target)
    (present : (ofPast count earlier).held? source = some held) :
    ∃ held', (ofPast count past).held? target = some held' ∧ held.string.Alike held'.string := by
  induction derives with
  | itself => exact ⟨held, present, ByteString.alike_refl _⟩
  | @handed past _ _ _ _ hands ih =>
    obtain ⟨before, present, alike⟩ := ih
    obtain ⟨held', present', same | shows⟩ := hands.held? (reachable_ofPast count past) present
    · exact ⟨held', present', same ▸ alike⟩
    · exact ⟨held', present', shows ▸ alike.trans (ByteString.alike_aliasOf _)⟩
  | @copied past index target _ inside accepted ih =>
    obtain ⟨before, present, alike⟩ := ih
    obtain ⟨held', present'⟩ := Makes.exists_held (.copy inside accepted)
    cases (carried_of_accepted accepted).placed_of_held? List.mem_cons_self present' with
    | copied again success =>
      obtain rfl := Option.some.inj (present.symm.trans again)
      have consistent := (reachable_ofPast count past).consistent _ _ present
      exact ⟨_, present', alike.trans (consistent.alike_copy success)⟩

/-- Live data that starts at one place starts at one address. -/
theorem place_eq_iff {workspace : Workspace} (reachable : Reachable workspace)
    (layout : Layout workspace.heap) {left right : Nat} {held' : Variable}
    (present : workspace.held? left = some held) (present' : workspace.held? right = some held') :
    held.string.address.map layout.place = held'.string.address.map layout.place ↔
      held.string.address = held'.string.address := by
  constructor
  · intro same
    cases start : held.string.address with
    | none =>
      rw [start] at same
      exact (Option.map_eq_none_iff.mp same.symm).symm
    | some address =>
      cases start' : held'.string.address with
      | none =>
        rw [start, start'] at same
        contradiction
      | some address' =>
        rw [start, start'] at same
        have same := Option.some.inj same
        congr 1
        cases address with
        | source number =>
          cases address' with
          | source number' => exact congrArg _ (layout.sources _ _ same)
          | block number' => exact absurd same (layout.apart _ _ (reachable.isLive present' start'))
        | block number =>
          have live := reachable.isLive present start
          cases address' with
          | source number' => exact absurd same.symm (layout.apart _ _ live)
          | block number' =>
            exact congrArg _ (layout.blocks _ _ live (reachable.isLive present' start') same)
  · intro same
    rw [same]

/-- What a past says about the strings that it leads to. Wherever in memory the live data lies, two
strings that are not blank start at the same place exactly if they go back to the same making. What
derives from a string is like that one was, and a string that was moved leaves an empty one behind. -/
structure Provenance (count : Nat) (past : List Turn) : Prop where
  shares_iff : ∀ (layout : Layout (ofPast count past).heap) (left right : Nat) (held held' : Variable),
    (ofPast count past).held? left = some held → held.string.stored ≠ [] →
      (ofPast count past).held? right = some held' → held'.string.stored ≠ [] →
        (held.string.address.map layout.place = held'.string.address.map layout.place ↔
          ∃ birth, Descends count birth past left ∧ Descends count birth past right)
  derived : ∀ (earlier : List Turn) (source target : Nat) (held : Variable),
    (ofPast count earlier).held? source = some held → Derives count earlier source past target →
      ∃ held', (ofPast count past).held? target = some held' ∧ held.string.SameContent held'.string
  emptied : ∀ (source target : Nat), source ≠ target →
    ((ofPast count past).step (.take source target)).response.isRefusal = false →
      ∃ held, (ofPast count (.act (.take source target) :: past)).held? source = some held ∧
        held.string.data = none ∧ held.string.length = 0 ∧ held.string.flags = Flags.empty

/-- In every run data is shared along moves and aliases, and nowhere else. -/
theorem provenance (count : Nat) (past : List Turn) : Provenance count past := by
  have reachable := reachable_ofPast count past
  refine ⟨?_, ?_, ?_⟩
  · intro layout left right held held' present filled present' filled'
    rw [place_eq_iff reachable layout present present']
    exact address_eq_iff present filled present' filled'
  · intro earlier source target held present derives
    obtain ⟨held', present', alike⟩ := derives.alike present
    have consistent := (reachable_ofPast count earlier).consistent _ _ present
    exact ⟨held', present', alike.sameContent consistent (reachable.consistent _ _ present')⟩
  · intro source target apart accepted
    have carried := carried_of_accepted accepted
    obtain ⟨held, present⟩ := carried.present source List.mem_cons_self
    have emptied := carried.held?_of_placed (.emptied apart) (inside_of_held? present)
    exact ⟨_, emptied, rfl, rfl, rfl⟩

/-- A literal is copied, the copy is lent to an alias, and the literal is moved away. -/
def lentCopy : List Turn :=
  [.act (.take 0 3), .act (.aliasOf 1 2), .act (.copy 0 1), .act (.literal 0 [97, 98])]

/-- The copy and its alias share their data, the alias and the literal do not. The alias has the content of
the literal, and the first variable of the literal is empty by now. -/
theorem provenance_of_lentCopy :
    (∃ birth, Descends 4 birth lentCopy 1 ∧ Descends 4 birth lentCopy 2) ∧
      (¬ ∃ birth, Descends 4 birth lentCopy 2 ∧ Descends 4 birth lentCopy 3) ∧
      (∃ held, (ofPast 4 lentCopy).held? 2 = some held ∧
        ByteString.SameContent ⟨some (.literal 0 [97, 98, 0]), 2, .nulTerminated⟩ held.string) ∧
      ∃ held, (ofPast 4 lentCopy).held? 0 = some held ∧
        held.string.data = none ∧ held.string.length = 0 ∧ held.string.flags = Flags.empty := by
  obtain ⟨layout⟩ := Layout.nonempty (ofPast 4 lentCopy).heap
  have copy : (ofPast 4 lentCopy).held? 1 =
      some ⟨⟨some (.owned ⟨some 0, [97, 98, 0], rfl⟩), 2, .nulTerminated⟩, none⟩ := by decide +kernel
  have lent : (ofPast 4 lentCopy).held? 2 =
      some ⟨⟨some (.aliased (some (.block 0)) [97, 98, 0]), 2, .nulTerminated⟩, some 1⟩ := by decide +kernel
  have literal : (ofPast 4 lentCopy).held? 3 =
      some ⟨⟨some (.literal 0 [97, 98, 0]), 2, .nulTerminated⟩, none⟩ := by decide +kernel
  have shares_iff := (provenance 4 lentCopy).shares_iff layout
  refine ⟨?_, ?_, ?_, ?_⟩
  · exact (shares_iff 1 2 _ _ copy (List.cons_ne_nil _ _) lent (List.cons_ne_nil _ _)).mp rfl
  · intro shared
    have same := (shares_iff 2 3 _ _ lent (List.cons_ne_nil _ _) literal (List.cons_ne_nil _ _)).mpr shared
    have live : (ofPast 4 lentCopy).heap.isLive 0 = true := by decide +kernel
    exact layout.apart 0 0 live (Option.some.inj same).symm
  · have made : (ofPast 4 (lentCopy.drop 3)).held? 0 =
        some ⟨⟨some (.literal 0 [97, 98, 0]), 2, .nulTerminated⟩, none⟩ := by decide +kernel
    have copied : Derives 4 (lentCopy.drop 3) 0 (lentCopy.drop 2) 1 :=
      .copied .itself (by decide +kernel) (by decide +kernel)
    have shown : Derives 4 (lentCopy.drop 3) 0 (lentCopy.drop 1) 2 :=
      .handed copied (.aliased (by decide +kernel) (by decide +kernel))
    have kept : Derives 4 (lentCopy.drop 3) 0 lentCopy 2 :=
      .handed shown (.kept (by decide +kernel) (by decide))
    exact (provenance 4 lentCopy).derived _ 0 2 _ made kept
  · exact (provenance 4 (lentCopy.drop 1)).emptied 0 3 (by decide) (by decide +kernel)

end Pasts

end Workspace

end OwnedText
