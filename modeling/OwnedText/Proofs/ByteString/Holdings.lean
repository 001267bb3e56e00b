import OwnedText.Proofs.ByteString.Runs
import OwnedText.Proofs.Memory.Accounts

/-! # Only owned strings hold heap memory

Every owned string has a block of its own, and there are no other live blocks. A run keeps this, because
each action stores at most one new string in place of at most one old one: `heap_of_step` says what it
charges to the heap first and which string it releases then. So the heap can be read off the variables
at any moment, literals, aliases and empty strings cost nothing, and what is dropped goes back once.
-/

namespace OwnedText

namespace ByteString

/-- The buffer that a string owns, if it owns one. -/
def ownBuffer? (string : ByteString) : Option Buffer :=
  match string.data with
  | some (.owned buffer) => some buffer
  | _ => none

/-- The block that a string owns, if it owns one. -/
def ownBlock? (string : ByteString) : Option Block := string.ownBuffer?.bind Buffer.ownBlock?

private theorem release_eq (heap : Heap) (string : ByteString) :
    string.release heap = heap.release string.ownBuffer? := by
  rw [release, ownBuffer?]
  cases string.data with
  | none => rfl
  | some storage => cases storage <;> rfl

theorem ownership_of_ownBuffer? {string : ByteString} {buffer : Buffer}
    (own : string.ownBuffer? = some buffer) :
    string.data = some (.owned buffer) ∧ string.ownership = .owned := by
  unfold ownBuffer? at own
  split at own
  · rename_i data
    cases own
    exact ⟨data, by rw [ownership, data]⟩
  · contradiction

private theorem ownBuffer?_of_ownership {string : ByteString} (owned : string.ownership = .owned) :
    ∃ buffer, string.ownBuffer? = some buffer := by
  unfold ownership at owned
  split at owned <;> try contradiction
  rename_i buffer data
  exact ⟨buffer, by rw [ownBuffer?, data]⟩

/-- The parts of a string agree, and what it owns is in a block. -/
structure Housed (string : ByteString) : Prop extends string.Consistent where
  housed : ∀ buffer, string.ownBuffer? = some buffer → buffer.block.isSome = true

theorem Consistent.housed_of_none {string : ByteString} (consistent : string.Consistent)
    (nothing : string.ownBuffer? = none) : string.Housed := by
  refine ⟨consistent, ?_⟩
  intro buffer own
  rw [nothing] at own
  contradiction

theorem ownBuffer?_of_ofText? {source : Nat} {bytes : List UInt8} {string : ByteString}
    (success : ofText? source bytes = .ok string) : string.ownBuffer? = none := by
  unfold ofText? at success
  split at success
  · contradiction
  · cases success
    unfold ofLiteral
    split <;> rfl

@[simp] theorem ownBuffer?_aliasOf (string : ByteString) : string.aliasOf.ownBuffer? = none := by
  unfold aliasOf ownBuffer?
  cases string.data <;> rfl

theorem hereditary_housed : Hereditary Housed where
  empty := consistent_empty.housed_of_none rfl
  text success := (consistent_of_ofText? success).housed_of_none (ownBuffer?_of_ofText? success)
  bytes source bytes := (consistent_ofBytes source bytes).housed_of_none rfl
  aliasOf housed := housed.toConsistent.aliasOf.housed_of_none (ownBuffer?_aliasOf _)
  copy := by
    intro heap string copied housed success
    refine ⟨housed.toConsistent.of_copy success, ?_⟩
    have ends := housed.toConsistent.copying heap
    generalize string.copy heap = reply at ends success
    cases ends with
    | nothing => cases success; exact nofun
    | failed => contradiction
    | copied _ _ _ buffer block _ =>
      cases success
      rintro _ ⟨⟩
      rw [block]
      rfl

section Owning

variable {string : ByteString}

/-- The block of an owned string is where its data is, and holds the counted bytes and the terminator. -/
theorem Housed.ownBlock?_of_ownership (housed : string.Housed) (owned : string.ownership = .owned) :
    ∃ number, string.address = some (.block number) ∧
      string.ownBlock? = some ⟨number, string.copySize⟩ := by
  obtain ⟨buffer, own⟩ := ownBuffer?_of_ownership owned
  obtain ⟨data, _⟩ := ownership_of_ownBuffer? own
  obtain ⟨number, block⟩ := Option.isSome_iff_exists.mp (housed.housed buffer own)
  obtain ⟨stored, counted⟩ := housed.stored_eq
  have bytes : string.stored = buffer.bytes := by rw [ByteString.stored, data]; rfl
  have length : buffer.length = string.copySize := by
    rw [Buffer.length, ← bytes, stored, List.length_append, counted, copySize_eq]
  refine ⟨number, ?_, ?_⟩
  · simp [address, data, Storage.address, block]
  · rw [ownBlock?, own, Option.bind_some, Buffer.ownBlock?_of_block block, length]

private theorem ownBlock?_of_not_owned (other : string.ownership ≠ .owned) : string.ownBlock? = none := by
  have nothing : string.ownBuffer? = none := by
    cases own : string.ownBuffer? with
    | none => rfl
    | some buffer => exact absurd (ownership_of_ownBuffer? own).2 other
  rw [ownBlock?, nothing]
  rfl

/-- The blocks that strings own are as many as the owned strings, each as large as a copy of its string. -/
private theorem sizes_ownBlock? {strings : List ByteString} (housed : ∀ string ∈ strings, string.Housed) :
    (strings.filterMap ownBlock?).map Block.size =
      (strings.filter (·.ownership = .owned)).map copySize := by
  induction strings with
  | nil => rfl
  | cons string rest ih =>
    have others := ih fun other member => housed other (List.mem_cons_of_mem _ member)
    by_cases owned : string.ownership = .owned
    · obtain ⟨number, _, own⟩ := (housed string List.mem_cons_self).ownBlock?_of_ownership owned
      rw [List.filterMap_cons_some own, List.map_cons, others, List.filter_cons_of_pos (by simpa using owned)]
      rfl
    · rw [List.filterMap_cons_none (ownBlock?_of_not_owned owned), others,
        List.filter_cons_of_neg (by simpa using owned)]

/-- Copying charges the heap with the block that the copy owns, if any, and a failure with nothing. -/
theorem Consistent.accounts_copy {heap : Heap} {others : List Buffer} (consistent : string.Consistent)
    (accounts : heap.Accounts others) : (string.copy heap).heap.Accounts
      (((string.copy heap).value.toOption.bind ownBuffer?).toList ++ others) := by
  have ends := consistent.copying heap
  generalize string.copy heap = reply at ends ⊢
  cases ends with
  | nothing => exact accounts
  | failed => exact accounts
  | copied _ _ _ buffer block bytes =>
    refine accounts.adding block ?_
    rw [Buffer.length, bytes, List.length_append, consistent.stored_eq.2, copySize_eq]

end Owning

end ByteString

namespace Workspace

/-- The strings that the variables hold. -/
def strings (workspace : Workspace) : List ByteString :=
  workspace.cells.filterMap (Option.map Variable.string)

/-- The strings that own their data. -/
def ownedStrings (workspace : Workspace) : List ByteString :=
  workspace.strings.filter (·.ownership = .owned)

/-- The buffer that a content owns, if it owns one. -/
def ownBuffer? (content : Option Variable) : Option Buffer :=
  content.bind fun held => held.string.ownBuffer?

/-- The buffers that the variables own. -/
def owned (workspace : Workspace) : List Buffer := workspace.cells.filterMap ownBuffer?

theorem releaseContent_eq (heap : Heap) (content : Option Variable) :
    releaseContent heap content = heap.release (ownBuffer? content) := by
  cases content with
  | none => rfl
  | some held => exact held.string.release_eq heap

section Places

variable {workspace : Workspace}

private theorem ownBuffer?_shown (index : Nat) :
    (workspace.shown index).ownBuffer? = ownBuffer? (workspace.held? index) := by
  unfold shown
  cases workspace.held? index <;> rfl

/-- The buffers owned, with the one of a variable in front. -/
theorem owned_perm (index : Nat) (absent : Option Variable) (nothing : ownBuffer? absent = none) :
    workspace.owned.Perm
      ((ownBuffer? (workspace.held? index)).toList ++ (workspace.set index absent).owned) := by
  have same : ownBuffer? ((workspace.cells[index]?).getD absent) = ownBuffer? (workspace.held? index) := by
    unfold held?
    cases workspace.cells[index]? with
    | none => exact nothing
    | some content => rfl
  exact same ▸ filterMap_perm_getD ownBuffer? _ absent nothing index

/-- Storing a content gives it a holder and releases what was in its place, or the content itself if
there is no such place. -/
theorem accounts_store {content : Option Variable} (index : Nat)
    (accounts : workspace.heap.Accounts ((ownBuffer? content).toList ++ workspace.owned)) :
    (workspace.store index content).heap.Accounts (workspace.store index content).owned := by
  rw [store]
  split
  · rename_i present
    have added := filterMap_set_perm ownBuffer? _ none content rfl present
    rw [releaseContent_eq]
    exact accounts.exchange (workspace.owned_perm index none rfl) added
  · rw [releaseContent_eq]
    exact accounts.release

/-- A content that owns nothing costs nothing. -/
theorem accounts_store_of_none {content : Option Variable} (index : Nat)
    (accounts : workspace.heap.Accounts workspace.owned) (nothing : ownBuffer? content = none) :
    (workspace.store index content).heap.Accounts (workspace.store index content).owned := by
  refine accounts_store index ?_
  rw [nothing]
  exact accounts

end Places

/-- Every action keeps the heap accounting for what the variables own. -/
theorem accounts_step {workspace : Workspace} (accounts : workspace.heap.Accounts workspace.owned)
    (consistent : workspace.Holding ByteString.Consistent) (action : Action) :
    (workspace.step action).workspace.heap.Accounts (workspace.step action).workspace.owned := by
  have numbered : Heap.Accounts { workspace with nextSource := workspace.nextSource + 1 }.heap
      { workspace with nextSource := workspace.nextSource + 1 }.owned := accounts
  obtain ⟨response, _, refused⟩ | ⟨_, performed⟩ := workspace.step_cases action
  · rw [refused]
    exact accounts
  rw [performed]
  cases action with
  | refuse size => exact accounts.withPolicy _
  | literal target bytes =>
    simp only [perform]
    split
    · exact accounts
    · rename_i literal success
      exact accounts_store_of_none target numbered (ByteString.ownBuffer?_of_ofText? success)
  | bytes target bytes => exact accounts_store_of_none target numbered rfl
  | empty target => exact accounts_store_of_none target accounts rfl
  | take source target =>
    have apart := accounts.perm (workspace.owned_perm source (some ⟨ByteString.empty, none⟩) rfl)
    rw [← ownBuffer?_shown] at apart
    exact accounts_store target apart
  | aliasOf lender target =>
    exact accounts_store_of_none target accounts (ByteString.ownBuffer?_aliasOf _)
  | copy source target =>
    have charged := (consistent.shown ByteString.consistent_empty source).accounts_copy accounts
    simp only [perform]
    split
    · rename_i cause failure
      rwa [failure] at charged
    · rename_i copied success
      rw [success] at charged
      exact accounts_store target charged
  | release source => exact accounts_store_of_none source accounts rfl
  | compare left right => exact accounts
  | describe source => exact accounts

/-- Whatever a run did, and whatever the heap refused, the heap accounts for what the variables own. -/
theorem Reachable.accounts {workspace : Workspace} (reachable : Reachable workspace) :
    workspace.heap.Accounts workspace.owned := by
  induction reachable with
  | start count =>
    have nothing : (ofCount count).owned = [] := by
      simp [owned, ofCount, ownBuffer?]
    rw [nothing]
    exact Heap.accounts_empty
  | repolicy _ refuses ih => exact ih.withPolicy refuses
  | step reached action ih => exact accounts_step ih reached.consistent action

/-- As many blocks are live as strings are owned, and as many bytes as those strings count, with one more
for each terminator; nothing was given back that was not live. -/
structure Balanced (workspace : Workspace) : Prop where
  blocks : workspace.heap.blockCount = workspace.ownedStrings.length
  bytes : workspace.heap.byteCount = (workspace.ownedStrings.map fun string =>
    string.length.toNat + if string.isNulTerminated then 1 else 0).sum
  faultless : workspace.heap.faults = 0

private theorem Holding.of_mem_strings {workspace : Workspace} {property : ByteString → Prop}
    (holding : workspace.Holding property) : ∀ string ∈ workspace.strings, property string := by
  intro string member
  obtain ⟨content, present, shows⟩ := List.mem_filterMap.mp member
  obtain ⟨held, rfl, rfl⟩ := Option.map_eq_some_iff.mp shows
  obtain ⟨index, present⟩ := List.mem_iff_getElem?.mp present
  exact holding index held (by rw [held?, present]; rfl)

private theorem filterMap_owned (workspace : Workspace) :
    workspace.owned.filterMap Buffer.ownBlock? = workspace.strings.filterMap ByteString.ownBlock? := by
  rw [owned, strings, List.filterMap_filterMap, List.filterMap_filterMap]
  congr 1
  funext content
  cases content <;> rfl

/-- In every reachable state the heap is that of the owned strings. -/
theorem Reachable.balanced {workspace : Workspace} (reachable : Reachable workspace) :
    workspace.Balanced := by
  have accounts := reachable.accounts
  have housed := (reachable.holding ByteString.hereditary_housed).of_mem_strings
  have live := accounts.live
  rw [filterMap_owned] at live
  have sizes := live.map Block.size
  rw [ByteString.sizes_ownBlock? housed] at sizes
  refine ⟨?_, ?_, accounts.faultless⟩
  · rw [Heap.blockCount, ← List.length_map Block.size, sizes.length_eq, List.length_map, ownedStrings]
  · rw [Heap.byteCount_eq_sum, sizes.sum_nat]
    rfl

section Steps

/-- The action asks the heap for memory, or changes what it refuses. -/
def Action.addressesHeap : Action → Bool
  | .refuse _ | .copy .. => true
  | .literal .. | .bytes .. | .empty _ | .take .. | .aliasOf .. | .release _ => false
  | .compare .. | .describe _ => false

/-- The variable whose string an action overwrites or releases. A string that is moved onto its own
variable stays. -/
def Action.ends : Action → Option Nat
  | .refuse _ | .compare .. | .describe _ => none
  | .literal target _ | .bytes target _ | .empty target | .aliasOf _ target | .copy _ target => some target
  | .take source target => if source = target then none else some target
  | .release source => some source

/-- What an action overwrites or releases. -/
def ended? (workspace : Workspace) (action : Action) : Option Variable := action.ends.bind workspace.held?

/-- The heap once an action has got what it asks for, before anything is released. -/
def charged (workspace : Workspace) : Action → Heap
  | .refuse size => workspace.heap.refusing size
  | .copy source _ => ((workspace.shown source).copy workspace.heap).heap
  | _ => workspace.heap

/-- The block that an action gets if it is carried out. -/
def made? (workspace : Workspace) : Action → Option Block
  | .copy source _ =>
    if (workspace.shown source).copySize = 0 then none
    else some ⟨workspace.heap.next, (workspace.shown source).copySize⟩
  | _ => none

theorem heap_store {workspace : Workspace} {index : Nat} (content : Option Variable)
    (present : index < workspace.cells.length) :
    (workspace.store index content).heap = releaseContent workspace.heap (workspace.held? index) := by
  rw [store, if_pos present]
  rfl

/-- Moving a string into a variable releases what was there, and nothing if it was there itself. -/
private theorem heap_take {workspace : Workspace} {source target : Nat} (content : Option Variable)
    (present : source < workspace.cells.length) (present' : target < workspace.cells.length) :
    ((workspace.set source (some ⟨ByteString.empty, none⟩)).store target content).heap =
      releaseContent workspace.heap (workspace.ended? (.take source target)) := by
  have place : target < (workspace.set source (some ⟨ByteString.empty, none⟩)).cells.length := by
    rwa [set, List.length_set]
  rw [heap_store content place, held?_set, ended?, Action.ends]
  -- the source is emptied first, so it is an empty string that a move onto itself overwrites
  by_cases same : source = target
  · rw [if_pos ⟨same, present⟩, if_pos same]
    rfl
  · rw [if_neg fun both => same both.1, if_neg same]
    rfl

/-- A refused action changes nothing. Any other gets the block it asks for, and releases one content. -/
theorem heap_of_step {workspace : Workspace} (consistent : workspace.Holding ByteString.Consistent)
    (action : Action) :
    (workspace.step action).response.isRefusal = true ∧ (workspace.step action).workspace = workspace ∨
      (workspace.step action).response.isRefusal = false ∧
        (workspace.charged action).live = (workspace.made? action).toList ++ workspace.heap.live ∧
          ((∀ index ∈ action.changes, index < workspace.cells.length) →
            (workspace.step action).workspace.heap =
              releaseContent (workspace.charged action) (workspace.ended? action)) := by
  obtain ⟨response, refusal, refused⟩ | ⟨_, performed⟩ := workspace.step_cases action
  · rw [refused]
    exact .inl ⟨refusal, rfl⟩
  rw [performed]
  cases action with
  | refuse size => exact .inr ⟨rfl, rfl, fun _ => rfl⟩
  | literal target bytes =>
    simp only [perform]
    split
    · exact .inl ⟨rfl, rfl⟩
    · exact .inr ⟨rfl, rfl, fun places => heap_store _ (places target List.mem_cons_self)⟩
  | bytes target bytes =>
    exact .inr ⟨rfl, rfl, fun places => heap_store _ (places target List.mem_cons_self)⟩
  | empty target =>
    exact .inr ⟨rfl, rfl, fun places => heap_store _ (places target List.mem_cons_self)⟩
  | take source target =>
    refine .inr ⟨rfl, rfl, fun places => ?_⟩
    have present := places source (List.mem_cons_of_mem _ List.mem_cons_self)
    exact heap_take _ present (places target List.mem_cons_self)
  | aliasOf lender target =>
    exact .inr ⟨rfl, rfl, fun places => heap_store _ (places target List.mem_cons_self)⟩
  | copy source target =>
    have ends := (consistent.shown ByteString.consistent_empty source).copying workspace.heap
    simp only [perform, charged, made?]
    generalize (workspace.shown source).copy workspace.heap = reply at ends ⊢
    cases ends with
    | nothing zero =>
      rw [if_pos zero]
      exact .inr ⟨rfl, rfl, fun places => heap_store _ (places target List.mem_cons_self)⟩
    | failed => exact .inl ⟨rfl, rfl⟩
    | copied positive =>
      rw [if_neg (Nat.ne_of_gt positive)]
      exact .inr ⟨rfl, rfl, fun places => heap_store _ (places target List.mem_cons_self)⟩
  | release source =>
    exact .inr ⟨rfl, rfl, fun places => heap_store _ (places source List.mem_cons_self)⟩
  | compare left right => exact .inr ⟨rfl, rfl, fun _ => rfl⟩
  | describe source => exact .inr ⟨rfl, rfl, fun _ => rfl⟩

private theorem accounts_charged {workspace : Workspace}
    (accounts : workspace.heap.Accounts workspace.owned)
    (consistent : workspace.Holding ByteString.Consistent) (action : Action) :
    ∃ made : List Buffer, (workspace.charged action).Accounts (made ++ workspace.owned) := by
  cases action with
  | refuse size => exact ⟨[], accounts.withPolicy _⟩
  | copy source target =>
    exact ⟨_, (consistent.shown ByteString.consistent_empty source).accounts_copy accounts⟩
  | _ => exact ⟨[], accounts⟩

/-- Releasing what an action ends removes its block from the ledger, if it has one, and no other. -/
private theorem live_perm_releaseContent {workspace : Workspace}
    (accounts : workspace.heap.Accounts workspace.owned)
    (consistent : workspace.Holding ByteString.Consistent) (action : Action) :
    (workspace.charged action).live.Perm
      (((workspace.ended? action).bind fun held => held.string.ownBlock?).toList ++
        (releaseContent (workspace.charged action) (workspace.ended? action)).live) := by
  have own : ((workspace.ended? action).bind fun held => held.string.ownBlock?) =
      (ownBuffer? (workspace.ended? action)).bind Buffer.ownBlock? := by
    cases workspace.ended? action <;> rfl
  obtain ⟨made, charged⟩ := accounts_charged accounts consistent action
  rw [own, releaseContent_eq]
  cases ends : action.ends with
  | none =>
    rw [ended?, ends]
    exact .refl _
  | some index =>
    rw [ended?, ends]
    have apart := (workspace.owned_perm index none rfl).append_left made
    exact (charged.perm (apart.trans (List.perm_append_comm_assoc ..))).live_perm_release

/-- What an action that was carried out did to the heap. If it ended no owned string, all blocks are still
there, besides the one that it asked for; if it asked for none, the heap is the same. If it ended an
owned string, the block of that string has gone, once, and no other. -/
structure Settles (workspace : Workspace) (action : Action) : Prop where
  same : action.addressesHeap = false →
    (∀ held, workspace.ended? action = some held → held.string.ownership ≠ .owned) →
      (workspace.step action).workspace.heap = workspace.heap
  kept : (∀ held, workspace.ended? action = some held → held.string.ownership ≠ .owned) →
    (workspace.step action).workspace.heap.live = (workspace.made? action).toList ++ workspace.heap.live
  freed : ∀ held, workspace.ended? action = some held → held.string.ownership = .owned →
    ∃ number, held.string.address = some (.block number) ∧
      ((workspace.made? action).toList ++ workspace.heap.live).Perm
        (⟨number, held.string.length.toNat + if held.string.isNulTerminated then 1 else 0⟩ ::
          (workspace.step action).workspace.heap.live)

private theorem charged_of_not_addressesHeap {workspace : Workspace} {action : Action}
    (silent : action.addressesHeap = false) : workspace.charged action = workspace.heap := by
  cases action <;> first | rfl | contradiction

/-- Releasing a content that owns nothing leaves the heap as it is. -/
theorem releaseContent_of_not_owned {content : Option Variable} (heap : Heap)
    (other : ∀ held, content = some held → held.string.ownership ≠ .owned) :
    releaseContent heap content = heap := by
  rw [releaseContent_eq]
  cases own : ownBuffer? content with
  | none => rfl
  | some buffer =>
    obtain ⟨held, rfl, own⟩ := Option.bind_eq_some_iff.mp own
    exact absurd (ByteString.ownership_of_ownBuffer? own).2 (other held rfl)

/-- An action of a reachable state that is carried out settles what it has begun. -/
theorem Reachable.settles {workspace : Workspace} (reachable : Reachable workspace) {action : Action}
    (places : ∀ index ∈ action.changes, index < workspace.cells.length)
    (carried : (workspace.step action).response.isRefusal = false) : workspace.Settles action := by
  have housed := reachable.holding ByteString.hereditary_housed
  obtain ⟨refusal, _⟩ | ⟨_, made, heap⟩ := heap_of_step reachable.consistent action
  · rw [refusal] at carried
    contradiction
  have released := heap places
  refine ⟨?_, ?_, ?_⟩
  · intro silent other
    rw [released, releaseContent_of_not_owned _ other, charged_of_not_addressesHeap silent]
  · intro other
    rw [released, releaseContent_of_not_owned _ other, made]
  · intro held ends owned
    obtain ⟨index, _, present⟩ := Option.bind_eq_some_iff.mp ends
    obtain ⟨number, address, own⟩ := (housed index held present).ownBlock?_of_ownership owned
    have balance := live_perm_releaseContent reachable.accounts reachable.consistent action
    rw [made, ← released, ends, Option.bind_some, own] at balance
    exact ⟨number, address, balance⟩

end Steps

/-- Dropping contents one after the other is dropping the buffers that they own. -/
private theorem foldl_releaseContent (heap : Heap) (contents : List (Option Variable)) :
    contents.foldl releaseContent heap = (contents.filterMap ownBuffer?).foldl Heap.drop heap := by
  induction contents generalizing heap with
  | nil => rfl
  | cons content rest ih =>
    rw [List.foldl_cons, ih, releaseContent_eq]
    cases own : ownBuffer? content with
    | none => rw [List.filterMap_cons_none own]; rfl
    | some buffer => rw [List.filterMap_cons_some own]; rfl

/-- Only owned strings hold heap memory. The heap is balanced; an action that is refused, such as a copy
that gets no memory, changes nothing, and one that is carried out frees the block of the string that it
ends, if that one is owned. Dropping all variables, in whatever order, leaves neither blocks nor bytes. -/
structure OwnedOnly (workspace : Workspace) : Prop extends workspace.Balanced where
  refused : ∀ action, (workspace.step action).response.isRefusal = true →
    (workspace.step action).workspace = workspace
  carried : ∀ action, (∀ index ∈ action.changes, index < workspace.cells.length) →
    (workspace.step action).response.isRefusal = false → workspace.Settles action
  dropped : ∀ order : List (Option Variable), order.Perm workspace.cells →
    (order.foldl releaseContent workspace.heap).blockCount = 0 ∧
      (order.foldl releaseContent workspace.heap).byteCount = 0 ∧
        (order.foldl releaseContent workspace.heap).faults = 0

/-- In every reachable state only owned strings hold heap memory. -/
theorem ownedOnly_of_reachable {workspace : Workspace} (reachable : Reachable workspace) :
    workspace.OwnedOnly := by
  refine ⟨reachable.balanced, ?_, fun _ => reachable.settles, ?_⟩
  · intro action refusal
    obtain ⟨_, unchanged⟩ | ⟨carried, _⟩ := heap_of_step reachable.consistent action
    · exact unchanged
    · rw [refusal] at carried
      contradiction
  · intro order same
    have ordered : workspace.heap.Accounts (order.filterMap ownBuffer? ++ []) := by
      rw [List.append_nil]
      exact reachable.accounts.perm (same.filterMap _).symm
    have cleared := ordered.dropAll
    rw [foldl_releaseContent]
    refine ⟨?_, ?_, cleared.faultless⟩
    · rw [Heap.blockCount, cleared.live_eq_nil]
      rfl
    · rw [Heap.byteCount, cleared.live_eq_nil]
      rfl

/-- A copy that replaced another one and was moved onto itself, before a third was refused. -/
theorem ownedOnly_of_replaced_copy :
    ∃ workspace, workspace = (ofCount 3).run [.literal 0 [97, 98], .copy 0 1, .aliasOf 1 2, .release 2,
        .copy 0 1, .take 1 1, .refuse 3, .copy 1 2] ∧
      workspace.heap.live = [⟨1, 3⟩] ∧ workspace.ownedStrings.length = 1 ∧ workspace.OwnedOnly :=
  ⟨_, rfl, by decide +kernel, by decide +kernel, ownedOnly_of_reachable (.run (.start 3) _)⟩

end Workspace

end OwnedText
