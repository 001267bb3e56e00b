import OwnedText.Proofs.Memory.Ownership

/-! # The ledger block by block

Read one block and one place at a time, the accounts of a heap say that a block is live exactly if a
place holds it, that no two places hold the same one, and that the live bytes are those of the buffers.
Dropping all holders, in any order, leaves nothing.
-/

namespace OwnedText

namespace Buffer

theorem ownBlock?_eq_some_iff {buffer : Buffer} {block : Block} :
    buffer.ownBlock? = some block ↔ buffer.block = some block.number ∧ buffer.length = block.size := by
  rw [ownBlock?, Option.map_eq_some_iff]
  constructor
  · rintro ⟨number, own, rfl⟩
    exact ⟨own, rfl⟩
  · rintro ⟨own, length⟩
    exact ⟨block.number, own, by rw [length]⟩

theorem length_pos_iff {buffer : Buffer} : 0 < buffer.length ↔ ∃ block, buffer.ownBlock? = some block := by
  have owns := buffer.owns_block
  rw [← Option.isSome_iff_exists, ownBlock?, Option.isSome_map, owns, length, List.length_pos_iff]
  simp

/-- An empty buffer has no entry in the ledger and no bytes, so entries and lengths add up alike. -/
private theorem sum_size_ownBlock? (buffers : List Buffer) :
    ((buffers.filterMap ownBlock?).map Block.size).sum = (buffers.map length).sum := by
  induction buffers with
  | nil => rfl
  | cons buffer rest ih =>
    rw [List.map_cons, List.sum_cons, ← ih]
    cases own : buffer.ownBlock? with
    | none =>
      have empty : buffer.length = 0 := by
        by_contra positive
        obtain ⟨block, present⟩ := length_pos_iff.mp (Nat.pos_of_ne_zero positive)
        rw [own] at present
        contradiction
      rw [List.filterMap_cons_none own, empty, Nat.zero_add]
    | some block =>
      rw [List.filterMap_cons_some own, List.map_cons, List.sum_cons, (ownBlock?_eq_some_iff.mp own).2]

end Buffer

namespace Workbench

variable {α : Type} {element : Element α}

/-- What each place holds: the slots, and behind them the bundles. -/
def places (bench : Workbench element) : List (Option Buffer) :=
  bench.slots ++ bench.bundles.map Bundle.data

theorem held_eq_filterMap_places (bench : Workbench element) : bench.held = bench.places.filterMap id := by
  rw [held, places, List.filterMap_append, List.filterMap_map]
  rfl

/-- A place holds a block if it holds a buffer that is not empty and lives in that block. -/
def Holds (bench : Workbench element) (place : Nat) (block : Block) : Prop :=
  ∃ buffer, bench.places[place]? = some (some buffer) ∧ 0 < buffer.length ∧
    buffer.block = some block.number ∧ buffer.length = block.size

theorem holds_iff {bench : Workbench element} {place : Nat} {block : Block} :
    bench.Holds place block ↔
      ∃ buffer, bench.places[place]? = some (some buffer) ∧ buffer.ownBlock? = some block := by
  constructor
  · rintro ⟨buffer, content, _, own⟩
    exact ⟨buffer, content, Buffer.ownBlock?_eq_some_iff.mpr own⟩
  · rintro ⟨buffer, content, own⟩
    exact ⟨buffer, content, Buffer.length_pos_iff.mpr ⟨block, own⟩, Buffer.ownBlock?_eq_some_iff.mp own⟩

/-- The heap knows of every block that is held, of no other, and of no misuse. -/
structure ExactLedger (bench : Workbench element) : Prop where
  live_iff : ∀ block, block ∈ bench.heap.live ↔ ∃ place, bench.Holds place block
  numbers : (bench.heap.live.map Block.number).Nodup
  holder_unique : ∀ place other block block', bench.Holds place block → bench.Holds other block' →
    block.number = block'.number → place = other
  nonempty_holds : ∀ place buffer, bench.places[place]? = some (some buffer) → 0 < buffer.length →
    ∃ block, bench.Holds place block
  bytes : bench.heap.byteCount = (bench.held.map Buffer.length).sum
  faultless : bench.heap.faults = 0

/-- Where chosen values are distinct, a value is chosen from one place only. -/
private theorem eq_of_nodup_filterMap {β γ : Type} {choose : β → Option γ} {items : List β}
    (distinct : (items.filterMap choose).Nodup) {i j : Nat} {a b : β} {c : γ} (first : items[i]? = some a)
    (second : items[j]? = some b) (chosen : choose a = some c) (chosen' : choose b = some c) : i = j := by
  obtain ⟨inside, rfl⟩ := List.getElem?_eq_some_iff.mp first
  obtain ⟨inside', rfl⟩ := List.getElem?_eq_some_iff.mp second
  have apart := List.pairwise_iff_getElem.mp (List.pairwise_filterMap.mp distinct)
  rcases Nat.lt_trichotomy i j with before | same | behind
  · exact absurd rfl (apart i j inside inside' before c chosen c chosen')
  · exact same
  · exact absurd rfl (apart j i inside' inside behind c chosen' c chosen)

section Exactness

variable {bench : Workbench element} (accounts : bench.heap.Accounts bench.held)
include accounts

private theorem mem_live_iff (block : Block) :
    block ∈ bench.heap.live ↔ ∃ place, bench.Holds place block := by
  rw [accounts.live.mem_iff, List.mem_filterMap]
  constructor
  · rintro ⟨buffer, member, own⟩
    rw [held_eq_filterMap_places, List.mem_filterMap] at member
    obtain ⟨content, member, rfl⟩ := member
    obtain ⟨place, present⟩ := List.mem_iff_getElem?.mp member
    exact ⟨place, holds_iff.mpr ⟨buffer, present, own⟩⟩
  · rintro ⟨place, holds⟩
    obtain ⟨buffer, present, own⟩ := holds_iff.mp holds
    refine ⟨buffer, ?_, own⟩
    rw [held_eq_filterMap_places, List.mem_filterMap]
    exact ⟨some buffer, List.mem_of_getElem? present, rfl⟩

/-- Two places that hold blocks of one number are one place. -/
private theorem place_eq_of_holds {place other : Nat} {block block' : Block} (first : bench.Holds place block)
    (second : bench.Holds other block') (same : block.number = block'.number) : place = other := by
  have distinct := accounts.distinct
  rw [(accounts.live.map Block.number).nodup_iff, held_eq_filterMap_places, List.filterMap_filterMap,
    List.map_filterMap] at distinct
  obtain ⟨buffer, content, own⟩ := holds_iff.mp first
  obtain ⟨buffer', content', own'⟩ := holds_iff.mp second
  refine eq_of_nodup_filterMap distinct content content' (?_ : _ = some block.number) ?_
  · simp [own]
  · simp [own', same]

private theorem byteCount_eq : bench.heap.byteCount = (bench.held.map Buffer.length).sum := by
  rw [Heap.byteCount_eq_sum, (accounts.live.map Block.size).sum_nat, Buffer.sum_size_ownBlock?]

theorem exactLedger_of_accounts : bench.ExactLedger where
  live_iff := mem_live_iff accounts
  numbers := accounts.distinct
  holder_unique _ _ _ _ := place_eq_of_holds accounts
  nonempty_holds place buffer content positive := by
    obtain ⟨block, own⟩ := Buffer.length_pos_iff.mp positive
    exact ⟨block, holds_iff.mpr ⟨buffer, content, own⟩⟩
  bytes := byteCount_eq accounts
  faultless := accounts.faultless

end Exactness

/-- In every reachable state the ledger is exact, and dropping all holders, in whatever order, leaves
neither blocks nor bytes. -/
theorem exactLedger_of_reachable {bench : Workbench element} (reachable : Reachable bench) :
    bench.ExactLedger ∧ ∀ order : List Buffer, order.Perm bench.held →
      (order.foldl Heap.drop bench.heap).blockCount = 0 ∧
        (order.foldl Heap.drop bench.heap).byteCount = 0 ∧
          (order.foldl Heap.drop bench.heap).faults = 0 := by
  have accounts := reachable.accounts
  refine ⟨exactLedger_of_accounts accounts, ?_⟩
  intro order same
  have ordered : bench.heap.Accounts (order ++ []) := by
    rw [List.append_nil]
    exact accounts.perm same.symm
  have cleared := ordered.dropAll
  refine ⟨?_, ?_, cleared.faultless⟩
  · rw [Heap.blockCount, cleared.live_eq_nil]
    rfl
  · rw [Heap.byteCount, cleared.live_eq_nil]
    rfl

/-- A bundle over one block, and a slot whose block went back when a larger one was refused. -/
theorem exactLedger_of_refused_resize :
    ∃ bench : Workbench (Element.unsigned 4),
      bench = (empty 2 1).run [.allocate 0 8, .assemble 0 0 2 Flags.empty, .allocate 1 4,
        .refuse 16, .resize 1 1 16] ∧
      bench.heap.live = [⟨0, 8⟩] ∧ bench.ExactLedger ∧
        ∀ order : List Buffer, order.Perm bench.held →
          (order.foldl Heap.drop bench.heap).blockCount = 0 ∧
            (order.foldl Heap.drop bench.heap).byteCount = 0 ∧
              (order.foldl Heap.drop bench.heap).faults = 0 :=
  ⟨_, rfl, rfl, exactLedger_of_reachable (Reachable.run (.start 2 1) _)⟩

end Workbench

end OwnedText
