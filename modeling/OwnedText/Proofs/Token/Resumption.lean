import Mathlib.Data.List.ReduceOption
import OwnedText.Proofs.Token.Places
import OwnedText.Token.Session

/-! # Reading goes on where it stopped

In a session any number of tokenizers are read and cloned in any order. Each of them has a history: the
answers to its own calls, behind those that the tokenizer it was cloned from had given until then. A
tokenizer carries nothing over from one call to the next but its places, and those are determined by its
history. So every tokenizer goes through the tokens of the source one after the other, whatever is done
to the others in between.
-/

namespace OwnedText

namespace Tokenizer

/-- At the end of the source nothing moves but the mark. -/
theorem read_at_end {tokenizer : Tokenizer} (ended : tokenizer.rest = []) :
    tokenizer.read = (none, { tokenizer with mark := tokenizer.cursor }) := by
  obtain ⟨rest, cursor⟩ := tokenizer.scanned_follows
  rw [ended] at rest
  obtain ⟨taken, rest⟩ := List.append_eq_nil_iff.mp rest.symm
  rw [taken] at cursor
  rw [List.reverse_eq_nil_iff] at taken
  refine Prod.ext (read_of_nil ended) ?_
  simp only [read, moved, rest, cursor, ended]
  rfl

end Tokenizer

namespace Session

/-- The answers that a tokenizer has given, the latest one last. -/
abbrev History := List (Option Token)

/-- What the tokenizers have answered up to a move, and with it: an answer goes to the tokenizer that
was read, and a clone has the history of the tokenizer it was made from. -/
def Move.record (answer : Option Token) (histories : List History) : Move → List History
  | .read index => histories.modify index (· ++ [answer])
  | .clone index => histories ++ (histories[index]?).toList

/-- What the tokenizers have answered once all moves are carried out. -/
def record (session : Session) (histories : List History) : List Move → List History
  | [] => histories
  | move :: rest =>
    (session.step move).2.record (move.record (session.step move).1 histories) rest

/-- The histories of the tokenizers of a source, at first of one that was never called. -/
def histories (source : List Char) (moves : List Move) : List History :=
  (ofSource source).record [[]] moves

/-- The mark of a tokenizer: where the token starts that the latest call has found, the cursor if it has
found none, and the start of the source before the first call. -/
def latestStart (cursor : Position) (history : History) : Position :=
  match history.getLast? with
  | none => .origin
  | some none => cursor
  | some (some token) => token.start

/-- A tokenizer stands where its history has led it: what it has found and what is ahead of it are
together the tokens of the source. -/
structure Upholds (source : List Char) (history : History) (tokenizer : Tokenizer) : Prop where
  same : tokenizer.source = source
  tokens : tokenize source =
    history.reduceOption ++ placed tokenizer.cursor (tokenizer.rest.splitBy joins)
  mark : tokenizer.mark = latestStart tokenizer.cursor history
  ended : none ∈ history → tokenizer.rest = [] ∧ history.getLast? = some none

namespace Upholds

variable {source : List Char} {history : History} {tokenizer : Tokenizer}

theorem start (source : List Char) : Upholds source [] (.ofSource source) :=
  ⟨rfl, tokenize_eq source, rfl, by simp⟩

/-- One call leads a tokenizer on by its answer. -/
theorem read (upholds : Upholds source history tokenizer) :
    Upholds source (history ++ [tokenizer.read.1]) tokenizer.read.2 := by
  cases ahead : tokenizer.rest with
  | nil =>
    rw [Tokenizer.read_at_end ahead]
    refine ⟨upholds.same, ?_, ?_, fun _ => ⟨ahead, List.getLast?_concat⟩⟩
    · rw [upholds.tokens, List.reduceOption_append]
      simp
    · simp [latestStart]
  | cons c rest =>
    obtain ⟨answer, rest', cursor⟩ := Tokenizer.read_of_cons ahead
    refine ⟨upholds.same, ?_, ?_, ?_⟩
    · rw [upholds.tokens, ahead, splitBy_cons, placed, answer, rest', cursor, List.reduceOption_append,
        List.append_assoc]
      rfl
    · rw [answer, latestStart, List.getLast?_concat]
      rfl
    · rw [answer]
      intro member
      have never : tokenizer.rest = [] := (upholds.ended (by simpa using member)).1
      rw [ahead] at never
      contradiction

/-- The next answer is the first token that was not yet found. -/
theorem answer (upholds : Upholds source history tokenizer) :
    tokenizer.read.1 = (tokenize source)[history.reduceOption.length]? := by
  rw [upholds.tokens, List.getElem?_append_right (Nat.le_refl _), Nat.sub_self]
  cases ahead : tokenizer.rest with
  | nil => exact Tokenizer.read_of_nil ahead
  | cons c rest =>
    rw [(Tokenizer.read_of_cons ahead).1, splitBy_cons]
    rfl

/-- The cursor is at the first token that was not yet found, or at the end. -/
theorem cursor (upholds : Upholds source history tokenizer) :
    tokenizer.cursor =
      (((tokenize source)[history.reduceOption.length]?).map Token.start).getD (.behind source) := by
  rw [← upholds.answer]
  cases ahead : tokenizer.rest with
  | nil =>
    obtain ⟨consumed, whole, cursor⟩ := tokenizer.located
    rw [ahead, List.append_nil, upholds.same] at whole
    rw [Tokenizer.read_of_nil ahead, cursor, ← whole, Position.advanceBy_origin]
    rfl
  | cons c rest =>
    rw [(Tokenizer.read_of_cons ahead).1]
    rfl

/-- Once a call has found nothing, calls find nothing and move nothing. -/
private theorem read_of_none_mem (upholds : Upholds source history tokenizer) (member : none ∈ history) :
    tokenizer.read = (none, tokenizer) := by
  obtain ⟨ended, latest⟩ := upholds.ended member
  have mark : tokenizer.mark = tokenizer.cursor := by rw [upholds.mark, latestStart, latest]
  rw [Tokenizer.read_at_end ended]
  obtain ⟨source, rest, cursor, _, located⟩ := tokenizer
  dsimp only at mark ⊢
  rw [mark]

end Upholds

/-- The tokenizers of a session, one by one, stand where their histories have led them. -/
structure Recorded (source : List Char) (histories : List History) (session : Session) : Prop where
  length : session.tokenizers.length = histories.length
  upholds : ∀ (index : Nat) (history : History) (tokenizer : Tokenizer),
    histories[index]? = some history → session.tokenizers[index]? = some tokenizer →
      Upholds source history tokenizer

namespace Recorded

variable {source : List Char} {histories : List History} {session : Session}

theorem start (source : List Char) : Recorded source [[]] (ofSource source) := by
  refine ⟨rfl, ?_⟩
  intro index history tokenizer recorded present
  obtain rfl := List.mem_singleton.mp (List.mem_of_getElem? recorded)
  obtain rfl := List.mem_singleton.mp (List.mem_of_getElem? present)
  exact .start source

/-- A read is recorded for the tokenizer that was read, and the others stand as before. -/
theorem read (recorded : Recorded source histories session) {index : Nat} {tokenizer : Tokenizer}
    (present : session.tokenizers[index]? = some tokenizer) :
    Recorded source (histories.modify index (· ++ [tokenizer.read.1]))
      ⟨session.tokenizers.set index tokenizer.read.2⟩ := by
  refine ⟨by simp [recorded.length], ?_⟩
  intro other history next recorded' present'
  rw [List.getElem?_modify] at recorded'
  obtain ⟨before, found, rfl⟩ := Option.map_eq_some_iff.mp recorded'
  by_cases same : index = other
  · subst same
    obtain ⟨inside, _⟩ := List.getElem?_eq_some_iff.mp present
    rw [List.getElem?_set_self inside] at present'
    obtain rfl := Option.some.inj present'
    rw [if_pos rfl]
    exact (recorded.upholds index before tokenizer found present).read
  · rw [List.getElem?_set_ne same] at present'
    rw [if_neg same]
    exact recorded.upholds other before next found present'

/-- A clone stands where the tokenizer stands from which it was made, with the same history. -/
theorem clone (recorded : Recorded source histories session) {index : Nat} {history : History}
    {tokenizer : Tokenizer} (found : histories[index]? = some history)
    (present : session.tokenizers[index]? = some tokenizer) :
    Recorded source (histories ++ [history]) ⟨session.tokenizers ++ [tokenizer]⟩ := by
  refine ⟨by simp [recorded.length], ?_⟩
  intro other history' next recorded' present'
  rcases Nat.lt_or_ge other histories.length with inside | outside
  · rw [List.getElem?_append_left inside] at recorded'
    rw [List.getElem?_append_left (recorded.length ▸ inside)] at present'
    exact recorded.upholds other history' next recorded' present'
  · rw [List.getElem?_append_right outside] at recorded'
    rw [List.getElem?_append_right (recorded.length ▸ outside), recorded.length] at present'
    obtain rfl := List.mem_singleton.mp (List.mem_of_getElem? recorded')
    obtain rfl := List.mem_singleton.mp (List.mem_of_getElem? present')
    exact recorded.upholds index _ _ found present

/-- Every move leaves all tokenizers where their histories have led them. -/
theorem step (recorded : Recorded source histories session) (move : Move) :
    Recorded source (move.record (session.step move).1 histories) (session.step move).2 := by
  have absent {index : Nat} (none : session.tokenizers[index]? = none) : histories.length ≤ index :=
    recorded.length ▸ List.getElem?_eq_none_iff.mp none
  cases move with
  | read index =>
    cases present : session.tokenizers[index]? with
    | none =>
      simp only [Session.step, present, Move.record, List.modify_eq_self (absent present)]
      exact recorded
    | some tokenizer =>
      simp only [Session.step, present, Move.record]
      exact recorded.read present
  | clone index =>
    cases present : session.tokenizers[index]? with
    | none =>
      simp only [Session.step, present, Move.record, List.getElem?_eq_none (absent present)]
      simpa using recorded
    | some tokenizer =>
      obtain ⟨inside, _⟩ := List.getElem?_eq_some_iff.mp present
      have found := List.getElem?_eq_getElem (recorded.length ▸ inside)
      simp only [Session.step, present, Move.record, found]
      exact recorded.clone found present

theorem run (recorded : Recorded source histories session) (moves : List Move) :
    Recorded source (session.record histories moves) (session.run moves) := by
  induction moves generalizing histories session with
  | nil => exact recorded
  | cons move rest ih => exact ih (recorded.step move)

end Recorded

/-- What a history says of its tokenizer in a session. The calls so far have found the first tokens of
the source, as many as there were answers with a token. The next call finds the token behind them,
where the cursor is, or nothing at the end. The mark is where the latest call has put it. Behind a call
that has found nothing, a call changes nothing at all. -/
structure Resumes (source : List Char) (session : Session) (index : Nat) (history : History) : Prop where
  found : history.reduceOption = (tokenize source).take history.reduceOption.length
  next : (session.step (.read index)).1 = (tokenize source)[history.reduceOption.length]?
  places : ∃ tokenizer, session.tokenizers[index]? = some tokenizer ∧
    tokenizer.cursor =
      (((tokenize source)[history.reduceOption.length]?).map Token.start).getD (.behind source) ∧
    tokenizer.mark = latestStart tokenizer.cursor history
  ended : none ∈ history → session.step (.read index) = (none, session)

theorem Upholds.resumes {source : List Char} {session : Session} {index : Nat} {history : History}
    {tokenizer : Tokenizer} (upholds : Upholds source history tokenizer)
    (present : session.tokenizers[index]? = some tokenizer) : Resumes source session index history := by
  refine ⟨?_, ?_, ⟨tokenizer, present, upholds.cursor, upholds.mark⟩, ?_⟩
  · rw [upholds.tokens, List.take_left]
  · simp only [Session.step, present]
    exact upholds.answer
  · intro member
    simp only [Session.step, present, upholds.read_of_none_mem member]
    obtain ⟨inside, rfl⟩ := List.getElem?_eq_some_iff.mp present
    rw [List.set_getElem_self]

/-- However reads and clones alternate, there is one history for each tokenizer, and each tokenizer
resumes where its own history ends. -/
theorem resumes_interleaved (source : List Char) (moves : List Move) :
    ((ofSource source).run moves).tokenizers.length = (histories source moves).length ∧
      ∀ (index : Nat) (history : History), (histories source moves)[index]? = some history →
        Resumes source ((ofSource source).run moves) index history := by
  have recorded := (Recorded.start source).run moves
  refine ⟨recorded.length, ?_⟩
  intro index history found
  obtain ⟨inside, _⟩ := List.getElem?_eq_some_iff.mp found
  have present := List.getElem?_eq_getElem (recorded.length ▸ inside)
  exact (recorded.upholds index history _ found present).resumes present

/-- A clone read to the end and once more, before the tokenizer it was made from is read again. -/
theorem resumes_behind_clone :
    ∃ history, (histories ['a', 'b', ' ', '1']
      [.read 0, .clone 0, .read 1, .read 1, .read 1, .read 0])[1]? = some history ∧
      history = [some ⟨.ident, ['a', 'b'], ⟨0, 0, 0⟩⟩, some ⟨.separator, [' '], ⟨2, 0, 2⟩⟩,
        some ⟨.number, ['1'], ⟨3, 0, 3⟩⟩, none] ∧
      Resumes ['a', 'b', ' ', '1'] ((ofSource ['a', 'b', ' ', '1']).run
        [.read 0, .clone 0, .read 1, .read 1, .read 1, .read 0]) 1 history := by
  have found : (histories ['a', 'b', ' ', '1']
      [.read 0, .clone 0, .read 1, .read 1, .read 1, .read 0])[1]? =
      some [some ⟨.ident, ['a', 'b'], ⟨0, 0, 0⟩⟩, some ⟨.separator, [' '], ⟨2, 0, 2⟩⟩,
        some ⟨.number, ['1'], ⟨3, 0, 3⟩⟩, none] := by decide +kernel
  exact ⟨_, found, rfl, (resumes_interleaved _ _).2 1 _ found⟩

end Session

end OwnedText
