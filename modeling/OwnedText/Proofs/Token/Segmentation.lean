import Mathlib.Data.List.SplitBy
import OwnedText.Token.Tokenizer

/-! # Tokens as the maximal segments of a source

Two neighbouring characters stay in one token if both are letters, both are digits, or both are the
same separator. Cutting a source wherever its neighbours do not stay together gives the texts of its
tokens, and each token starts where the texts before it end. `tokenize_eq` says so; whatever else holds
of a list of tokens follows from it and from what is known about lists cut in that way.

The class that a scan carries is that of the last character it has taken. So `Scan.judge_cons` can show
that every verdict behind the first character depends on that character and on the one ahead, and on
nothing else.
-/

namespace OwnedText

namespace TokenKind

theorem of_eq_separator_iff (c : Char) : of c = separator ↔ c = ' ' ∨ c = '\t' ∨ c = '\n' := by
  rw [of]
  split_ifs <;> simp_all

theorem of_eq_ident_iff (c : Char) : of c = ident ↔ c.isAlpha = true := by
  rw [of]
  split_ifs with blank letter
  · rcases blank with rfl | rfl | rfl <;> decide
  · simp [letter]
  · simp [letter]
  · simp [letter]

private theorem isAlpha_eq_false_of_isDigit {c : Char} (digit : c.isDigit = true) :
    c.isAlpha = false := by
  simp only [Char.isDigit, Bool.and_eq_true, decide_eq_true_eq, UInt32.le_iff_toNat_le, ge_iff_le] at digit
  obtain ⟨_, behindNine⟩ := digit
  have nine : '9'.val.toNat = 57 := rfl
  have notUpper : ¬ 'A'.val ≤ c.val := by
    have upper : 'A'.val.toNat = 65 := rfl
    rw [UInt32.le_iff_toNat_le]
    omega
  have notLower : ¬ 'a'.val ≤ c.val := by
    have lower : 'a'.val.toNat = 97 := rfl
    rw [UInt32.le_iff_toNat_le]
    omega
  have ofParts : c.isAlpha = (decide ('A'.val ≤ c.val ∧ c.val ≤ 'Z'.val) ||
      decide ('a'.val ≤ c.val) && decide (c.val ≤ 'z'.val)) := rfl
  rw [ofParts, decide_eq_false fun both => notUpper both.1, decide_eq_false notLower]
  rfl

theorem of_eq_number_iff (c : Char) : of c = number ↔ c.isDigit = true := by
  rw [of]
  split_ifs with blank letter digit
  · rcases blank with rfl | rfl | rfl <;> decide
  · simp only [false_iff]
    intro digit
    simp [isAlpha_eq_false_of_isDigit digit] at letter
  · simp [digit]
  · simp [digit]

end TokenKind

/-- Two neighbouring characters stay in one token. -/
def joins (a b : Char) : Bool :=
  a.isAlpha && b.isAlpha || a.isDigit && b.isDigit || a == b && (a == ' ' || a == '\t' || a == '\n')

theorem joins_iff (a b : Char) :
    joins a b = true ↔ TokenKind.of a = .ident ∧ TokenKind.of b = .ident ∨
      TokenKind.of a = .number ∧ TokenKind.of b = .number ∨ a = b ∧ TokenKind.of a = .separator := by
  rw [TokenKind.of_eq_ident_iff, TokenKind.of_eq_ident_iff, TokenKind.of_eq_number_iff,
    TokenKind.of_eq_number_iff, TokenKind.of_eq_separator_iff]
  simp only [joins, Bool.or_eq_true, Bool.and_eq_true, beq_iff_eq, or_assoc]

/-- The rule by classes: a symbol joins nothing, a separator its equal, and any other character its
class. -/
theorem joins_eq_of_kind (a b : Char) :
    joins a b = match TokenKind.of b with
      | .symbol => false
      | .separator => a == b
      | kind => TokenKind.of a == kind := by
  rw [Bool.eq_iff_iff, joins_iff]
  have same_kind (same : a = b) : TokenKind.of a = TokenKind.of b := congrArg TokenKind.of same
  have apart (kind : TokenKind.of b ≠ .separator) : ¬ (a = b ∧ TokenKind.of a = .separator) := by
    rintro ⟨rfl, separator⟩
    exact kind separator
  cases kind : TokenKind.of b with
  | separator =>
    rw [kind] at same_kind
    simpa using same_kind
  | ident => simp [apart (by simp [kind])]
  | number => simp [apart (by simp [kind])]
  | symbol => simp [apart (by simp [kind])]

theorem of_eq_of_joins {a b : Char} (together : joins a b = true) : TokenKind.of a = TokenKind.of b := by
  rw [joins_eq_of_kind] at together
  split at together <;> simp_all

private theorem not_joins_of_symbol {a : Char} (symbol : TokenKind.of a = .symbol) (b : Char) :
    joins a b = false := by
  apply Bool.eq_false_iff.mpr
  intro together
  have same := of_eq_of_joins together
  rw [joins_eq_of_kind, ← same, symbol] at together
  contradiction

namespace Scan

/-- The scan that has taken these characters, last one first. -/
def behind (taken : List Char) (cursor : Position) (rest : List Char) : Scan :=
  ⟨taken.head?.map TokenKind.of, taken, cursor, rest, rfl⟩

theorem judge_nil (c : Char) : judge none [] c = ⟨true, TokenKind.of c == .symbol⟩ := by
  rw [judge]
  split <;> simp_all

/-- Behind the first character a verdict rests on the last one taken. -/
theorem judge_cons (last : Char) (taken : List Char) (c : Char) :
    judge (some (TokenKind.of last)) (last :: taken) c = ⟨joins last c, !joins last c⟩ := by
  rw [joins_eq_of_kind]
  rw [judge]
  split <;> simp_all [bne]

end Scan

/-- What goes on from a last character without a cut, and what is left behind the cut. -/
def continued : Char → List Char → List Char × List Char
  | _, [] => ([], [])
  | last, c :: rest =>
    if joins last c then (c :: (continued c rest).1, (continued c rest).2) else ([], c :: rest)

private theorem continued_append (last : Char) (rest : List Char) :
    (continued last rest).1 ++ (continued last rest).2 = rest := by
  induction rest generalizing last with
  | nil => rfl
  | cons c rest ih =>
    rw [continued]
    split
    · exact congrArg (c :: ·) (ih c)
    · rfl

/-- What goes on hangs together, from the last character on. -/
private theorem isChain_continued (last : Char) (rest : List Char) :
    (last :: (continued last rest).1).IsChain fun a b => joins a b := by
  induction rest generalizing last with
  | nil => exact .singleton last
  | cons c rest ih =>
    rw [continued]
    split
    · rename_i together
      exact .cons_cons together (ih c)
    · exact .singleton last

/-- What goes on is of the class of the last character. -/
theorem of_eq_of_mem_continued {last c : Char} {rest : List Char}
    (member : c ∈ (continued last rest).1) : TokenKind.of c = TokenKind.of last := by
  induction rest generalizing last with
  | nil => simp [continued] at member
  | cons next rest ih =>
    unfold continued at member
    split at member
    · rename_i together
      rcases List.mem_cons.mp member with rfl | member
      · exact (of_eq_of_joins together).symm
      · exact (ih member).trans (of_eq_of_joins together).symm
    · simp at member

/-- What is left behind the cut does not join what goes on. -/
private theorem not_joins_continued (last : Char) (rest : List Char) :
    ∀ a ∈ (last :: (continued last rest).1).getLast?, ∀ b ∈ (continued last rest).2.head?,
      joins a b = false := by
  induction rest generalizing last with
  | nil => simp [continued]
  | cons c rest ih =>
    rw [continued]
    split
    · simpa only [List.getLast?_cons_cons] using ih c
    · rename_i apart
      simpa using apart

/-- The first segment of a source is its first character with what goes on from there. -/
theorem splitBy_cons (c : Char) (rest : List Char) :
    (c :: rest).splitBy joins =
      (c :: (continued c rest).1) :: (continued c rest).2.splitBy joins := by
  have whole : c :: rest = (c :: (continued c rest).1) ++ (continued c rest).2 := by
    rw [List.cons_append, continued_append]
  calc (c :: rest).splitBy joins
      = ((c :: (continued c rest).1) ++ (continued c rest).2).splitBy joins := by rw [← whole]
    _ = (c :: (continued c rest).1).splitBy joins ++ (continued c rest).2.splitBy joins :=
      List.splitBy_append (not_joins_continued c rest)
    _ = _ := by
      rw [List.splitBy_of_isChain (List.cons_ne_nil _ _) (isChain_continued c rest)]
      rfl

namespace Scan

private theorem finish_of_ended {scan next : Scan} (ended : scan.step = (next, true)) :
    scan.finish = next := by
  rw [finish]
  split <;> simp_all

private theorem finish_of_goesOn {scan next : Scan} (goesOn : scan.step = (next, false)) :
    scan.finish = next.finish := by
  rw [finish]
  split <;> simp_all

/-- A scan that has taken something takes what goes on from its last character. -/
private theorem finish_cons (last : Char) (taken : List Char) (cursor : Position) (rest : List Char) :
    (behind (last :: taken) cursor rest).finish =
      behind ((continued last rest).1.reverse ++ last :: taken)
        (cursor.advanceBy (continued last rest).1) (continued last rest).2 := by
  induction rest generalizing last taken cursor with
  | nil => exact finish_of_ended rfl
  | cons c rest ih =>
    have verdict := judge_cons last taken c
    rw [continued]
    split
    · rename_i together
      have goesOn : (behind (last :: taken) cursor (c :: rest)).step =
          (behind (c :: last :: taken) (cursor.advance c) rest, false) := by
        simp [step, behind, taking, verdict, together]
      rw [finish_of_goesOn goesOn, ih]
      simp [Position.advanceBy]
    · rename_i apart
      have ended : (behind (last :: taken) cursor (c :: rest)).step =
          (behind (last :: taken) cursor (c :: rest), true) := by
        simp [step, behind, verdict, apart]
      rw [finish_of_ended ended]
      rfl

/-- From the start of a token a scan takes the first character with what goes on from there. -/
theorem finish_start (cursor : Position) (c : Char) (rest : List Char) :
    (start cursor (c :: rest)).finish =
      behind (c :: (continued c rest).1).reverse (cursor.advanceBy (c :: (continued c rest).1))
        (continued c rest).2 := by
  by_cases symbol : TokenKind.of c = .symbol
  · have alone : continued c rest = ([], rest) := by
      cases rest with
      | nil => rfl
      | cons next rest => simp [continued, not_joins_of_symbol symbol]
    have ended : (start cursor (c :: rest)).step = (behind [c] (cursor.advance c) rest, true) := by
      simp [start, step, taking, behind, judge_nil, symbol]
    rw [finish_of_ended ended, alone]
    rfl
  · have goesOn : (start cursor (c :: rest)).step = (behind [c] (cursor.advance c) rest, false) := by
      simp [start, step, taking, behind, judge_nil, symbol]
    rw [finish_of_goesOn goesOn, finish_cons]
    simp [Position.advanceBy]

end Scan

/-- The class of a text is that of its first character. -/
def TokenKind.ofText : List Char → TokenKind
  | [] => .symbol
  | c :: _ => of c

/-- Texts one behind the other, as tokens. -/
def placed : Position → List (List Char) → List Token
  | _, [] => []
  | position, text :: rest =>
    ⟨TokenKind.ofText text, text, position⟩ :: placed (position.advanceBy text) rest

@[simp] theorem map_text_placed (position : Position) (texts : List (List Char)) :
    (placed position texts).map Token.text = texts := by
  induction texts generalizing position with
  | nil => rfl
  | cons text rest ih => simp only [placed, List.map_cons, ih]

theorem kind_of_mem_placed {position : Position} {texts : List (List Char)} {token : Token}
    (member : token ∈ placed position texts) : token.kind = TokenKind.ofText token.text := by
  induction texts generalizing position with
  | nil => simp [placed] at member
  | cons text rest ih =>
    rcases List.mem_cons.mp member with rfl | member
    · rfl
    · exact ih member

namespace Tokenizer

theorem read_of_nil {tokenizer : Tokenizer} (ended : tokenizer.rest = []) :
    tokenizer.read.1 = none := by
  have nothing : tokenizer.scanned = Scan.start tokenizer.cursor [] := by
    rw [scanned, ended, Scan.finish]
    rfl
  simp [read, nothing, Scan.start, Scan.token?]

/-- Away from the end, reading finds the first character with what goes on from there. -/
theorem read_of_cons {tokenizer : Tokenizer} {c : Char} {rest : List Char}
    (ahead : tokenizer.rest = c :: rest) :
    tokenizer.read.1 = some ⟨TokenKind.of c, c :: (continued c rest).1, tokenizer.cursor⟩ ∧
      tokenizer.read.2.rest = (continued c rest).2 ∧
      tokenizer.read.2.cursor = tokenizer.cursor.advanceBy (c :: (continued c rest).1) := by
  have scan : tokenizer.scanned =
      Scan.behind (c :: (continued c rest).1).reverse
        (tokenizer.cursor.advanceBy (c :: (continued c rest).1)) (continued c rest).2 := by
    rw [scanned, ahead, Scan.finish_start]
  have kind : tokenizer.scanned.kind = some (TokenKind.of c) := by
    have ending : (c :: (continued c rest).1).getLast? = some ((continued c rest).1.getLast?.getD c) :=
      List.getLast?_cons
    have last : TokenKind.of ((continued c rest).1.getLast?.getD c) = TokenKind.of c := by
      rcases List.mem_cons.mp (List.mem_of_getLast? ending) with same | member
      · rw [same]
      · exact of_eq_of_mem_continued member
    rw [scan, Scan.behind]
    simp only [List.head?_reverse, ending, Option.map_some, last]
  refine ⟨?_, ?_, ?_⟩
  · simp only [read, Scan.token?, kind]
    simp [scan, Scan.behind]
  · simp [read, moved, scan, Scan.behind]
  · simp [read, moved, scan, Scan.behind]

/-- Reading on to the end finds the segments of what is ahead, each where the one before it ends. -/
private theorem collect_eq (seen : List Token) (tokenizer : Tokenizer) :
    collect seen tokenizer =
      seen.reverse ++ placed tokenizer.cursor (tokenizer.rest.splitBy joins) := by
  fun_induction collect seen tokenizer with
  | case1 seen tokenizer next found =>
    cases ahead : tokenizer.rest with
    | nil => simp [placed]
    | cons c rest =>
      have present := (read_of_cons ahead).1
      rw [found] at present
      contradiction
  | case2 seen tokenizer token next found ih =>
    cases ahead : tokenizer.rest with
    | nil =>
      have absent := read_of_nil ahead
      rw [found] at absent
      contradiction
    | cons c rest =>
      obtain ⟨present, behind, cursor⟩ := read_of_cons ahead
      rw [found] at present behind cursor
      rw [ih, behind, cursor, splitBy_cons, placed, List.reverse_cons, List.append_assoc,
        Option.some.inj present]
      rfl

end Tokenizer

/-- The tokens of a source are its segments, one behind the other from the start. -/
theorem tokenize_eq (source : List Char) :
    tokenize source = placed Position.origin (source.splitBy joins) := by
  rw [tokenize, Tokenizer.tokens, Tokenizer.collect_eq]
  rfl

theorem map_text_tokenize (source : List Char) :
    (tokenize source).map Token.text = source.splitBy joins := by
  simp [tokenize_eq]

end OwnedText
