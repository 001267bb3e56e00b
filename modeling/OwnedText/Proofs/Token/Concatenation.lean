import OwnedText.Proofs.Token.Boundary
import OwnedText.Proofs.Token.Places

/-! # Tokens of two texts, one behind the other

Cutting a source anywhere and putting the parts together again changes one token at most. If the
characters around the cut do not join, the tokens of the whole are those of the left part and, moved
behind it, those of the right one. If they do join, the last token on the left and the first on the right
are one, and all others are the same. Moving a token behind a text adds what that text counts, but the
columns of the text end where the first line of the token's own source ends.
-/

namespace OwnedText

/-- A last character on the left and a first one on the right that are both letters, both digits, or the
same separator. -/
def Meets (left right : List Char) : Prop :=
  ∃ front x y back, left = front ++ [x] ∧ right = y :: back ∧
    (x.isAlpha ∧ y.isAlpha ∨ x.isDigit ∧ y.isDigit ∨ x = y ∧ (x = ' ' ∨ x = '\t' ∨ x = '\n'))

theorem meets_iff {left right : List Char} :
    Meets left right ↔ ∃ front x y back, left = front ++ [x] ∧ right = y :: back ∧ joins x y = true := by
  simp only [Meets, joins, Bool.or_eq_true, Bool.and_eq_true, beq_iff_eq, or_assoc]

namespace Position

/-- A place in a source once a text stands in front of it: as many bytes and lines further on, and on the
first line as many columns as the text has behind its last line feed. -/
def shift (text : List Char) (position : Position) : Position :=
  ⟨(Utf8.encode text).length + position.pos, text.count '\n' + position.line,
    if position.line = 0 then (text.rtakeWhile (· != '\n')).length + position.col else position.col⟩

theorem shift_origin (text : List Char) : origin.shift text = behind text := rfl

private theorem shift_advance (text : List Char) (position : Position) (c : Char) :
    (position.advance c).shift text = (position.shift text).advance c := by
  by_cases feed : c = '\n'
  · simp only [advance, if_pos feed, shift, Nat.add_assoc, Nat.succ_ne_zero, if_false]
  · simp only [advance, if_neg feed, shift, Nat.add_assoc]
    split <;> rfl

theorem shift_advanceBy (text : List Char) (position : Position) (more : List Char) :
    (position.advanceBy more).shift text = (position.shift text).advanceBy more := by
  induction more generalizing position with
  | nil => rfl
  | cons c rest ih =>
    change ((position.advance c).advanceBy rest).shift text = ((position.shift text).advance c).advanceBy rest
    rw [ih, shift_advance]

end Position

/-- A token once a text stands in front of its source. -/
def Token.shift (text : List Char) (token : Token) : Token :=
  { token with start := token.start.shift text }

section Placed

variable {position : Position}

theorem placed_append (texts others : List (List Char)) :
    placed position (texts ++ others) = placed position texts ++ placed (position.advanceBy texts.flatten) others := by
  induction texts generalizing position with
  | nil => rfl
  | cons text rest ih =>
    rw [List.cons_append, placed, placed, ih, List.flatten_cons, Position.advanceBy_append, List.cons_append]

/-- Texts that are placed further on are placed tokens that are moved. -/
theorem map_shift_placed (text : List Char) (texts : List (List Char)) :
    (placed position texts).map (Token.shift text) = placed (position.shift text) texts := by
  induction texts generalizing position with
  | nil => rfl
  | cons first rest ih =>
    rw [placed, placed, List.map_cons, ih, Position.shift_advanceBy]
    rfl

end Placed

/-- The tokens of a source behind a text. -/
private theorem map_shift_tokenize (text source : List Char) :
    (tokenize source).map (Token.shift text) = placed (Position.behind text) (source.splitBy joins) := by
  rw [tokenize_eq, map_shift_placed, Position.shift_origin]

section Cut

variable {left right : List Char}

/-- Without a character on either side that joins the other, the segments stay as they are. -/
private theorem splitBy_append_of_not_meets (apart : ¬ Meets left right) :
    (left ++ right).splitBy joins = left.splitBy joins ++ right.splitBy joins := by
  apply List.splitBy_append
  intro x last y first
  obtain ⟨front, rfl⟩ := List.getLast?_eq_some_iff.mp last
  obtain ⟨back, rfl⟩ := List.head?_eq_some_iff.mp first
  apply Bool.eq_false_iff.mpr
  intro together
  exact apart (meets_iff.mpr ⟨front, x, y, back, rfl, rfl, together⟩)

/-- The last character of one segment does not join the first of the next one. -/
private abbrev Apart (segment next : List Char) : Prop :=
  ∃ h h', joins (segment.getLast h) (next.head h') = false

private theorem Apart.append_left {segment next : List Char} (apart : Apart segment next)
    (front : List Char) : Apart (front ++ segment) next := by
  obtain ⟨nonempty, nonempty', cut⟩ := apart
  refine ⟨List.append_ne_nil_of_right_ne_nil front nonempty, nonempty', ?_⟩
  rwa [List.getLast_append_of_ne_nil _ nonempty]

private theorem Apart.append_right {segment next : List Char} (apart : Apart segment next)
    (back : List Char) : Apart segment (next ++ back) := by
  obtain ⟨nonempty, nonempty', cut⟩ := apart
  refine ⟨nonempty, List.append_ne_nil_of_left_ne_nil nonempty' back, ?_⟩
  rwa [List.head_append_of_ne_nil nonempty']

/-- Two segments around a cut hang together if the characters at the cut do. -/
private theorem isChain_append_of_joins {segment next : List Char} {x y : Char}
    (chain : segment.IsChain fun a b => joins a b) (chain' : next.IsChain fun a b => joins a b)
    (last : segment.getLast? = some x) (first : next.head? = some y) (together : joins x y = true) :
    (segment ++ next).IsChain fun a b => joins a b := by
  refine List.isChain_append.mpr ⟨chain, chain', ?_⟩
  intro a ends b begins
  rw [Option.mem_def, last] at ends
  rw [Option.mem_def, first] at begins
  obtain rfl := Option.some.inj ends
  obtain rfl := Option.some.inj begins
  exact together

section Merging

variable {texts others : List (List Char)} {text other : List Char} {x y : Char}

/-- The last segment ends where the text does. -/
private theorem getLast?_of_splitBy (segments : left.splitBy joins = texts ++ [text]) :
    text.getLast? = left.getLast? := by
  have present : text ≠ [] :=
    List.ne_nil_of_mem_splitBy (segments ▸ List.mem_append_right _ List.mem_cons_self)
  rw [← List.flatten_splitBy joins left, segments, List.flatten_append, List.flatten_singleton,
    List.getLast?_append_of_ne_nil _ present]

/-- The first segment begins where the text does. -/
private theorem head?_of_splitBy (segments : right.splitBy joins = other :: others) :
    other.head? = right.head? := by
  have present : other ≠ [] := List.ne_nil_of_mem_splitBy (segments ▸ List.mem_cons_self)
  rw [← List.flatten_splitBy joins right, segments, List.flatten_cons, List.head?_append_of_ne_nil _ present]

/-- If the characters at the cut join, so do the segments around it, and no others. -/
private theorem splitBy_append_of_joins (segments : left.splitBy joins = texts ++ [text])
    (segments' : right.splitBy joins = other :: others) (last : text.getLast? = some x)
    (first : other.head? = some y) (together : joins x y = true) :
    (left ++ right).splitBy joins = texts ++ (text ++ other) :: others := by
  obtain ⟨whole, full, chains, cuts⟩ := List.splitBy_eq_iff.mp segments
  obtain ⟨whole', full', chains', cuts'⟩ := List.splitBy_eq_iff.mp segments'
  obtain ⟨before, _, between⟩ := List.isChain_append.mp cuts
  obtain ⟨behind, after⟩ := List.isChain_cons.mp cuts'
  -- A text has no segmentation but one, so it is enough that the merged segments are one.
  apply List.splitBy_eq_iff.mpr
  refine ⟨?_, ?_, ?_, ?_⟩
  · rw [whole, whole']
    simp only [List.flatten_append, List.flatten_cons, List.flatten_nil, List.append_nil, List.append_assoc]
  · intro member
    rcases List.mem_append.mp member with member | member
    · exact full (List.mem_append_left _ member)
    · rcases List.mem_cons.mp member with none | member
      · obtain ⟨rfl, _⟩ := List.append_eq_nil_iff.mp none.symm
        contradiction
      · exact full' (List.mem_cons_of_mem _ member)
  · intro segment member
    rcases List.mem_append.mp member with member | member
    · exact chains segment (List.mem_append_left _ member)
    · rcases List.mem_cons.mp member with rfl | member
      · exact isChain_append_of_joins (chains _ (List.mem_append_right _ List.mem_cons_self))
          (chains' _ List.mem_cons_self) last first together
      · exact chains' segment (List.mem_cons_of_mem _ member)
  · refine List.isChain_append.mpr ⟨before, List.isChain_cons.mpr ⟨?_, after⟩, ?_⟩
    · intro next member
      exact Apart.append_left (behind next member) text
    · intro segment member next member'
      obtain rfl := Option.some.inj member'
      exact Apart.append_right (between segment member text rfl) other

end Merging

/-- Texts that meet have a last and a first segment, and those are one in the whole. -/
private theorem exists_splitBy_of_meets (meets : Meets left right) :
    ∃ texts text other others, left.splitBy joins = texts ++ [text] ∧
      right.splitBy joins = other :: others ∧
        (left ++ right).splitBy joins = texts ++ (text ++ other) :: others := by
  obtain ⟨front, x, y, back, rfl, rfl, together⟩ := meets_iff.mp meets
  have nonempty : (front ++ [x]).splitBy joins ≠ [] := List.splitBy_ne_nil.mpr (List.concat_ne_nil x front)
  have nonempty' : (y :: back).splitBy joins ≠ [] := List.splitBy_ne_nil.mpr (List.cons_ne_nil y back)
  obtain ⟨texts, text, segments⟩ := (List.eq_nil_or_concat _).resolve_left nonempty
  obtain ⟨other, others, segments'⟩ := List.exists_cons_of_ne_nil nonempty'
  rw [List.concat_eq_append] at segments
  have last : text.getLast? = some x := (getLast?_of_splitBy segments).trans List.getLast?_concat
  have first : other.head? = some y := head?_of_splitBy segments'
  exact ⟨texts, text, other, others, segments, segments',
    splitBy_append_of_joins segments segments' last first together⟩

end Cut

/-- The second part of a segment is of the kind of the first one, and so is the whole. -/
private theorem TokenKind.ofText_of_isChain_append {text other : List Char} (present : text ≠ [])
    (present' : other ≠ []) (together : (text ++ other).IsChain fun a b => joins a b) :
    ofText other = ofText text ∧ ofText (text ++ other) = ofText text := by
  obtain ⟨x, front, rfl⟩ := List.exists_cons_of_ne_nil present
  obtain ⟨y, back, rfl⟩ := List.exists_cons_of_ne_nil present'
  have same := of_eq_ofText together (List.mem_append_right _ List.mem_cons_self)
  exact ⟨same, rfl⟩

/-- The tokens of two texts make up those of the two, one behind the other. If the texts do not meet, those on
the right are only moved. If they meet, the last token on the left goes on with the text of the first one on
the right, which is of its kind. -/
structure Concatenates (left right : List Char) : Prop where
  apart : ¬ Meets left right →
    tokenize (left ++ right) = tokenize left ++ (tokenize right).map (Token.shift left)
  met : Meets left right → ∃ before last first behind,
    tokenize left = before ++ [last] ∧ tokenize right = first :: behind ∧ first.kind = last.kind ∧
      tokenize (left ++ right) =
        before ++ ⟨last.kind, last.text ++ first.text, last.start⟩ :: behind.map (Token.shift left)

/-- Any two texts. -/
theorem concatenates (left right : List Char) : Concatenates left right where
  apart apart := by
    rw [tokenize_eq, splitBy_append_of_not_meets apart, placed_append, List.flatten_splitBy,
      Position.advanceBy_origin, map_shift_tokenize, tokenize_eq]
  met meets := by
    obtain ⟨texts, text, other, others, segments, segments', merged⟩ := exists_splitBy_of_meets meets
    have present : text ≠ [] :=
      List.ne_nil_of_mem_splitBy (segments ▸ List.mem_append_right _ List.mem_cons_self)
    have present' : other ≠ [] := List.ne_nil_of_mem_splitBy (segments' ▸ List.mem_cons_self)
    obtain ⟨kind, kind'⟩ := TokenKind.ofText_of_isChain_append present present'
      (List.isChain_of_mem_splitBy (merged ▸ List.mem_append_right _ List.mem_cons_self))
    have whole : texts.flatten ++ text = left := by
      rw [← List.flatten_singleton (l := text), ← List.flatten_append, ← segments, List.flatten_splitBy]
    have cursor : (Position.origin.advanceBy texts.flatten).advanceBy (text ++ other) =
        (Position.behind left).advanceBy other := by
      rw [← Position.advanceBy_append, ← List.append_assoc, whole, Position.advanceBy_append,
        Position.advanceBy_origin]
    refine ⟨placed .origin texts, ⟨.ofText text, text, Position.origin.advanceBy texts.flatten⟩,
      ⟨.ofText other, other, .origin⟩, placed (Position.origin.advanceBy other) others, ?_, ?_, kind, ?_⟩
    · rw [tokenize_eq, segments, placed_append]
      rfl
    · rw [tokenize_eq, segments', placed]
    · rw [tokenize_eq, merged, placed_append, placed, kind', cursor, map_shift_placed,
        Position.shift_advanceBy, Position.shift_origin]

/-- The second `b` is on the first line of its source and moves by a column, the digit behind it is not. -/
example : tokenize ['a', 'b', 'b', '\n', '1'] = [⟨.ident, ['a', 'b', 'b'], ⟨0, 0, 0⟩⟩,
    ⟨.separator, ['\n'], (⟨1, 0, 1⟩ : Position).shift ['a', 'b']⟩,
    ⟨.number, ['1'], (⟨2, 1, 0⟩ : Position).shift ['a', 'b']⟩] := by
  rw [tokenize_eq]
  decide

end OwnedText
