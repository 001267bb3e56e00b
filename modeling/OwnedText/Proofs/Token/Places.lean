import Mathlib.Data.List.DropRight
import OwnedText.Proofs.Token.Segmentation
import OwnedText.Text.Utf8

/-! # Places of tokens in their source

The cursor of a tokenizer counts as it goes: bytes, line feeds, and characters of the current line.
`Position.advanceBy_origin` says what it has counted at any moment, in terms of the text behind it and
of nothing else. So a token stands where its text does, the slices that a scan takes are cut between
characters, and no counter of a source that 32 bits can measure needs more than 32 bits.
-/

namespace OwnedText

namespace Utf8

@[simp] theorem encode_append (front back : List Char) :
    encode (front ++ back) = encode front ++ encode back := List.flatMap_append

/-- Every character takes a byte at least. -/
theorem length_le_length_encode (text : List Char) : text.length ≤ (encode text).length := by
  induction text with
  | nil => exact Nat.le_refl _
  | cons c rest ih =>
    have positive := c.utf8Size_pos
    rw [length_encode_cons, List.length_cons]
    omega

/-- Cutting between a text in front and one behind leaves what is between them. -/
theorem slice?_length_encode (front text back : List Char) :
    slice? (encode front).length (encode (front ++ text)).length (front ++ (text ++ back)) = some text := by
  simp [slice?]

end Utf8

namespace Position

theorem advanceBy_append (position : Position) (front back : List Char) :
    position.advanceBy (front ++ back) = (position.advanceBy front).advanceBy back :=
  List.foldl_append

/-- The place behind a text, read off the text: its bytes, its line feeds, and the characters behind the
last of them. -/
def behind (text : List Char) : Position :=
  ⟨(Utf8.encode text).length, text.count '\n', (text.rtakeWhile (· != '\n')).length⟩

private theorem behind_concat (text : List Char) (c : Char) :
    behind (text ++ [c]) = (behind text).advance c := by
  have bytes : (Utf8.encode (text ++ [c])).length = (Utf8.encode text).length + c.utf8Size := by
    rw [Utf8.encode_append, List.length_append, Utf8.length_encode_cons]
    rfl
  rw [behind, bytes, List.count_append, List.rtakeWhile_concat, advance]
  by_cases feed : c = '\n'
  · subst feed
    rfl
  · simp [feed, behind]

/-- What a cursor has counted from the start on is what is behind it. -/
theorem advanceBy_origin (text : List Char) : origin.advanceBy text = behind text := by
  induction text using List.reverseRecOn with
  | nil => rfl
  | append_singleton text c ih =>
    rw [behind_concat, advanceBy_append, ih]
    rfl

/-- A counter has not counted more than the bytes of the text. -/
private theorem behind_le (text : List Char) :
    (behind text).line ≤ (Utf8.encode text).length ∧ (behind text).col ≤ (Utf8.encode text).length := by
  have characters := Utf8.length_le_length_encode text
  refine ⟨?_, ?_⟩
  · exact List.count_le_length.trans characters
  · exact (List.rtakeWhile_suffix _ _).length_le.trans characters

/-- Nearer to the start of the source, by bytes as well as by lines and columns. -/
def Before (position other : Position) : Prop :=
  position.pos < other.pos ∧
    (position.line < other.line ∨ position.line = other.line ∧ position.col < other.col)

theorem Before.trans {first second third : Position} (before : first.Before second)
    (before' : second.Before third) : first.Before third := by
  unfold Before at before before' ⊢
  omega

private theorem before_advance (position : Position) (c : Char) : position.Before (position.advance c) := by
  have positive := c.utf8Size_pos
  unfold Before advance
  split
  · dsimp only
    omega
  · dsimp only
    omega

/-- Any text at all leads on. -/
theorem before_advanceBy (position : Position) {text : List Char} (nonempty : text ≠ []) :
    position.Before (position.advanceBy text) := by
  induction text generalizing position with
  | nil => contradiction
  | cons c rest ih =>
    have first := position.before_advance c
    cases rest with
    | nil => exact first
    | cons next rest => exact first.trans (ih (position.advance c) (List.cons_ne_nil _ _))

end Position

section Tokens

variable {position : Position} {texts : List (List Char)}

/-- Each token starts behind the texts of those in front of it. -/
theorem start_of_placed {before after : List Token} {token : Token}
    (whole : placed position texts = before ++ token :: after) :
    token.start = position.advanceBy (before.flatMap Token.text) := by
  induction texts generalizing position before with
  | nil => simp [placed] at whole
  | cons text rest ih =>
    cases before with
    | nil =>
      rw [← (List.cons.inj whole).1]
      rfl
    | cons first before =>
      obtain ⟨rfl, later⟩ := List.cons.inj whole
      rw [ih later, List.flatMap_cons, Position.advanceBy_append]

private theorem start_of_mem_placed {token : Token} (member : token ∈ placed position texts) :
    token.start = position ∨ position.Before token.start := by
  obtain ⟨before, after, whole⟩ := List.append_of_mem member
  rw [start_of_placed whole]
  cases before.flatMap Token.text with
  | nil => exact .inl rfl
  | cons c rest => exact .inr (position.before_advanceBy (List.cons_ne_nil _ _))

private theorem pairwise_before_placed (nonempty : [] ∉ texts) :
    (placed position texts).Pairwise fun token next => token.start.Before next.start := by
  induction texts generalizing position with
  | nil => exact .nil
  | cons text rest ih =>
    have present : text ≠ [] := fun none => nonempty (none ▸ List.mem_cons_self ..)
    have nonempty' : [] ∉ rest := fun member => nonempty (List.mem_cons_of_mem _ member)
    refine .cons ?_ (ih nonempty')
    intro next member
    have ahead := position.before_advanceBy present
    rcases start_of_mem_placed member with same | behind
    · exact same ▸ ahead
    · exact ahead.trans behind

end Tokens

/-- A token stands in the source right behind a part of it, and its start is counted in that part. -/
structure Token.Stands (source front : List Char) (token : Token) : Prop where
  inside : ∃ back, source = front ++ (token.text ++ back)
  pos : token.start.pos = (Utf8.encode front).length
  bytes : ((Utf8.encode source).drop token.start.pos).take (Utf8.encode token.text).length =
    Utf8.encode token.text
  line : token.start.line = front.count '\n'
  col : token.start.col = (front.rtakeWhile (· != '\n')).length

private theorem Token.stands_of_start {source front back : List Char} {token : Token}
    (inside : source = front ++ (token.text ++ back)) (start : token.start = .behind front) :
    token.Stands source front := by
  refine ⟨⟨back, inside⟩, by rw [start]; rfl, ?_, by rw [start]; rfl, by rw [start]; rfl⟩
  rw [start, inside, Position.behind, Utf8.encode_append, Utf8.encode_append, List.drop_left,
    List.take_left]

/-- The texts of the tokens make up the source. -/
theorem flatMap_text_tokenize (source : List Char) : (tokenize source).flatMap Token.text = source := by
  rw [List.flatMap_def, map_text_tokenize, List.flatten_splitBy]

private theorem stands_of_mem_tokenize {source : List Char} {before after : List Token} {token : Token}
    (whole : tokenize source = before ++ token :: after) :
    token.Stands source (before.flatMap Token.text) := by
  have texts := flatMap_text_tokenize source
  rw [whole, List.flatMap_append, List.flatMap_cons] at texts
  rw [tokenize_eq] at whole
  exact Token.stands_of_start texts.symm ((start_of_placed whole).trans (Position.advanceBy_origin _))

namespace Scan

/-- The scans at which the loop looks at the character ahead, in one call that begins with the first. -/
inductive Visits (first : Scan) : Scan → Prop
  | first : Visits first first
  | next {scan next : Scan} (visited : Visits first scan) (goesOn : scan.step = (next, false)) :
    Visits first next

theorem Visits.follows {scan : Scan} {cursor : Position} {rest : List Char}
    (visits : Visits (start cursor rest) scan) : scan.Follows cursor rest := by
  induction visits with
  | first => exact follows_start cursor rest
  | next _ goesOn ih => simpa [goesOn] using ih.step

/-- In a scan of a token that starts at a place of a source, the source is cut between characters both
at the cursor and around the text so far, and the counters can count one character more. -/
structure Fits (source : List Char) (start : Position) (scan : Scan) : Prop where
  ahead : Utf8.drop? scan.cursor.pos source = some scan.rest
  text : Utf8.slice? start.pos scan.cursor.pos source = some scan.taken.reverse
  room : scan.rest ≠ [] → scan.cursor.line + 1 < UInt32.size ∧ scan.cursor.col + 1 < UInt32.size

/-- Whatever a scan has done since a tokenizer called it, it fits the source. -/
theorem Follows.fits {tokenizer : Tokenizer} {scan : Scan}
    (countable : (Utf8.encode tokenizer.source).length < UInt32.size)
    (follows : scan.Follows tokenizer.cursor tokenizer.rest) :
    scan.Fits tokenizer.source tokenizer.cursor := by
  obtain ⟨consumed, source, cursor⟩ := tokenizer.located
  obtain ⟨rest, behind⟩ := follows
  rw [rest] at source
  rw [cursor, ← Position.advanceBy_append, Position.advanceBy_origin] at behind
  rw [Position.advanceBy_origin] at cursor
  refine ⟨?_, ?_, ?_⟩
  · rw [behind, source, ← List.append_assoc]
    exact Utf8.drop?_length_encode _ _
  · rw [behind, cursor, source]
    exact Utf8.slice?_length_encode _ _ _
  · intro present
    obtain ⟨line, col⟩ := Position.behind_le (consumed ++ scan.taken.reverse)
    have one := (List.length_pos_iff.mpr present).trans_le (Utf8.length_le_length_encode scan.rest)
    rw [source, ← List.append_assoc, Utf8.encode_append, List.length_append] at countable
    rw [behind]
    omega

end Scan

/-- In a source that 32 bits can measure, every token stands where its text does, no scan of any of its
tokenizers cuts a character or runs out of a counter, and later tokens start further back. -/
theorem tokens_stand_in_source {source : List Char} (countable : (Utf8.encode source).length < UInt32.size) :
    (∀ before token after, tokenize source = before ++ token :: after →
      token.Stands source (before.flatMap Token.text)) ∧
    (∀ tokenizer : Tokenizer, tokenizer.source = source →
      (∀ scan, (Scan.start tokenizer.cursor tokenizer.rest).Visits scan →
        scan.Fits source tokenizer.cursor) ∧ tokenizer.scanned.Fits source tokenizer.cursor) ∧
    (tokenize source).Pairwise fun token next => token.start.Before next.start := by
  refine ⟨?_, ?_, ?_⟩
  · intro before token after whole
    exact stands_of_mem_tokenize whole
  · rintro tokenizer rfl
    refine ⟨?_, tokenizer.scanned_follows.fits countable⟩
    intro scan visited
    exact visited.follows.fits countable
  · rw [tokenize_eq]
    exact pairwise_before_placed (List.nil_notMem_splitBy joins source)

/-- A letter of two bytes, two line feeds in one token, and a letter on the third line. -/
theorem tokens_stand_behind_line_feeds :
    ∃ source, source = ['é', '\n', '\n', 'b'] ∧ (Utf8.encode source).length < UInt32.size ∧
      tokenize source = [⟨.symbol, ['é'], ⟨0, 0, 0⟩⟩, ⟨.separator, ['\n', '\n'], ⟨2, 0, 1⟩⟩,
        ⟨.ident, ['b'], ⟨4, 2, 0⟩⟩] ∧
      (∀ before token after, tokenize source = before ++ token :: after →
        token.Stands source (before.flatMap Token.text)) ∧
      (∀ tokenizer : Tokenizer, tokenizer.source = source →
        (∀ scan, (Scan.start tokenizer.cursor tokenizer.rest).Visits scan →
          scan.Fits source tokenizer.cursor) ∧ tokenizer.scanned.Fits source tokenizer.cursor) ∧
      (tokenize source).Pairwise fun token next => token.start.Before next.start := by
  have countable : (Utf8.encode ['é', '\n', '\n', 'b']).length < UInt32.size := by decide
  refine ⟨_, rfl, countable, ?_, tokens_stand_in_source countable⟩
  rw [tokenize_eq]
  decide

end OwnedText
