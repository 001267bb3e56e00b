import OwnedText.Proofs.Command.Delivery
import OwnedText.Proofs.Text.Escape
import OwnedText.Proofs.Token.Places

/-! # Printed tokens lose nothing

One token is printed per line, in three fields with a tab between them. The last field is the text of
the token in its written form, which has no tab and no line feed in it, so the lines and the fields can
be taken apart again. The texts read back, and together they are the source.
-/

namespace OwnedText

namespace Token

/-- The place of a token as it is printed, lines and columns counted from zero. -/
def place (token : Token) : List Char :=
  Digits.ofNat token.start.line ++ ':' :: Digits.ofNat token.start.col

/-- The line that shows a token, without the line feed at its end. -/
def row (token : Token) : List Char :=
  token.place ++ '\t' :: token.kind.name.toList ++ '\t' :: Escape.ofChars token.text

end Token

/-- The text that a line shows: its third field, of three, with the escapes undone. -/
def readRow? (row : List Char) : Option (List Char) :=
  match row.splitOn '\t' with
  | [_, _, written] => Escape.chars? written
  | _ => none

/-- The texts that the lines of an output show, one behind the other. What is behind the last line feed
is no line. -/
def readRows? (output : List Char) : Option (List Char) :=
  ((output.splitOn '\n').dropLast.mapM readRow?).map List.flatten

section Rows

open Escape (Printable isPrintable)

theorem TokenKind.printable_name (kind : TokenKind) : Printable kind.name.toList := by
  cases kind <;> simp [TokenKind.name, Printable, isPrintable]

namespace Token

variable (token : Token)

theorem printable_place : Printable token.place :=
  .append (Escape.printable_ofNat _) (.cons rfl (Escape.printable_ofNat _))

/-- A line splits at its tabs into place, class and written text. -/
theorem splitOn_row : token.row.splitOn '\t' =
    [token.place, token.kind.name.toList, Escape.ofChars token.text] := by
  have place : '\t' ∉ token.place := token.printable_place.notMem rfl
  have name : '\t' ∉ token.kind.name.toList := token.kind.printable_name.notMem rfl
  have written : '\t' ∉ Escape.ofChars token.text := (Escape.printable_ofChars token.text).notMem rfl
  rw [row, List.append_assoc, List.cons_append, List.splitOn_append_cons_self_of_not_mem place,
    List.splitOn_append_cons_self_of_not_mem name, List.splitOn_eq_singleton written]

private theorem readRow?_row : readRow? token.row = some token.text := by
  rw [readRow?, splitOn_row]
  exact Escape.chars?_ofChars token.text

theorem printable_of_mem_row {c : Char} (member : c ∈ token.row) : c = '\t' ∨ isPrintable c = true := by
  simp only [row, List.mem_append, List.mem_cons] at member
  rcases member with (place | rfl | name) | rfl | written
  · exact .inr (token.printable_place c place)
  · exact .inl rfl
  · exact .inr (token.kind.printable_name c name)
  · exact .inl rfl
  · exact .inr (Escape.printable_ofChars token.text c written)

theorem lineFeed_notMem_row : '\n' ∉ token.row := by
  intro member
  obtain same | printable := token.printable_of_mem_row member
  · contradiction
  · contradiction

end Token

end Rows

theorem splitOn_flatMap_tokenLine (tokens : List Token) :
    (tokens.flatMap Execution.tokenLine).splitOn '\n' = tokens.map Token.row ++ [[]] := by
  induction tokens with
  | nil => rfl
  | cons token rest ih =>
    have line : Execution.tokenLine token = token.row ++ ['\n'] := rfl
    rw [List.flatMap_cons, line, List.append_assoc, List.cons_append, List.nil_append,
      List.splitOn_append_cons_self_of_not_mem token.lineFeed_notMem_row, ih]
    rfl

private theorem count_flatMap_tokenLine (tokens : List Token) :
    (tokens.flatMap Execution.tokenLine).count '\n' = tokens.length := by
  induction tokens with
  | nil => rfl
  | cons token rest ih =>
    have line : Execution.tokenLine token = token.row ++ ['\n'] := rfl
    rw [List.flatMap_cons, line, List.count_append, ih, List.count_append,
      List.count_eq_zero_of_not_mem token.lineFeed_notMem_row, List.count_singleton_self, List.length_cons]
    omega

private theorem mapM_readRow?_row (tokens : List Token) :
    (tokens.map Token.row).mapM readRow? = some (tokens.map Token.text) := by
  induction tokens with
  | nil => rfl
  | cons token rest ih =>
    rw [List.map_cons, List.mapM_cons, ih, token.readRow?_row]
    rfl

/-- The lines of tokens read back to their texts. -/
theorem readRows?_flatMap_tokenLine (tokens : List Token) :
    readRows? (tokens.flatMap Execution.tokenLine) = some (tokens.flatMap Token.text) := by
  rw [readRows?, splitOn_flatMap_tokenLine, List.dropLast_concat, mapM_readRow?_row, Option.map_some,
    List.flatMap_def]

/-- What a run shows that splits a text into tokens. It succeeds, and writes a line for each token, in
order, each ended by a line feed. A line has three fields, and apart from the tabs between them it is
printable. The lines read back to the text, so no other text is printed like it, and their number is
recorded. -/
structure PrintsTokens (text : List Char) (outcome : Outcome) : Prop where
  succeeds : outcome.failure = none
  lines : outcome.output.splitOn '\n' = (tokenize text).map Token.row ++ [[]]
  fields : ∀ token ∈ tokenize text, token.row.splitOn '\t' =
    [Digits.ofNat token.start.line ++ ':' :: Digits.ofNat token.start.col, token.kind.name.toList,
      Escape.ofChars token.text]
  printable : ∀ token ∈ tokenize text, ∀ c ∈ token.row, c = '\t' ∨ Escape.isPrintable c = true
  reads : readRows? outcome.output = some text
  apart : ∀ (heap : Heap) (other : List Char),
    ((Command.tokenize other).execute heap none).output = outcome.output → other = text
  events : outcome.events = [.tokenized (outcome.output.count '\n')]

theorem execute_tokenize (heap : Heap) (text : List Char) :
    (Command.tokenize text).execute heap none =
      ⟨(tokenize text).flatMap Execution.tokenLine, [.tokenized (tokenize text).length], none, heap⟩ := by
  have silent : (tokenize text).filterMap
      (Effect.event? ∘ fun token => .write (Execution.tokenLine token)) = [] :=
    List.filterMap_eq_nil_iff.mpr fun _ _ => rfl
  simp only [Command.execute_none, Execution.ofCommand, Execution.ofTokens, List.flatMap_append,
    List.flatMap_map, Effect.text, List.flatMap_cons, List.flatMap_nil, List.append_nil,
    List.filterMap_append, List.filterMap_map, silent]
  rfl

theorem readRows?_execute (heap : Heap) (text : List Char) :
    readRows? ((Command.tokenize text).execute heap none).output = some text := by
  rw [execute_tokenize, readRows?_flatMap_tokenLine, flatMap_text_tokenize]

/-- The output of every run that splits a text into tokens determines the text. -/
theorem printsTokens (heap : Heap) (text : List Char) :
    PrintsTokens text ((Command.tokenize text).execute heap none) where
  succeeds := by rw [execute_tokenize]
  lines := by rw [execute_tokenize, splitOn_flatMap_tokenLine]
  fields token _ := token.splitOn_row
  printable token _ c member := token.printable_of_mem_row member
  reads := readRows?_execute heap text
  apart := by
    intro heap' other same
    have again := readRows?_execute heap' other
    rw [same, readRows?_execute heap text] at again
    exact (Option.some.inj again).symm
  events := by rw [execute_tokenize, count_flatMap_tokenLine]

end OwnedText
