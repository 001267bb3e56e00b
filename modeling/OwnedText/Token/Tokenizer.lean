import OwnedText.Text.Quoted
import OwnedText.Token.Scan

/-! # Lazy tokenizers

A tokenizer is a source, the part of it that is still ahead, and two places: the cursor, where the next
token will start, and the mark, where the latest call started. That the cursor is the place behind the
part already consumed belongs to the type. Reading a token returns it with the tokenizer that stands
behind it; the old tokenizer stays as it was, so a copy is independent of what it was made from.
-/

namespace OwnedText

structure Tokenizer where
  source : List Char
  rest : List Char
  cursor : Position
  mark : Position
  located : ∃ consumed, source = consumed ++ rest ∧ cursor = Position.origin.advanceBy consumed

namespace Tokenizer

/-- At the start of a source. -/
def ofSource (source : List Char) : Tokenizer :=
  ⟨source, source, Position.origin, Position.origin, [], rfl, rfl⟩

/-- The scan of the token at the cursor. -/
def scanned (tokenizer : Tokenizer) : Scan := (Scan.start tokenizer.cursor tokenizer.rest).finish

theorem scanned_follows (tokenizer : Tokenizer) :
    tokenizer.scanned.Follows tokenizer.cursor tokenizer.rest :=
  (Scan.follows_start tokenizer.cursor tokenizer.rest).finish

/-- The tokenizer that stands where a scan from the cursor has ended. -/
def moved (tokenizer : Tokenizer) (scan : Scan)
    (follows : scan.Follows tokenizer.cursor tokenizer.rest) : Tokenizer where
  source := tokenizer.source
  rest := scan.rest
  cursor := scan.cursor
  mark := tokenizer.cursor
  located := by
    obtain ⟨consumed, source, cursor⟩ := tokenizer.located
    obtain ⟨rest, behind⟩ := follows
    refine ⟨consumed ++ scan.taken.reverse, ?_, ?_⟩
    · rw [List.append_assoc, ← rest, source]
    · rw [behind, cursor]
      simp [Position.advanceBy]

/-- Read one token: the token, if the source is not at its end, and the tokenizer behind it. -/
def read (tokenizer : Tokenizer) : Option Token × Tokenizer :=
  let scan := tokenizer.scanned
  (scan.token? tokenizer.cursor, tokenizer.moved scan tokenizer.scanned_follows)

theorem read_shortens {tokenizer next : Tokenizer} {token : Token}
    (found : tokenizer.read = (some token, next)) : next.rest.length < tokenizer.rest.length := by
  have whole := congrArg List.length tokenizer.scanned_follows.1
  simp only [read, Prod.mk.injEq] at found
  have taken := Scan.taken_of_token? found.1
  rw [← found.2]
  simp only [List.length_append, List.length_reverse] at whole
  simp only [moved]
  have positive := List.length_pos_iff.mpr taken
  omega

/-- Read on to the end of the source, behind tokens already read, last one first. -/
def collect (seen : List Token) (tokenizer : Tokenizer) : List Token :=
  match _found : tokenizer.read with
  | (none, _) => seen.reverse
  | (some token, next) => collect (token :: seen) next
termination_by tokenizer.rest.length
decreasing_by exact read_shortens _found

/-- All tokens that are still ahead. -/
def tokens (tokenizer : Tokenizer) : List Token := collect [] tokenizer

/-- The form used for inspection. -/
def describe (tokenizer : Tokenizer) : String :=
  let source := Quoted.ofChars tokenizer.source
  s!"Tokenizer \x7b src: {source}, cursor: {tokenizer.cursor.describe}, mark: {tokenizer.mark.describe} \x7d"

end Tokenizer

/-- All tokens of a source, in order. -/
def tokenize (source : List Char) : List Token := (Tokenizer.ofSource source).tokens

namespace Token

/-- The form used for inspection. -/
def describe (token : Token) : String :=
  let text := Quoted.ofChars token.text
  let start := token.start
  s!"Token \x7b kind: {token.kind.describe}, text: {text}, pos: {start.pos}, line: {start.line}, col: {start.col} \x7d"

/-- The form used for inspection of a token that may be missing. -/
def describe? : Option Token → String
  | none => "None"
  | some token => "Some(" ++ token.describe ++ ")"

end Token

end OwnedText
