/-! # Tokens and positions

Characters fall into four classes. A token is a run of source text of one class together with the place
of its first character. Places are counted in three units at once: bytes of the source, lines, and
characters since the last line feed.
-/

namespace OwnedText

/-- Classes of characters: ASCII letters, ASCII digits, the three separators, and everything else. -/
inductive TokenKind where
  | ident
  | number
  | symbol
  | separator
deriving DecidableEq, Repr

namespace TokenKind

/-- The class of one character. -/
def of (c : Char) : TokenKind :=
  if c = ' ' ∨ c = '\t' ∨ c = '\n' then separator
  else if c.isAlpha then ident
  else if c.isDigit then number
  else symbol

/-- A short name in lower case. -/
def name : TokenKind → String
  | ident => "id"
  | number => "num"
  | symbol => "sym"
  | separator => "sep"

/-- The full name, used for inspection. -/
def describe : TokenKind → String
  | ident => "Ident"
  | number => "Number"
  | symbol => "Symbol"
  | separator => "Separator"

end TokenKind

/-- A place in a source. Lines and columns are counted from zero. -/
structure Position where
  pos : Nat
  line : Nat
  col : Nat
deriving DecidableEq, Repr

namespace Position

/-- The start of a source. -/
def origin : Position := ⟨0, 0, 0⟩

/-- The place behind one more character. -/
def advance (position : Position) (c : Char) : Position :=
  if c = '\n' then ⟨position.pos + c.utf8Size, position.line + 1, 0⟩
  else ⟨position.pos + c.utf8Size, position.line, position.col + 1⟩

/-- The place behind more text. -/
def advanceBy (position : Position) (text : List Char) : Position := text.foldl advance position

/-- The form used for inspection. -/
def describe (position : Position) : String :=
  s!"Position \x7b pos: {position.pos}, line: {position.line}, col: {position.col} \x7d"

end Position

structure Token where
  kind : TokenKind
  text : List Char
  start : Position
deriving DecidableEq, Repr

end OwnedText
