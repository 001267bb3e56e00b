import OwnedText.Text.Blank
import OwnedText.Text.Escape

/-! # Items of patterns

Characters and escapes, which are the smallest parts of a pattern, and the modes in which they are read.
In one of the modes blanks and comments may stand between the parts of a pattern, and between the digits
of an escape as well.

Every reader here gives back the text behind what it has read. That text is never longer than the one
that was read, and this is stated for each.
-/

namespace OwnedText.Pattern

/-- What the flags in force say about the text behind them. -/
structure Modes where
  foldsCase : Bool
  unicode : Bool
  skipsBlanks : Bool
deriving DecidableEq, Repr

/-- The text behind blanks and comments. A comment goes from a number sign to the end of its line. -/
def behindBlanks (inComment : Bool) : List Char → List Char
  | [] => []
  | c :: rest =>
    if inComment then behindBlanks (c != '\n') rest
    else if Blank.isBlank c then behindBlanks false rest
    else if c = '#' then behindBlanks true rest
    else c :: rest

private theorem length_behindBlanks_le (inComment : Bool) (text : List Char) :
    (behindBlanks inComment text).length ≤ text.length := by
  fun_induction behindBlanks inComment text <;> grind

namespace Modes

/-- The modes at the start of a pattern. -/
def initial : Modes := ⟨false, true, false⟩

/-- A flag is on in front of the hyphen, off behind it, and otherwise as it was. -/
def flag (letters : List Char) (letter : Char) (current : Bool) : Bool :=
  if (letters.takeWhile (· != '-')).contains letter then true
  else if letters.contains letter then false
  else current

/-- The modes behind flags. -/
def update (modes : Modes) (letters : List Char) : Modes :=
  ⟨flag letters 'i' modes.foldsCase, flag letters 'u' modes.unicode,
    flag letters 'x' modes.skipsBlanks⟩

/-- Folding letters of all scripts is asked for. -/
def foldsAllScripts (modes : Modes) : Bool := modes.foldsCase && modes.unicode

/-- The text behind what may be skipped. -/
def skip (modes : Modes) (text : List Char) : List Char :=
  if modes.skipsBlanks then behindBlanks false text else text

theorem length_skip_le (modes : Modes) (text : List Char) :
    (modes.skip text).length ≤ text.length := by
  unfold skip
  split
  · exact length_behindBlanks_le ..
  · exact Nat.le_refl _

/-- The next character that counts. Where blanks are skipped, so is the sign of a comment, but the
comment behind it is looked into. -/
def next? (modes : Modes) (text : List Char) : Option Char :=
  if modes.skipsBlanks then
    match Blank.trimStart text with
    | '#' :: comment => (Blank.trimStart comment).head?
    | rest => rest.head?
  else text.head?

end Modes

/-- What a character or an escape stands for: one character, one of a set, or a place between two. -/
inductive Item where
  | literal (c : Char)
  | set
  | place
deriving DecidableEq, Repr

/-- The number that as many digits in base sixteen denote, going on from a value. -/
def hexNumber? (modes : Modes) (value : Nat) : Nat → List Char → Option (Nat × List Char)
  | 0, text => some (value, text)
  | count + 1, text =>
    match modes.skip text with
    | [] => none
    | c :: rest =>
      match Escape.ofHexDigit? c.toLower with
      | none => none
      | some digit => hexNumber? modes (16 * value + digit) count rest

private theorem length_le_of_hexNumber? {modes : Modes} {value count number : Nat} {text rest : List Char}
    (found : hexNumber? modes value count text = some (number, rest)) : rest.length ≤ text.length := by
  fun_induction hexNumber? modes value count text with
  | case1 => simp_all
  | case2 => simp at found
  | case3 => simp at found
  | case4 value count text c after skipped digit _ ih =>
    have shorter := modes.length_skip_le text
    have := ih found
    simp only [skipped, List.length_cons] at shorter
    omega

/-- A character given by a fixed number of digits in base sixteen. -/
def hexItem? (modes : Modes) (count : Nat) (text : List Char) : Option (Item × List Char) :=
  match hexNumber? modes 0 count text with
  | none => none
  | some (code, rest) =>
    if code.isValidChar ∧ (modes.unicode ∨ count ≠ 2 ∨ code < 0x80) then
      some (.literal (Char.ofNat code), rest)
    else none

private theorem length_le_of_hexItem? {modes : Modes} {count : Nat} {text rest : List Char} {item : Item}
    (found : hexItem? modes count text = some (item, rest)) : rest.length ≤ text.length := by
  grind [hexItem?, → length_le_of_hexNumber?]

/-- The control characters that have letters. -/
def controlItem? (c : Char) : Option Item :=
  match c with
  | 'a' => some (.literal '\x07')
  | 'f' => some (.literal '\x0c')
  | 't' => some (.literal '\t')
  | 'n' => some (.literal '\n')
  | 'r' => some (.literal '\r')
  | 'v' => some (.literal '\x0b')
  | _ => none

/-- What a character behind a backslash stands for, if it is not followed by digits. -/
def letterItem? (modes : Modes) (c : Char) : Option Item :=
  if c = 'd' ∨ c = 's' ∨ c = 'w' then if modes.unicode then none else some .set
  else if c = 'b' ∨ c = 'B' ∨ c = '<' ∨ c = '>' then if modes.unicode then none else some .place
  else if c = 'A' ∨ c = 'z' then some .place
  else if c.toNat < 0x80 && !c.isAlphanum then some (.literal c)
  else controlItem? c

/-- What the text behind a backslash stands for. -/
def escapeItem? (modes : Modes) : List Char → Option (Item × List Char)
  | [] => none
  | c :: rest =>
    if c = 'x' then hexItem? modes 2 rest
    else if c = 'u' then hexItem? modes 4 rest
    else if c = 'U' then hexItem? modes 8 rest
    else (letterItem? modes c).map fun item => (item, rest)

private theorem length_lt_of_escapeItem? {modes : Modes} {text rest : List Char} {item : Item}
    (found : escapeItem? modes text = some (item, rest)) : rest.length < text.length := by
  cases text <;> grind [escapeItem?, Option.map_eq_some_iff, → length_le_of_hexItem?]

/-- The item at the start of a text. A character that would have to be folded is none. -/
def item? (modes : Modes) : List Char → Option (Item × List Char)
  | [] => none
  | c :: rest =>
    match if c = '\x5c' then escapeItem? modes rest else some (.literal c, rest) with
    | some (.literal c, after) => if modes.foldsAllScripts then none else some (.literal c, after)
    | found => found

theorem length_lt_of_item? {modes : Modes} {text rest : List Char} {item : Item}
    (found : item? modes text = some (item, rest)) : rest.length < text.length := by
  cases text <;> grind [item?, → length_lt_of_escapeItem?]

end OwnedText.Pattern
