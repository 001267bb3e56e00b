import OwnedText.Text.Escape

/-! # Text on a terminal

What a terminal shows of a text. Printable characters show, and so do tabs, line feeds, form feeds and
carriage returns. Other control characters do not, and neither do control sequences, which an escape
character begins at any time. How such a sequence ends depends on its kind: some end with their first
letter, some after parameters, and some hold a string that goes on to a terminator.
-/

namespace OwnedText.Terminal

/-- How far a control sequence has been read. -/
inductive Phase where
  /-- Outside of any sequence. -/
  | plain
  /-- Behind the escape character. -/
  | escape
  /-- Inside a sequence that ends with its first character that is no punctuation. -/
  | intermediate
  /-- Inside a control sequence, before the letter that ends it. -/
  | parameters
  /-- Inside a command for the system around the terminal, which the bell ends. -/
  | systemCommand
  /-- At the start of the head of a device string. -/
  | device
  /-- Inside the head of a device string, among its parameters. -/
  | deviceParameters
  /-- Inside the head of a device string, behind its parameters. -/
  | deviceIntermediate
  /-- Inside a string that a terminator ends. -/
  | string
deriving DecidableEq, Repr

/-- A character that moves the place of writing and counts as shown. -/
def isLayout (c : Char) : Bool := c = '\t' || c = '\n' || c = '\x0c' || c = '\r'

/-- A character outside ASCII; on a terminal they all print. -/
def isForeign (c : Char) : Bool := 0x80 ≤ c.toNat

namespace Phase

/-- The kind of sequence that a character behind the escape character begins, if it does not end it. -/
def begun (c : Char) : Phase :=
  if c = '[' then parameters
  else if c = ']' then systemCommand
  else if c = 'P' then device
  else if c = 'X' || c = '^' || c = '_' then string
  else if c ≤ '/' then intermediate
  else plain

/-- Where a printable character leads inside a sequence. -/
def next : Phase → Char → Phase
  | plain, _ => plain
  | escape, c => begun c
  | intermediate, c => if c ≤ '/' then intermediate else plain
  | parameters, c => if c ≤ '?' then parameters else plain
  | systemCommand, _ => systemCommand
  | device, c =>
    if c ≤ '/' then deviceIntermediate else if c ≤ '?' then deviceParameters else string
  | deviceParameters, c =>
    if c ≤ '/' then deviceIntermediate else if c ≤ ';' then deviceParameters else string
  | deviceIntermediate, c => if c ≤ '/' then deviceIntermediate else string
  | string, _ => string

/-- The byte that ends a string wherever it stands, inside of a character too. -/
def terminator : UInt8 := 0x9c

/-- Where a character leads, and whether it shows. The escape character begins a new sequence, and
cancel and substitute end any. -/
def step (phase : Phase) (c : Char) : Phase × Bool :=
  if c = '\x1b' then (escape, false)
  else if c = '\x18' || c = '\x1a' then (plain, false)
  else
    match phase with
    | plain => (plain, Escape.isPrintable c || isForeign c || isLayout c)
    | escape | intermediate | parameters =>
      if isLayout c then (plain, true) else (if Escape.isPrintable c then phase.next c else phase, false)
    | systemCommand => (if c = '\x07' then plain else systemCommand, false)
    | device | deviceParameters | deviceIntermediate =>
      (if Escape.isPrintable c then phase.next c else phase, false)
    | string => (if (String.utf8EncodeChar c).contains terminator then plain else string, false)

end Phase

/-- What shows of a text that begins inside a sequence. -/
def visibleFrom : Phase → List Char → List Char
  | _, [] => []
  | phase, c :: rest =>
    let (after, shows) := phase.step c
    if shows then c :: visibleFrom after rest else visibleFrom after rest

/-- What shows of a text. -/
def visible (text : List Char) : List Char := visibleFrom .plain text

end OwnedText.Terminal
