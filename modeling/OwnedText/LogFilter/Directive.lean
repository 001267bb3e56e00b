import OwnedText.Decimal.Notation
import OwnedText.Event
import OwnedText.LogFilter.Pattern
import OwnedText.Text.Utf8

/-! # Log directives

A directive says how much is let through of the events that it selects. It is written as a target, by
which the source of an event has to start, then a span with a field between brackets and braces, and a
level behind an equals sign. Each part may be missing; without a level everything is let through, and a
level alone selects all events.

Blanks around a directive do not count when its parts are looked for. The places of the parts are then
counted in bytes, and it is the text with the blanks that is cut there, so leading blanks move all parts
but the last to the front, and trailing blanks belong to the last.
-/

namespace OwnedText

/-- Why a text is no directive. -/
inductive DirectiveError where
  | malformed
  | unknownLevel
  | malformedPattern
  /-- A part would begin or end inside of a character. -/
  | splitCharacter
deriving DecidableEq, Repr

namespace DirectiveError

def message : DirectiveError → String
  | malformed => "invalid filter directive"
  | unknownLevel =>
    "error parsing level filter: expected one of \"off\", \"error\", \"warn\", \"info\", \"debug\", " ++
      "\"trace\", or a number 0-5"
  | malformedPattern => "invalid field filter: error building NFA"
  | splitCharacter => "filter directive cut inside a character"

end DirectiveError

/-- A field that has to be there, and what its value has to be. -/
structure FieldCondition where
  name : List Char
  value : Option (List Char)
deriving DecidableEq, Repr

namespace FieldCondition

/-- Values are numbers or patterns; the words for true and false are patterns too. -/
def isValue (text : List Char) : Bool := (Binary64.read text).isOk || Pattern.isPattern text

/-- Read a name and, behind an equals sign, a value. What follows a second one does not count. -/
def ofText (text : List Char) : Except DirectiveError FieldCondition :=
  let name := text.takeWhile (· != '=')
  if text.isEmpty then .error .malformed
  else
    match text.drop name.length with
    | [] => .ok ⟨name, none⟩
    | _ :: rest =>
      let value := rest.takeWhile (· != '=')
      if isValue value then .ok ⟨name, some value⟩ else .error .malformedPattern

end FieldCondition

structure Directive where
  target : Option (List Char)
  span : Option (List Char)
  field : Option FieldCondition
  verbosity : Nat
deriving DecidableEq, Repr

namespace Directive

/-- Selects all events, and lets all of them through. -/
def everything : Directive := ⟨none, none, none, Level.trace.verbosity⟩

/-- What passes where no other directive applies. -/
def fallback : Directive := { everything with verbosity := Level.warn.verbosity }

/-! ## Reading -/

/-- The verbosity that a number stands for; leading zeros and a plus sign are allowed. -/
def verbosityOfNumber? (text : List Char) : Option Nat :=
  let digits := if text.head? = some '+' then text.drop 1 else text
  if !digits.isEmpty && digits.all Digits.isDigit && Digits.value digits ≤ Level.trace.verbosity then
    some (Digits.value digits)
  else none

/-- The verbosity that the name of a level stands for, in any mixture of cases. -/
def verbosityOfName? (text : List Char) : Option Nat :=
  let lower := text.map Char.toLower
  if lower = "off".toList then some 0
  else
    ([Level.error, .warn, .info, .debug, .trace].find? fun level =>
      lower = level.name.toList.map Char.toLower).map Level.verbosity

/-- The verbosity that a level stands for. -/
def verbosity? (text : List Char) : Option Nat :=
  match verbosityOfNumber? text with
  | some verbosity => some verbosity
  | none => verbosityOfName? text

/-- The part of a text from one place up to another, both counted in bytes. -/
def cut (text : List Char) (start stop : Nat) : Except DirectiveError (List Char) :=
  match Utf8.slice? start stop text with
  | some part => .ok part
  | none => .error .splitCharacter

/-- The part of a text from a place to the end. -/
def cutFrom (text : List Char) (start : Nat) : Except DirectiveError (List Char) :=
  match Utf8.drop? start text with
  | some part => .ok part
  | none => .error .splitCharacter

/-- The level is what is left. -/
def readLevel (text : List Char) (draft : Directive) (start : Nat) :
    Except DirectiveError Directive := do
  let level ← cutFrom text start
  if level.isEmpty then return draft
  match verbosity? level with
  | some verbosity => return { draft with verbosity := verbosity }
  | none => throw .unknownLevel

/-- Behind the closing bracket there is a level or nothing. -/
def readBehindSpan (text : List Char) (draft : Directive) (position : Nat) :
    List Char → Except DirectiveError Directive
  | [] => .ok draft
  | c :: _ => if c = '=' then readLevel text draft (position + 1) else .error .malformed

/-- A field goes on to the closing brace, and the closing bracket follows. -/
def readField (text : List Char) (draft : Directive) (start position : Nat) :
    List Char → Except DirectiveError Directive
  | [] => .error .malformed
  | c :: rest =>
    if c = '\x7d' then do
      let field ← FieldCondition.ofText (← cut text start position)
      match rest with
      | ']' :: rest => readBehindSpan text { draft with field := some field } (position + 2) rest
      | _ => throw .malformed
    else readField text draft start (position + c.utf8Size) rest

/-- The name of a span goes on to the closing bracket or to a field; in front of a field it may be
missing. -/
def readSpan (text : List Char) (draft : Directive) (start position : Nat) :
    List Char → Except DirectiveError Directive
  | [] => .error .malformed
  | c :: rest =>
    if c = ']' then do
      let span ← cut text start position
      readBehindSpan text { draft with span := some span } (position + 1) rest
    else if c = '\x7b' then do
      let span ← cut text start position
      let draft := if span.isEmpty then draft else { draft with span := some span }
      readField text draft (position + 1) (position + 1) rest
    else readSpan text draft start (position + c.utf8Size) rest

/-- A target goes on to a level or a span. Where neither follows, the text may be a level itself. -/
def readTarget (text : List Char) (position : Nat) : List Char → Except DirectiveError Directive
  | [] =>
    match verbosity? text with
    | some verbosity => .ok { everything with verbosity := verbosity }
    | none => .ok { everything with target := some text }
  | c :: rest =>
    if c = '=' then do
      let target ← cut text 0 position
      readLevel text { everything with target := some target } (position + 1)
    else if c = '[' then do
      let target ← cut text 0 position
      readSpan text { everything with target := some target } (position + 1) (position + 1) rest
    else readTarget text (position + c.utf8Size) rest

/-- Targets and levels start with a letter or number of any script or with one of three signs. -/
def startsTarget (c : Char) : Bool :=
  Alphanumeric.isAlphanumeric c || c = '-' || c = ':' || c = '_'

/-- Read a directive. -/
def ofText (text : List Char) : Except DirectiveError Directive :=
  match Blank.trim text with
  | [] => .error .malformed
  | c :: rest =>
    if c = '[' then readSpan text everything 1 1 rest
    else if startsTarget c then readTarget text 0 (c :: rest)
    else .error .malformed

/-! ## Selecting -/

/-- The event has the field. No event meets a condition on a value, since only the fields of spans have
values that can be looked at. -/
def admitsField (condition : FieldCondition) (event : Event) : Bool :=
  condition.value.isNone && event.fieldNames.any fun name => name.toList = condition.name

/-- The directive is about an event. Events occur outside of all spans. -/
def selects (directive : Directive) (event : Event) : Bool :=
  directive.span.isNone &&
    (directive.target.all fun target => target.isPrefixOf event.source.toList) &&
    directive.field.all fun condition => admitsField condition event

/-- How closely a target names the sources that it selects. -/
def closeness (directive : Directive) : Nat :=
  match directive.target with
  | none => 0
  | some target => target.length + 1

/-- A field is closer than none; two fields are told apart by the order of their names. -/
def fieldPrecedes : Option FieldCondition → Option FieldCondition → Bool
  | none, some _ => true
  | some first, some second => first.name < second.name
  | _, none => false

/-- The first directive gives way to the second, which names an event more closely. -/
def precedes (first second : Directive) : Bool :=
  first.closeness < second.closeness ||
    first.closeness = second.closeness && fieldPrecedes first.field second.field

end Directive

end OwnedText
