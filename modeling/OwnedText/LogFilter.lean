import OwnedText.LogFilter.Directive

/-! # Log filters

A filter is a list of directives, separated by commas. Of those that select an event, the one that names
it most closely decides, and of several that name it alike the last one written. A fixed directive that
lets warnings and errors through stands behind the others, so a level alone says nothing.

What is no directive is left out and reported.
-/

namespace OwnedText

/-- A text that is no directive. -/
structure Rejection where
  text : List Char
  cause : DirectiveError
deriving DecidableEq, Repr

namespace Rejection

/-- The line that reports it. -/
def line (rejection : Rejection) : String :=
  s!"ignoring `{String.ofList rejection.text}`: {rejection.cause.message}"

end Rejection

structure LogFilter where
  directives : List Directive
  rejections : List Rejection
deriving DecidableEq, Repr

namespace LogFilter

/-- Read texts one by one. Only a text that would be cut inside of a character ends the reading. -/
def ofTexts : List (List Char) → Except DirectiveError LogFilter
  | [] => .ok ⟨[], []⟩
  | text :: rest =>
    match Directive.ofText text with
    | .ok directive => do
      let filter ← ofTexts rest
      return { filter with directives := directive :: filter.directives }
    | .error .splitCharacter => .error .splitCharacter
    | .error cause => do
      let filter ← ofTexts rest
      return { filter with rejections := ⟨text, cause⟩ :: filter.rejections }

/-- Read directives; empty texts between commas are none. -/
def ofText (text : String) : Except DirectiveError LogFilter :=
  ofTexts (((text.splitOn ",").filter (!·.isEmpty)).map String.toList)

/-- The directive that decides about an event. -/
def deciding (filter : LogFilter) (event : Event) : Directive :=
  (filter.directives ++ [Directive.fallback]).foldl
    (fun closest directive =>
      if directive.selects event && !directive.precedes closest then directive else closest)
    Directive.fallback

/-- Whether an event passes. -/
def passes (filter : LogFilter) (event : Event) : Bool :=
  event.level.verbosity ≤ (filter.deciding event).verbosity

/-- The lines of the events that pass. -/
def lines (filter : LogFilter) (events : List Event) : List String :=
  (events.filter filter.passes).map Event.line

end LogFilter

end OwnedText
