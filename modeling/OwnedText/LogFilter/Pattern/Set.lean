import OwnedText.LogFilter.Pattern.Depth
import OwnedText.LogFilter.Pattern.Item

/-! # Members of bracketed sets

What stands between the brackets of a set: characters, ranges of characters, and sets of ASCII characters
that have a name.
-/

namespace OwnedText.Pattern

/-- The names of sets of ASCII characters. -/
def setNames : List String :=
  ["alnum", "alpha", "ascii", "blank", "cntrl", "digit", "graph", "lower", "print", "punct", "space",
    "upper", "word", "xdigit"]

/-- A named set behind an opening bracket: whether it is the complement, and the text behind it. -/
def namedSet? : List Char → Option (Bool × List Char)
  | ':' :: text =>
    let isComplement := text.head? = some '^'
    let text := if isComplement then text.drop 1 else text
    match text.dropWhile (· != ':') with
    | ':' :: ']' :: rest =>
      if setNames.contains (String.ofList (text.takeWhile (· != ':'))) then some (isComplement, rest)
      else none
    | _ => none
  | _ => none

theorem length_le_of_namedSet? {text rest : List Char} {isComplement : Bool}
    (found : namedSet? text = some (isComplement, rest)) : rest.length ≤ text.length := by
  have shorter (text : List Char) : (text.dropWhile (· != ':')).length ≤ text.length :=
    (List.dropWhile_sublist _).length_le
  fun_cases namedSet? text <;> grind [namedSet?]

/-- An item can be a member of a set. -/
def isMember (modes : Modes) : Item → Bool
  | .literal c => modes.unicode || c.toNat < 0x80
  | .set => true
  | .place => false

/-- The text behind a member, or behind a range of them, which ascends. A hyphen in front of a closing
bracket or of another hyphen makes no range. -/
def behindMember? (modes : Modes) (text : List Char) : Option (List Char) :=
  match item? modes text with
  | none => none
  | some (first, rest) =>
    if isMember modes first then
      match modes.skip rest with
      | '-' :: after =>
        if modes.next? after = some ']' ∨ modes.next? after = some '-' then some ('-' :: after)
        else
          match first, item? modes (modes.skip after) with
          | .literal low, some (.literal high, rest) =>
            if isMember modes (.literal high) ∧ low ≤ high then some rest else none
          | _, _ => none
      | rest => some rest
    else none

theorem length_lt_of_behindMember? {modes : Modes} {text rest : List Char}
    (found : behindMember? modes text = some rest) : rest.length < text.length := by
  grind [behindMember?, → length_lt_of_item?, Modes.length_skip_le]

end OwnedText.Pattern
