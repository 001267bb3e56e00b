import OwnedText.LogFilter.Pattern.Set
import OwnedText.Text.Alphanumeric

/-! # Search patterns

Which texts are search patterns, that is, regular expressions with groups, alternatives, repetitions,
bracketed sets and flags. Whether a pattern matches anything is not asked.

Sets and word boundaries of all scripts are not at hand, and neither is the folding of letters to one
case beyond ASCII. A pattern that needs them is refused. Without the flag `u` a pattern stays within
ASCII, has those sets, and is refused where it could match a part of a character. A pattern is also
refused if its parts go too deep.

A pattern is read from left to right, and what is open is kept on two stacks: groups, and bracketed sets
within the innermost group.
-/

namespace OwnedText.Pattern

/-! ## Groups -/

/-- What an opening parenthesis begins: a group, or flags for the rest of the group around it. -/
inductive Opening where
  | group (modes : Modes) (name : Option (List Char))
  | flags (modes : Modes)
deriving DecidableEq, Repr

/-- Names begin with a letter or an underscore. -/
def isName : List Char → Bool
  | [] => false
  | c :: rest =>
    (c = '_' || Alphanumeric.isAlphabetic c) &&
      rest.all fun c => c = '_' || c = '.' || c = '[' || c = ']' || Alphanumeric.isAlphanumeric c

/-- The name of a group, up to the sign that closes it. -/
def named? (modes : Modes) (text : List Char) : Option (Opening × List Char) :=
  let name := text.takeWhile (· != '>')
  match text.dropWhile (· != '>') with
  | _ :: rest => if isName name then some (.group modes (some name), rest) else none
  | [] => none

private theorem length_le_of_named? {modes : Modes} {text rest : List Char} {opening : Opening}
    (found : named? modes text = some (opening, rest)) : rest.length ≤ text.length := by
  have shorter := (text.dropWhile_sublist (· != '>')).length_le
  grind [named?]

/-- The letters of flags. -/
def flagLetters : List Char := ['i', 'm', 's', 'U', 'u', 'R', 'x', '-']

/-- Each flag stands once, and a hyphen stands in front of one. -/
def isFlags (letters : List Char) : Bool :=
  letters.all flagLetters.contains && flagLetters.all (letters.count · ≤ 1) &&
    letters.getLast? != some '-'

/-- Flags, for a group if a colon follows and otherwise on their own. -/
def flags? (modes : Modes) (text : List Char) : Option (Opening × List Char) :=
  let letters := text.takeWhile fun c => c != ':' && c != ')'
  if isFlags letters then
    match text.dropWhile fun c => c != ':' && c != ')' with
    | ':' :: rest => some (.group (modes.update letters) none, rest)
    | ')' :: rest => if letters.isEmpty then none else some (.flags (modes.update letters), rest)
    | _ => none
  else none

private theorem length_le_of_flags? {modes : Modes} {text rest : List Char} {opening : Opening}
    (found : flags? modes text = some (opening, rest)) : rest.length ≤ text.length := by
  have shorter := (text.dropWhile_sublist fun c => c != ':' && c != ')').length_le
  grind [flags?]

/-- What the text behind an opening parenthesis begins. -/
def opening? (modes : Modes) : List Char → Option (Opening × List Char)
  | '?' :: 'P' :: '<' :: rest => named? modes rest
  | '?' :: '<' :: rest => named? modes rest
  | '?' :: rest => flags? modes rest
  | rest => some (.group modes none, rest)

private theorem length_le_of_opening? {modes : Modes} {text rest : List Char} {opening : Opening}
    (found : opening? modes text = some (opening, rest)) : rest.length ≤ text.length := by
  fun_cases opening? modes text <;>
    grind [opening?, → length_le_of_named?, → length_le_of_flags?]

/-! ## Patterns -/

/-- What is kept of the text around a group while the group is open. -/
structure Surroundings where
  modes : Modes
  branches : Parts
  sequence : Sequence
deriving DecidableEq, Repr

/-- What has to be known of the text that has been read. -/
structure Reading where
  modes : Modes
  /-- The finished alternatives of the innermost group. -/
  branches : Parts
  /-- The alternative that is being read. -/
  sequence : Sequence
  /-- What is around each open group, innermost first. -/
  outer : List Surroundings
  /-- The bracketed sets that are open, innermost first. -/
  sets : List OpenSet
  names : List (List Char)
deriving DecidableEq, Repr

namespace Reading

def initial : Reading := ⟨.initial, .empty, .empty, [], [], []⟩

/-- How deep the innermost group is up to here. -/
def depth (reading : Reading) : Nat := (reading.branches.add reading.sequence.depth).depth

/-- Add something that can be repeated. -/
def add (reading : Reading) (depth : Nat) : Reading :=
  { reading with sequence := reading.sequence.add depth }

/-- Open a bracketed set. -/
def openSet? (reading : Reading) (text : List Char) : Option (Reading × List Char) :=
  let opened := { reading with sets := .empty :: reading.sets }
  match reading.modes.skip text with
  | '^' :: rest => if reading.modes.unicode then some (opened, rest) else none
  | rest => some (opened, rest)

theorem length_le_of_openSet? {reading next : Reading} {text rest : List Char}
    (opened : reading.openSet? text = some (next, rest)) : rest.length ≤ text.length := by
  grind [openSet?, Modes.length_skip_le]

/-- Close the innermost set, which becomes a member of the one around it or a part of the pattern. -/
def closeSet (reading : Reading) (set : OpenSet) : List OpenSet → Reading
  | [] => { reading with sets := [] }.add (set.depth + 1)
  | parent :: outer => { reading with sets := parent.add (set.depth + 1) :: outer }

/-- Read a character inside of the innermost set. -/
def stepInSet? (reading : Reading) (set : OpenSet) (outer : List OpenSet) (c : Char)
    (rest : List Char) : Option (Reading × List Char) :=
  let modes := reading.modes
  let withSet (set : OpenSet) : Reading := { reading with sets := set :: outer }
  if set.atStart ∧ c = '-' then
    if modes.foldsAllScripts then none else some (withSet set.addHyphen, rest)
  else if set.atStart ∧ set.members.count = 0 ∧ c = ']' then
    if modes.foldsAllScripts then none else some (withSet (set.add 0), rest)
  else if c = ']' then some (reading.closeSet set outer, rest)
  else if c = '[' then
    match namedSet? rest with
    | some (isComplement, rest) =>
      if modes.foldsAllScripts ∨ isComplement ∧ ¬modes.unicode then none
      else some (withSet (set.add 0), rest)
    | none => reading.openSet? rest
  else if (c = '&' ∨ c = '-' ∨ c = '~') ∧ rest.head? = some c then
    some (withSet set.operate, rest.drop 1)
  else (behindMember? modes (c :: rest)).map fun rest => (withSet (set.add 0), rest)

private theorem length_le_of_stepInSet? {reading next : Reading} {set : OpenSet} {outer : List OpenSet}
    {c : Char} {rest after : List Char}
    (stepped : reading.stepInSet? set outer c rest = some (next, after)) :
    after.length ≤ rest.length := by
  grind [stepInSet?, Option.map_eq_some_iff, → length_le_of_namedSet?, → length_le_of_openSet?,
    → length_lt_of_behindMember?]

/-- Open a group, whose name must be new. -/
def openGroup? (reading : Reading) (text : List Char) : Option (Reading × List Char) :=
  match opening? reading.modes (reading.modes.skip text) with
  | none => none
  | some (.flags modes, rest) =>
    some ({ reading with modes := modes, sequence := reading.sequence.addFlags }, rest)
  | some (.group modes name, rest) =>
    if name.any reading.names.contains then none
    else
      some ({ reading with
        modes := modes
        branches := .empty
        sequence := .empty
        outer := ⟨reading.modes, reading.branches, reading.sequence⟩ :: reading.outer
        names := name.toList ++ reading.names }, rest)

/-- Close the innermost group. -/
def closeGroup? (reading : Reading) : Option Reading :=
  match reading.outer with
  | [] => none
  | around :: outer =>
    some { reading with
      modes := around.modes
      branches := around.branches
      sequence := around.sequence.add (reading.depth + 1)
      outer := outer }

/-- Repeat what is in front. A question mark directly behind the operator belongs to it. -/
def repeatLast? (reading : Reading) (rest : List Char) : Option (Reading × List Char) :=
  match reading.sequence.repeatLast? with
  | none => none
  | some sequence =>
    let rest := if rest.head? = some '?' then rest.drop 1 else rest
    some ({ reading with sequence := sequence }, rest)

/-- Read a character or an escape that is no operator. -/
def stepItem? (reading : Reading) (text : List Char) : Option (Reading × List Char) :=
  (item? reading.modes text).map fun found => (reading.add 0, found.2)

/-- Read a character outside of bracketed sets. An opening brace would have to be closed, and texts
with closing braces are no patterns here. -/
def stepOutside? (reading : Reading) (c : Char) (rest : List Char) : Option (Reading × List Char) :=
  if c = '(' then reading.openGroup? rest
  else if c = ')' then reading.closeGroup?.map fun reading => (reading, rest)
  else if c = '|' then
    some ({ reading with
      branches := reading.branches.add reading.sequence.depth
      sequence := .empty }, rest)
  else if c = '[' then reading.openSet? rest
  else if c = '?' ∨ c = '*' ∨ c = '+' then reading.repeatLast? rest
  else if c = '\x7b' then none
  else if c = '.' then if reading.modes.unicode then some (reading.add 0, rest) else none
  else if c = '^' ∨ c = '$' then some (reading.add 0, rest)
  else reading.stepItem? (c :: rest)

private theorem length_le_of_stepOutside? {reading next : Reading} {c : Char} {rest after : List Char}
    (stepped : reading.stepOutside? c rest = some (next, after)) : after.length ≤ rest.length := by
  grind [stepOutside?, openGroup?, stepItem?, repeatLast?, Option.map_eq_some_iff,
    → length_le_of_opening?, → length_le_of_openSet?, → length_lt_of_item?, Modes.length_skip_le]

/-- Read what begins with a character, and give back the text behind it. -/
def step? (reading : Reading) (c : Char) (rest : List Char) : Option (Reading × List Char) :=
  match reading.sets with
  | [] => reading.stepOutside? c rest
  | set :: outer => reading.stepInSet? set outer c rest

private theorem length_le_of_step? {reading next : Reading} {c : Char} {rest after : List Char}
    (stepped : reading.step? c rest = some (next, after)) : after.length ≤ rest.length := by
  grind [step?, → length_le_of_stepInSet?, → length_le_of_stepOutside?]

/-- Read a text to its end. -/
def readAll? (reading : Reading) (text : List Char) : Option Reading :=
  match skipped : reading.modes.skip text with
  | [] => some reading
  | c :: rest =>
    match stepped : reading.step? c rest with
    | none => none
    | some (next, after) =>
      have : after.length < text.length := by
        have shorter := reading.modes.length_skip_le text
        rw [skipped, List.length_cons] at shorter
        exact Nat.lt_of_le_of_lt (length_le_of_step? stepped) shorter
      next.readAll? after
termination_by text.length

/-- At the end no group and no set may be open, and nothing may be too deep. -/
def isComplete (reading : Reading) : Bool :=
  reading.outer.isEmpty && reading.sets.isEmpty && reading.depth ≤ depthLimit

end Reading

/-- The text is a pattern. -/
def isPattern (text : List Char) : Bool := (Reading.initial.readAll? text).any Reading.isComplete

end OwnedText.Pattern
