import OwnedText.Token.Basic

/-! # Scanning one token

A scan walks over the source one character at a time. For the character ahead it settles two questions
that do not depend on each other: is the character taken, and does the token end here? A symbol is taken
only as the first character and always ends the token. A letter or digit is taken, and the token goes
on, unless the token is of another class by now. A separator is taken unless the last character was a
different one.

The class of the token is carried along. That it is the class of the last character taken, and missing as
long as there is none, belongs to the type. `step_shortens` is why a scan ends: a step that does not end the
token has taken a character.
-/

namespace OwnedText

/-- Whether the character ahead is taken, and whether the token ends. -/
structure Verdict where
  advance : Bool
  emit : Bool
deriving DecidableEq, Repr

/-- A token in the making: its class, the characters taken, last one first, the place behind them, and the
source ahead. -/
structure Scan where
  kind : Option TokenKind
  taken : List Char
  cursor : Position
  rest : List Char
  classified : kind = taken.head?.map TokenKind.of
deriving DecidableEq

namespace Scan

/-- The class is missing exactly as long as nothing has been taken. -/
@[simp] theorem kind_eq_none_iff (scan : Scan) : scan.kind = none ↔ scan.taken = [] := by
  rw [scan.classified, Option.map_eq_none_iff, List.head?_eq_none_iff]

/-- Judge the character ahead by the class of the token and the characters taken so far. -/
def judge (kind : Option TokenKind) (taken : List Char) (c : Char) : Verdict :=
  match TokenKind.of c with
  | .symbol => ⟨taken.isEmpty, true⟩
  | .separator =>
    let ends := taken.head?.any (· != c)
    ⟨!ends, ends⟩
  | other =>
    let ends := kind.any (· != other)
    ⟨!ends, ends⟩

/-- Nothing taken yet. -/
def start (cursor : Position) (rest : List Char) : Scan := ⟨none, [], cursor, rest, rfl⟩

/-- The scan behind the character ahead, whose class is now that of the token. -/
def taking (scan : Scan) (c : Char) (rest : List Char) : Scan :=
  ⟨some (TokenKind.of c), c :: scan.taken, scan.cursor.advance c, rest, rfl⟩

/-- One iteration: the scan afterwards, and whether it has ended. -/
def step (scan : Scan) : Scan × Bool :=
  match scan.rest with
  | [] => (scan, true)
  | c :: rest =>
    let verdict := judge scan.kind scan.taken c
    (if verdict.advance then scan.taking c rest else scan, verdict.emit)

/-- A character that does not end the token is taken. -/
theorem advance_of_not_emit {kind : Option TokenKind} {taken : List Char} {c : Char}
    (goesOn : (judge kind taken c).emit = false) : (judge kind taken c).advance = true := by
  unfold judge at goesOn ⊢
  split at goesOn <;> simp_all

theorem step_shortens {scan next : Scan} (goesOn : scan.step = (next, false)) :
    next.rest.length < scan.rest.length := by
  unfold step at goesOn
  split at goesOn
  · simp at goesOn
  · rename_i c rest ahead
    simp only [Prod.mk.injEq] at goesOn
    rw [advance_of_not_emit goesOn.2] at goesOn
    simp [← goesOn.1, ahead, taking]

/-- Iterate until the token has ended. -/
def finish (scan : Scan) : Scan :=
  match _ended : scan.step with
  | (next, true) => next
  | (next, false) => finish next
termination_by scan.rest.length
decreasing_by exact step_shortens _ended

/-- The token made of the characters taken, if it has a class. -/
def token? (scan : Scan) (start : Position) : Option Token :=
  scan.kind.map fun kind => ⟨kind, scan.taken.reverse, start⟩

theorem taken_of_token? {scan : Scan} {start : Position} {token : Token}
    (found : scan.token? start = some token) : scan.taken ≠ [] := by
  intro nothing
  rw [token?, scan.kind_eq_none_iff.mpr nothing] at found
  contradiction

/-- The scan has taken the leading part of a text and stands behind it. -/
def Follows (scan : Scan) (origin : Position) (text : List Char) : Prop :=
  text = scan.taken.reverse ++ scan.rest ∧ scan.cursor = origin.advanceBy scan.taken.reverse

theorem follows_start (origin : Position) (text : List Char) :
    (start origin text).Follows origin text := ⟨rfl, rfl⟩

theorem Follows.step {scan : Scan} {origin : Position} {text : List Char}
    (follows : scan.Follows origin text) : scan.step.1.Follows origin text := by
  unfold Scan.step
  split
  · exact follows
  · rename_i c rest ahead
    simp only
    split
    · refine ⟨?_, ?_⟩
      · simp [follows.1, ahead, taking]
      · simp [follows.2, Position.advanceBy, taking]
    · exact follows

theorem Follows.finish {scan : Scan} {origin : Position} {text : List Char}
    (follows : scan.Follows origin text) : scan.finish.Follows origin text := by
  fun_induction Scan.finish scan with
  | case1 scan next ended => simpa [ended] using follows.step
  | case2 scan next ended ih => exact ih (by simpa [ended] using follows.step)

end Scan

end OwnedText
