import OwnedText.Command.Help

/-! # Completion

What may come next on a command line, as completion scripts offer it. The subcommands in front of a
place determine which flags, values and subcommands are offered there.
-/

namespace OwnedText

/-- A flag as it is offered: its letter if it has one, its word, and what it does. -/
structure OfferedFlag where
  letter : Option Char
  word : String
  about : String
deriving DecidableEq, Repr

namespace OfferedFlag

def help : OfferedFlag := ⟨some 'h', "help", "Print help"⟩

def version : OfferedFlag := ⟨some 'V', "version", "Print version"⟩

def nul : OfferedFlag := ⟨none, "nul", "Treat the source as NUL-terminated"⟩

/-- The ways to write a flag, the short one first. -/
def spellings (flag : OfferedFlag) : List String :=
  (flag.letter.map fun letter => s!"-{letter}").toList ++ [s!"--{flag.word}"]

end OfferedFlag

/-- What is offered behind some subcommands. -/
structure CompletionPlace where
  path : List String
  flags : List OfferedFlag
  /-- The values there are, or a placeholder for any. -/
  values : List String
  /-- The subcommands, and what they do. -/
  subcommands : List (String × String)
deriving DecidableEq, Repr

namespace Subcommand

/-- The flags of a subcommand. -/
def offeredFlags : Subcommand → List OfferedFlag
  | copy => [.nul, .help]
  | int | float | bool | tokenize | completion => [.help]

/-- The values of a subcommand. -/
def offeredValues : Subcommand → List String
  | bool => ["true", "false"]
  | completion => Shell.all.map fun shell => String.ofList shell.name
  | sub => [sub.placeholder]

end Subcommand

namespace CompletionPlace

/-- The subcommands behind the program and behind help. -/
def listed : List (String × String) :=
  Subcommand.all.map (fun sub => (String.ofList sub.name, sub.about)) ++
    [("help", "Print this message or the help of the given subcommand(s)")]

/-- All places. -/
def all : List CompletionPlace :=
  ⟨[], [.help, .version], [], listed⟩ ::
    Subcommand.all.map (fun sub =>
      ⟨[String.ofList sub.name], sub.offeredFlags, sub.offeredValues, []⟩) ++
    ⟨["help"], [], [], listed⟩ ::
    listed.map fun entry => ⟨["help", entry.1], [], [], []⟩

/-- The subcommands in front, the program first. -/
def words (place : CompletionPlace) : List String := "jo" :: place.path

/-- All words that are offered: short flags, long flags, values and subcommands. -/
def offers (place : CompletionPlace) : List String :=
  place.flags.filterMap (fun flag => flag.letter.map fun letter => s!"-{letter}") ++
    place.flags.map (fun flag => s!"--{flag.word}") ++ place.values ++ place.subcommands.map Prod.fst

end CompletionPlace

end OwnedText
