import OwnedText.CallerBuffer
import OwnedText.Text.Quoted

/-! # Commands

A command is what one run of the program does: write one value, copy a text and describe the copy, split
a text into tokens, or generate a completion script for a shell. The three kinds of values have a
subcommand each, so there are more subcommands than commands.
-/

namespace OwnedText

/-- Shells that completion scripts can be generated for. -/
inductive Shell where
  | bash
  | elvish
  | fish
  | powerShell
  | zsh
deriving DecidableEq, Repr

namespace Shell

def all : List Shell := [bash, elvish, fish, powerShell, zsh]

/-- The word that selects a shell on the command line. -/
def name : Shell → List Char
  | bash => "bash".toList
  | elvish => "elvish".toList
  | fish => "fish".toList
  | powerShell => "powershell".toList
  | zsh => "zsh".toList

/-- The shell that a word selects; words are matched exactly. -/
def ofName? (word : List Char) : Option Shell := all.find? fun shell => shell.name == word

/-- The form used for inspection. -/
def describe : Shell → String
  | bash => "Bash"
  | elvish => "Elvish"
  | fish => "Fish"
  | powerShell => "PowerShell"
  | zsh => "Zsh"

end Shell

/-- The words that select what to do. -/
inductive Subcommand where
  | int
  | float
  | bool
  | copy
  | tokenize
  | completion
deriving DecidableEq, Repr

namespace Subcommand

/-- In the order in which they are listed. -/
def all : List Subcommand := [int, float, bool, copy, tokenize, completion]

def name : Subcommand → List Char
  | int => "int".toList
  | float => "float".toList
  | bool => "bool".toList
  | copy => "copy".toList
  | tokenize => "tokenize".toList
  | completion => "completion".toList

/-- The subcommand that a word selects; words are matched exactly. -/
def ofName? (word : List Char) : Option Subcommand := all.find? fun sub => sub.name == word

@[simp] theorem ofName?_name (sub : Subcommand) : ofName? sub.name = some sub := by cases sub <;> decide

/-- The one value that a subcommand needs, as it is called in messages. -/
def placeholder : Subcommand → String
  | int | float | bool => "<VALUE>"
  | copy | tokenize => "<TEXT>"
  | completion => "<SHELL>"

/-- Numbers may be negative, so their subcommands take a value that starts with a hyphen. -/
def takesHyphens : Subcommand → Bool
  | int | float => true
  | bool | copy | tokenize | completion => false

end Subcommand

inductive Command where
  | write (value : Scalar)
  | copy (text : List Char) (nulTerminated : Bool)
  | tokenize (text : List Char)
  | completion (shell : Shell)
deriving DecidableEq

namespace Command

/-- The form used for inspection. -/
def describe : Command → String
  | write value =>
    let kind := match value with
      | .int _ => "Int"
      | .float _ => "Float"
      | .bool _ => "Bool"
    let text := String.ofList value.text
    s!"{kind} \x7b value: {text} \x7d"
  | copy text nulTerminated =>
    let text := Quoted.ofChars text
    s!"Copy \x7b text: {text}, nul: {nulTerminated} \x7d"
  | tokenize text =>
    let text := Quoted.ofChars text
    s!"Tokenize \x7b text: {text} \x7d"
  | completion shell => s!"Completion \x7b shell: {shell.describe} \x7d"

end Command

end OwnedText
