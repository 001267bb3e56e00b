import OwnedText.Command.Help
import OwnedText.Text.Terminal

/-! # Reading the command line

The words of a command line are read from left to right. A word has one of four shapes, told apart by
its leading hyphens. The first word selects a subcommand, asks for help or the version, or is a mistake;
the words after a subcommand are its one value and its flags.

Where values may start with a hyphen, a word that looks like a flag is the value as long as the value is
missing and the word is no known flag. Two hyphens alone end the flags. Help is answered as soon as it
is asked for, but a value that was found before it is checked first.
-/

namespace OwnedText

/-- What is wrong with a command line. -/
inductive UsageError where
  | missingSubcommand
  | invalidSubcommand (word : List Char)
  | unknownArgument (word : List Char)
  | missingArgument (placeholder : String)
  | invalidValue (value : List Char) (placeholder : String)
  | malformedInteger (value : List Char) (cause : Integer.ReadError)
  | malformedFloat (value : List Char) (cause : Binary64.ReadError)
  | tooManyValues (value flag : List Char)
  | argumentConflict (flag : List Char)
deriving DecidableEq, Repr

namespace UsageError

/-- The exit status of a mistaken command line. -/
def status : Nat := 2

/-- A word inside a message, which is made for a terminal. -/
def shown (word : List Char) : String := String.ofList (Terminal.visible word)

/-- The wording, the offending word included. -/
def message : UsageError → String
  | missingSubcommand => Topic.program.text
  | invalidSubcommand word => s!"error: unrecognized subcommand '{shown word}'"
  | unknownArgument word => s!"error: unexpected argument '{shown word}' found"
  | missingArgument placeholder =>
    s!"error: the following required arguments were not provided: {placeholder}"
  | invalidValue value placeholder => s!"error: invalid value '{shown value}' for '{placeholder}'"
  | malformedInteger value cause =>
    s!"error: invalid value '{shown value}' for '<VALUE>': {cause.message}"
  | malformedFloat value cause =>
    s!"error: invalid value '{shown value}' for '<VALUE>': {cause.message}"
  | tooManyValues value flag =>
    s!"error: unexpected value '{shown value}' for '--{shown flag}' found"
  | argumentConflict flag => s!"error: the argument '--{shown flag}' cannot be used multiple times"

end UsageError

/-- What a command line asks for. -/
inductive Request where
  | run (command : Command)
  | help (topic : Topic)
  | version
deriving DecidableEq

/-- The shape of one word. -/
inductive Shape where
  | separator
  | long (flag : List Char) (attached : Option (List Char))
  | short (letters : List Char)
  | plain
deriving DecidableEq, Repr

namespace Shape

/-- A long flag ends at the first equals sign; what follows that sign is attached to the flag. -/
def ofLong (word : List Char) : Shape :=
  let flag := word.takeWhile (· != '=')
  match word.dropWhile (· != '=') with
  | [] => long flag none
  | _ :: attached => long flag (some attached)

/-- A hyphen alone is a plain word, and so is the empty word. -/
def of : List Char → Shape
  | ['-', '-'] => separator
  | '-' :: '-' :: word => ofLong word
  | '-' :: letter :: letters => short (letter :: letters)
  | _ => plain

end Shape

/-- The long flag that asks for help. -/
def helpFlag : List Char := "help".toList

/-- The long flag that asks for the version. -/
def versionFlag : List Char := "version".toList

/-- The long flag that asks for a terminator. -/
def nulFlag : List Char := "nul".toList

namespace Subcommand

/-- The long flags that a subcommand knows. -/
def knowsFlag (sub : Subcommand) (flag : List Char) : Bool :=
  flag == helpFlag || sub == copy && flag == nulFlag

/-- The command that a value stands for. -/
def command (sub : Subcommand) (value : List Char) (nulTerminated : Bool) :
    Except UsageError Command :=
  match sub with
  | int =>
    match Integer.read value with
    | .ok number => .ok (.write (.int (Int64.ofInt number)))
    | .error cause => .error (.malformedInteger value cause)
  | float =>
    match Binary64.read value with
    | .ok number => .ok (.write (.float number))
    | .error cause => .error (.malformedFloat value cause)
  | bool =>
    if value = "true".toList then .ok (.write (.bool true))
    else if value = "false".toList then .ok (.write (.bool false))
    else .error (.invalidValue value sub.placeholder)
  | copy => .ok (.copy value nulTerminated)
  | tokenize => .ok (.tokenize value)
  | completion =>
    match Shell.ofName? value with
    | some shell => .ok (.completion shell)
    | none => .error (.invalidValue value sub.placeholder)

/-- All words are read. -/
def finish (sub : Subcommand) (value : Option (List Char)) (nulTerminated : Bool) :
    Except UsageError Request :=
  match value with
  | none => .error (.missingArgument sub.placeholder)
  | some value => (sub.command value nulTerminated).map .run

/-- Help is asked for; a value found so far has to be a good one. -/
def answerHelp (sub : Subcommand) (value : Option (List Char)) (nulTerminated : Bool) :
    Except UsageError Request :=
  match value with
  | none => .ok (.help (.subcommand sub))
  | some value => (sub.command value nulTerminated).map fun _ => .help (.subcommand sub)

/-- Read the words behind the separator: one of them may be the value, and none is a flag. -/
def readTrailing (sub : Subcommand) (value : Option (List Char)) (nulTerminated : Bool) :
    List (List Char) → Except UsageError Request
  | [] => sub.finish value nulTerminated
  | word :: rest =>
    match value with
    | none => sub.readTrailing (some word) nulTerminated rest
    | some _ => .error (.unknownArgument word)

/-- Read the words behind a subcommand. -/
def readWords (sub : Subcommand) (value : Option (List Char)) (nulTerminated : Bool) :
    List (List Char) → Except UsageError Request
  | [] => sub.finish value nulTerminated
  | word :: rest =>
    match Shape.of word with
    | .separator => sub.readTrailing value nulTerminated rest
    | .long flag attached =>
      if sub.knowsFlag flag then
        match attached with
        | some attached => .error (.tooManyValues attached flag)
        | none =>
          if flag = helpFlag then sub.answerHelp value nulTerminated
          else if nulTerminated then .error (.argumentConflict flag)
          else sub.readWords value true rest
      else if sub.takesHyphens && value.isNone then sub.readWords (some word) nulTerminated rest
      else .error (.unknownArgument word)
    | .short letters =>
      if sub.takesHyphens && value.isNone && letters.any (· != 'h') then
        sub.readWords (some word) nulTerminated rest
      else if letters.head? = some 'h' then sub.answerHelp value nulTerminated
      else .error (.unknownArgument word)
    | .plain =>
      match value with
      | none => sub.readWords (some word) nulTerminated rest
      | some _ => .error (.unknownArgument word)

end Subcommand

namespace Topic

/-- The topic that a word names. -/
def ofName? (word : List Char) : Option Topic :=
  if word = helpFlag then some help else (Subcommand.ofName? word).map subcommand

/-- The topic that words name. No topic has topics of its own. -/
def ofWords : List (List Char) → Except UsageError Topic
  | [] => .ok program
  | word :: rest =>
    match ofName? word, rest with
    | some topic, [] => .ok topic
    | some _, next :: _ => .error (.invalidSubcommand next)
    | none, _ => .error (.invalidSubcommand word)

end Topic

namespace Request

/-- Read a first word that selects no subcommand. -/
def ofFlag (word : List Char) (rest : List (List Char)) : Except UsageError Request :=
  match Shape.of word with
  | .separator =>
    match rest with
    | [] => .error .missingSubcommand
    | next :: _ =>
      if (Topic.ofName? next).isSome then .error (.unknownArgument next)
      else .error (.invalidSubcommand next)
  | .long flag attached =>
    if flag = helpFlag ∨ flag = versionFlag then
      match attached with
      | some attached => .error (.tooManyValues attached flag)
      | none => .ok (if flag = helpFlag then help .program else version)
    else .error (.unknownArgument word)
  | .short letters =>
    if letters.head? = some 'h' then .ok (help .program)
    else if letters.head? = some 'V' then .ok version
    else .error (.unknownArgument word)
  | .plain => .error (.invalidSubcommand word)

/-- Read the words of a command line. -/
def ofWords : List (List Char) → Except UsageError Request
  | [] => .error .missingSubcommand
  | word :: rest =>
    match Subcommand.ofName? word with
    | some sub => sub.readWords none false rest
    | none => if word = helpFlag then (Topic.ofWords rest).map help else ofFlag word rest

end Request

end OwnedText
