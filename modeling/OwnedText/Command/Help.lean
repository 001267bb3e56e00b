import OwnedText.Command.Basic

/-! # Help texts

There is one text per topic: the program, each subcommand, and help itself. All are laid out alike:
what the topic does, how it is called, and what its arguments and options mean.
-/

namespace OwnedText

/-- What help can be asked for. -/
inductive Topic where
  | program
  | help
  | subcommand (sub : Subcommand)
deriving DecidableEq, Repr

namespace Subcommand

/-- What a subcommand does. -/
def about : Subcommand → String
  | int => "Print a signed 64-bit integer in minimal decimal form"
  | float => "Print a float in shortest round-trip form"
  | bool => "Print `true` or `false`"
  | copy => "Copy TEXT into an owned string and describe the copy"
  | tokenize => "Split TEXT into tokens, one per line as `line:col<TAB>kind<TAB>text`"
  | completion => "Generate a shell completion script"

/-- How a subcommand is called. -/
def usage : Subcommand → String
  | int => "jo int <VALUE>"
  | float => "jo float <VALUE>"
  | bool => "jo bool <VALUE>"
  | copy => "jo copy [OPTIONS] <TEXT>"
  | tokenize => "jo tokenize <TEXT>"
  | completion => "jo completion <SHELL>"

/-- What the one argument of a subcommand means. -/
def argument : Subcommand → String
  | int => "<VALUE>  Value to render"
  | float => "<VALUE>  Value to render (accepts `inf`, `-inf`, `NaN`)"
  | bool => "<VALUE>  Value to render [possible values: true, false]"
  | copy => "<TEXT>  Bytes to copy"
  | tokenize => "<TEXT>  Source text to split"
  | completion => "<SHELL>  Target shell [possible values: bash, elvish, fish, powershell, zsh]"

/-- The options of a subcommand. -/
def options : Subcommand → List String
  | copy => ["      --nul   Treat the source as NUL-terminated", "  -h, --help  Print help"]
  | int | float | bool | tokenize | completion => ["  -h, --help  Print help"]

end Subcommand

namespace Topic

/-- The lines of a help text. -/
def lines : Topic → List String
  | program =>
    ["Command-line front-end for the jo string and stringify utilities", "", "Usage: jo <COMMAND>", "",
      "Commands:",
      "  int         Print a signed 64-bit integer in minimal decimal form",
      "  float       Print a float in shortest round-trip form",
      "  bool        Print `true` or `false`",
      "  copy        Copy TEXT into an owned string and describe the copy",
      "  tokenize    Split TEXT into tokens, one per line as `line:col<TAB>kind<TAB>text`",
      "  completion  Generate a shell completion script",
      "  help        Print this message or the help of the given subcommand(s)",
      "", "Options:", "  -h, --help     Print help", "  -V, --version  Print version"]
  | help =>
    ["Print this message or the help of the given subcommand(s)", "", "Usage: jo help [COMMAND]...", "",
      "Arguments:", "  [COMMAND]...  Print help for the subcommand(s)"]
  | subcommand sub =>
    [sub.about, "", "Usage: " ++ sub.usage, "", "Arguments:", "  " ++ sub.argument, "", "Options:"] ++
      sub.options

/-- A help text, with a line feed behind every line. -/
def text (topic : Topic) : String := String.join (topic.lines.map (· ++ "\n"))

end Topic

/-- The line that names the program and its version. -/
def versionText : String := "jo 0.1.0\n"

end OwnedText
