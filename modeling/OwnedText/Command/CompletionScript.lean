import OwnedText.Command.Completion

/-! # Completion scripts

A completion script tells a shell which words may follow on a command line. Each shell has a language of
its own; what the scripts offer is the same for all of them.
-/

namespace OwnedText

namespace CompletionPlace

/-! ## Bash -/

/-- The name under which a script knows the subcommands in front. -/
def label (place : CompletionPlace) : String := "__".intercalate place.words

/-- Follow one more word on the command line. -/
def bashStep (place : CompletionPlace) : List String :=
  match place.path.getLast? with
  | none => []
  | some word =>
    let before := "__".intercalate ("jo" :: place.path.dropLast)
    [s!"            {before},{word})", s!"                cmd=\"{place.label}\"",
      "                ;;"]

/-- The words offered. -/
def bashCase (place : CompletionPlace) : List String :=
  let offered := " ".intercalate place.offers
  let reply := "COMPREPLY=( $(compgen -W \"$\x7bopts\x7d\" -- \"$\x7bcur\x7d\") )"
  [s!"        {place.label})", s!"            opts=\"{offered}\"",
    s!"            if [[ $\x7bcur\x7d == -* || $\x7bCOMP_CWORD\x7d -eq {place.words.length} ]] ; then",
    s!"                {reply}", "                return 0", "            fi",
    "            case \"$\x7bprev\x7d\" in", "                *)", "                    COMPREPLY=()",
    "                    ;;", "            esac", s!"            {reply}", "            return 0",
    "            ;;"]

def bashLines : List String :=
  ["_jo() \x7b", "    local i cur prev opts cmd", "    COMPREPLY=()",
    "    if [[ \"$\x7bBASH_VERSINFO[0]\x7d\" -ge 4 ]]; then", "        cur=\"$2\"", "    else",
    "        cur=\"$\x7bCOMP_WORDS[COMP_CWORD]\x7d\"", "    fi", "    prev=\"$3\"", "    cmd=\"\"",
    "    opts=\"\"", "", "    for i in \"$\x7bCOMP_WORDS[@]:0:COMP_CWORD\x7d\"", "    do",
    "        case \"$\x7bcmd\x7d,$\x7bi\x7d\" in", "            \",$1\")", "                cmd=\"jo\"",
    "                ;;"] ++
  all.flatMap bashStep ++
  ["            *)", "                ;;", "        esac", "    done", "",
    "    case \"$\x7bcmd\x7d\" in"] ++
  all.flatMap bashCase ++
  ["    esac", "\x7d", "",
    "if [[ \"$\x7bBASH_VERSINFO[0]\x7d\" -eq 4 && \"$\x7bBASH_VERSINFO[1]\x7d\" -ge 4 || " ++
      "\"$\x7bBASH_VERSINFO[0]\x7d\" -gt 4 ]]; then",
    "    complete -F _jo -o nosort -o bashdefault -o default jo", "else",
    "    complete -F _jo -o bashdefault -o default jo", "fi"]

/-! ## Elvish -/

/-- The words offered, each with what it does. -/
def explained (place : CompletionPlace) : List (String × String) :=
  place.flags.flatMap (fun flag => flag.spellings.map fun spelling => (spelling, flag.about)) ++
    place.subcommands

def elvishCase (place : CompletionPlace) : List String :=
  let path := ";".intercalate place.words
  [s!"        &'{path}'= \x7b"] ++
    place.explained.map (fun entry => s!"            cand {entry.1} '{entry.2}'") ++ ["        \x7d"]

def elvishLines : List String :=
  ["use builtin;", "use str;", "", "set edit:completion:arg-completer[jo] = \x7b|@words|",
    "    fn spaces \x7b|n|", "        builtin:repeat $n ' ' | str:join ''", "    \x7d",
    "    fn cand \x7b|text desc|",
    "        edit:complex-candidate $text &display=$text' '(spaces (- 14 (wcswidth $text)))$desc",
    "    \x7d", "    var command = 'jo'", "    for word $words[1..-1] \x7b",
    "        if (str:has-prefix $word '-') \x7b", "            break", "        \x7d",
    "        set command = $command';'$word", "    \x7d", "    var completions = ["] ++
  all.flatMap elvishCase ++
  ["    ]", "    $completions[$command]", "\x7d"]

/-! ## Fish -/

/-- The condition that the subcommands in front of a place are there. -/
def fishCondition (place : CompletionPlace) : String :=
  match place.path with
  | [] => "__fish_jo_needs_command"
  | first :: rest =>
    s!"__fish_jo_using_subcommand {first}" ++
      String.join (rest.map fun word => s!"; and __fish_seen_subcommand_from {word}")

def fishCase (place : CompletionPlace) : List String :=
  let start := s!"complete -c jo -n \"{place.fishCondition}\""
  place.flags.map (fun flag =>
    start ++ String.join (flag.letter.map fun letter => s!" -s {letter}").toList ++
      s!" -l {flag.word} -d '{flag.about}'") ++
  place.subcommands.map fun entry => start ++ s!" -f -a \"{entry.1}\" -d '{entry.2}'"

def fishLines : List String :=
  ["# The flags that do not depend on a subcommand.", "function __fish_jo_global_optspecs",
    "\tstring join \\n h/help V/version", "end", "", "function __fish_jo_needs_command",
    "\t# Whether the command line has no subcommand yet.", "\tset -l cmd (commandline -opc)",
    "\tset -e cmd[1]", "\targparse -s (__fish_jo_global_optspecs) -- $cmd 2>/dev/null",
    "\tor return", "\tif set -q argv[1]", "\t\techo $argv[1]", "\t\treturn 1", "\tend", "\treturn 0",
    "end", "", "function __fish_jo_using_subcommand",
    "\tset -l cmd (__fish_jo_needs_command)", "\ttest -z \"$cmd\"", "\tand return 1",
    "\tcontains -- $cmd[1] $argv", "end", ""] ++
  all.flatMap fishCase

/-! ## PowerShell -/

def powerShellCase (place : CompletionPlace) : List String :=
  let path := ";".intercalate place.words
  let result (word kind about : String) :=
    s!"            [CompletionResult]::new('{word}', '{word}', " ++
      s!"[CompletionResultType]::{kind}, '{about}')"
  [s!"        '{path}' \x7b"] ++
    place.flags.flatMap (fun flag =>
      flag.spellings.map fun spelling => result spelling "ParameterName" flag.about) ++
    place.subcommands.map (fun entry => result entry.1 "ParameterValue" entry.2) ++
    ["            break", "        \x7d"]

def powerShellLines : List String :=
  ["using namespace System.Management.Automation",
    "using namespace System.Management.Automation.Language", "",
    "Register-ArgumentCompleter -Native -CommandName 'jo' -ScriptBlock \x7b",
    "    param($wordToComplete, $commandAst, $cursorPosition)", "",
    "    $commandElements = $commandAst.CommandElements", "    $command = @(", "        'jo'",
    "        for ($i = 1; $i -lt $commandElements.Count; $i++) \x7b",
    "            $element = $commandElements[$i]",
    "            if ($element -isnot [StringConstantExpressionAst] -or",
    "                $element.StringConstantType -ne [StringConstantType]::BareWord -or",
    "                $element.Value.StartsWith('-') -or",
    "                $element.Value -eq $wordToComplete) \x7b", "                break",
    "            \x7d", "            $element.Value", "        \x7d) -join ';'", "",
    "    $completions = @(switch ($command) \x7b"] ++
  all.flatMap powerShellCase ++
  ["    \x7d)", "",
    "    $completions.Where\x7b $_.CompletionText -like \"$wordToComplete*\" \x7d |",
    "        Sort-Object -Property ListItemText", "\x7d"]

/-! ## Zsh -/

/-- One list of subcommands with what they do, or of values. -/
def zshCase (place : CompletionPlace) : List String :=
  let path := " ".intercalate place.path
  let described :=
    place.flags.flatMap (fun flag => flag.spellings.map fun spelling =>
      s!"                '{spelling}:{flag.about}' \\") ++
    place.subcommands.map (fun entry => s!"                '{entry.1}:{entry.2}' \\")
  [s!"        ('{path}')", "            offered=( \\"] ++ described ++
    ["            )", s!"            _describe -t commands 'jo {path}' offered"] ++
    (if place.values.isEmpty then []
     else
      let values := " ".intercalate (place.values.map fun value => s!"'{value}'")
      [s!"            _values 'value' {values}"]) ++
    ["            ;;"]

def zshLines : List String :=
  ["#compdef jo", "", "_jo() \x7b", "    typeset -a offered", "    local place word", "",
    "    for word in \"$\x7bwords[@]:1:$((CURRENT - 2))\x7d\"; do",
    "        [[ $word == -* ]] || place=\"$\x7bplace:+$place \x7d$word\"", "    done", "",
    "    case \"$place\" in"] ++
  all.flatMap zshCase ++
  ["    esac", "\x7d", "", "if [ \"$funcstack[1]\" = \"_jo\" ]; then", "    _jo \"$@\"", "else",
    "    compdef _jo jo", "fi"]

end CompletionPlace

namespace Shell

/-- The script that a shell has to read. -/
def script (shell : Shell) : String :=
  let lines := match shell with
    | bash => CompletionPlace.bashLines
    | elvish => CompletionPlace.elvishLines
    | fish => CompletionPlace.fishLines
    | powerShell => CompletionPlace.powerShellLines
    | zsh => CompletionPlace.zshLines
  String.join (lines.map (· ++ "\n"))

end Shell

end OwnedText
