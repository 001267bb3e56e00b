import OwnedText.Command.Arguments
import OwnedText.Command.Execution
import OwnedText.LogFilter

/-! # The program

A run of the program takes the words of a command line and the text of its log directives. It ends with
an exit status, the text written to the output, reports of texts that are no directives, the log lines
that pass the filter, and a complaint if something went wrong. Help and version count as success,
mistakes on the command line have a status of their own, and a mistake is found before anything is done.
The directives are read before the command line is.
-/

namespace OwnedText

structure Transcript where
  status : Nat
  output : String
  reports : List String
  log : List String
  complaint : Option String
deriving DecidableEq, Repr

namespace Transcript

/-- A text that was asked for. -/
def ofAnswer (filter : LogFilter) (text : String) : Transcript :=
  ⟨0, text, filter.rejections.map Rejection.line, [], none⟩

/-- A command line that makes no sense. -/
def ofMistake (filter : LogFilter) (mistake : UsageError) : Transcript :=
  ⟨UsageError.status, "", filter.rejections.map Rejection.line, [], some mistake.message⟩

/-- The complaint of a failure: what was being done, and below it the causes. -/
def complaintOf (failure : Failure) : String :=
  match failure.messages with
  | [] => "Error"
  | outermost :: causes =>
    s!"Error: {outermost}" ++
      if causes.isEmpty then "" else "\n\nCaused by:" ++ String.join (causes.map ("\n    " ++ ·))

/-- A command that was carried out. -/
def ofOutcome (filter : LogFilter) (command : Command) (outcome : Outcome) : Transcript :=
  ⟨(outcome.failure.map Failure.status).getD 0, String.ofList outcome.output,
    filter.rejections.map Rejection.line,
    filter.lines (.dispatching command.describe :: outcome.events), outcome.failure.map complaintOf⟩

/-- Directives that cannot even be cut into parts. -/
def ofCrash (cause : DirectiveError) : Transcript := ⟨crashStatus, "", [], [], some cause.message⟩

/-- Run the program behind the reading of its directives. -/
def ofWords (filter : LogFilter) (words : List (List Char)) : Transcript :=
  match Request.ofWords words with
  | .error mistake => ofMistake filter mistake
  | .ok (.help topic) => ofAnswer filter topic.text
  | .ok .version => ofAnswer filter versionText
  | .ok (.run command) => ofOutcome filter command (command.execute Heap.empty none)

/-- Run the program. -/
def ofRun (arguments : List String) (directives : String) : Transcript :=
  match LogFilter.ofText directives with
  | .error cause => ofCrash cause
  | .ok filter => ofWords filter (arguments.map String.toList)

end Transcript

end OwnedText
