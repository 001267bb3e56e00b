import OwnedText.Memory.AllocationError

/-! # Events

Operations report what they do as a list of events, in order. An event is a cause with its data; its
level, wording, named fields and the place it is attributed to are all functions of that cause.
-/

namespace OwnedText

/-- Severities, from the most talkative to the gravest. -/
inductive Level where
  | trace
  | debug
  | info
  | warn
  | error
deriving DecidableEq, Repr

namespace Level

def name : Level → String
  | trace => "TRACE"
  | debug => "DEBUG"
  | info => "INFO"
  | warn => "WARN"
  | error => "ERROR"

/-- How much has to be let through before this level shows; off is zero. -/
def verbosity : Level → Nat
  | error => 1
  | warn => 2
  | info => 3
  | debug => 4
  | trace => 5

end Level

inductive Event where
  | rejectedAllocation (size : Nat) (cause : AllocationError)
  | allocationFailed (size : Nat)
  | resizing (oldLength newSize : Nat)
  | resizeFailed (newSize : Nat) (cause : AllocationError)
  | copying (length : Nat) (nulTerminated : Bool)
  | copied (length flags : Nat)
  | tokenized (count : Nat)
  | dispatching (command : String)
deriving DecidableEq, Repr

namespace Event

def level : Event → Level
  | rejectedAllocation .. | allocationFailed .. | resizeFailed .. => .warn
  | resizing .. | copying .. => .trace
  | copied .. | tokenized .. | dispatching .. => .debug

def message : Event → String
  | rejectedAllocation .. => "rejected allocation"
  | allocationFailed .. => "heap allocation failed"
  | resizing .. => "resizing heap buffer"
  | resizeFailed .. => "resize failed, original buffer released"
  | copying .. => "copying string"
  | copied .. => "copied string"
  | tokenized .. => "tokenized"
  | dispatching .. => "dispatching"

/-- Named values in the order in which they are written. -/
def fields : Event → List (String × String)
  | rejectedAllocation size cause => [("size", toString size), ("err", cause.message)]
  | allocationFailed size => [("size", toString size)]
  | resizing oldLength newSize => [("old_len", toString oldLength), ("new_size", toString newSize)]
  | resizeFailed newSize cause => [("new_size", toString newSize), ("err", cause.message)]
  | copying length nulTerminated =>
    [("len", toString length), ("nul_terminated", if nulTerminated then "true" else "false")]
  | copied length flags => [("len", toString length), ("flags", toString flags)]
  | tokenized count => [("count", toString count)]
  | dispatching command => [("command", command)]

/-- The names by which an event can be selected; its message counts as a field. -/
def fieldNames (event : Event) : List String := "message" :: event.fields.map Prod.fst

/-- The part of the program that an event is attributed to, by which log directives select. -/
def source : Event → String
  | rejectedAllocation .. | allocationFailed .. | resizing .. | resizeFailed .. => "jo_memory::raw"
  | copying .. => "jo_core::string"
  | copied .. | tokenized .. | dispatching .. => "jo_lib::app"

/-- One line of a log: level, place, message and fields. -/
def line (event : Event) : String :=
  event.fields.foldl (fun text field => text ++ " " ++ field.1 ++ "=" ++ field.2)
    (event.level.name ++ " " ++ event.source ++ ": " ++ event.message)

end Event

end OwnedText
