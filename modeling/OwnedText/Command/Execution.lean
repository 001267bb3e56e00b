import OwnedText.ByteString.Basic
import OwnedText.Command.CompletionScript
import OwnedText.Text.Utf8
import OwnedText.Token.Tokenizer

/-! # Executing commands

A command is executed in two parts. First it determines its effects, pieces of text to write and events
to record, in order, together with the failure that ends them if there is one. Then the effects are
delivered to an output that may have limited room. The first piece that does not fit is written as far
as it goes and ends the delivery, so nothing behind it is written or recorded.

All output is ASCII, so a character takes one byte of the room.
-/

namespace OwnedText

/-- The exit status of a run that could not go on. -/
def crashStatus : Nat := 101

/-- What a command does to the outside. -/
inductive Effect where
  | write (text : List Char)
  | record (event : Event)
deriving DecidableEq, Repr

/-- Why a command did not succeed. -/
inductive Failure where
  | outputFull
  | scriptCut
  | interiorNul (cause : InteriorNul)
  | allocation (cause : AllocationError)
deriving DecidableEq, Repr

namespace Failure

/-- What was being done and why it failed, outermost first. -/
def messages : Failure → List String
  | outputFull => ["failed to write whole buffer"]
  | scriptCut =>
    ["failed to write completion file: Error \x7b kind: WriteZero, " ++
      "message: \"failed to write whole buffer\" \x7d"]
  | interiorNul cause => ["text contains an interior NUL byte", cause.message]
  | allocation cause => [s!"copying {cause.size} bytes into an owned string", cause.message]

/-- The exit status that a failure leads to. Half a completion script is of no use to any shell, so
that counts as a crash. -/
def status : Failure → Nat
  | outputFull | interiorNul _ | allocation _ => 1
  | scriptCut => crashStatus

end Failure

/-- The effects of a command, the failure behind them, and the heap that remains. -/
structure Execution where
  effects : List Effect
  failure : Option Failure
  heap : Heap

namespace Execution

/-- Write one value and a line feed, by way of a buffer with the capacity for its kind. -/
def ofScalar (heap : Heap) (value : Scalar) : Execution :=
  let buffer := CallerBuffer.after (List.replicate value.capacity 0) value
  let written := buffer.take (CallerBuffer.composed value).length
  ⟨[.write (CallerBuffer.asciiText written), .write ['\n']], none, heap⟩

/-- The string that a text is first shown as, with a terminator or without. -/
def shownAs (text : List Char) (nulTerminated : Bool) : Except InteriorNul ByteString :=
  let bytes := Utf8.encode text
  if nulTerminated then ByteString.ofText? 0 bytes else .ok (ByteString.ofBytes 0 bytes)

/-- The line that describes a copy. -/
def copyLine (copied : ByteString) : List Char :=
  Escape.ofBytes copied.counted ++ " (len ".toList ++ Digits.ofNat copied.length.toNat ++ ", ".toList ++
    copied.ownership.name.toList ++ ", nul-terminated: ".toList ++
    (if copied.isNulTerminated then "true".toList else "false".toList) ++ ")\n".toList

/-- Copy a text, describe the copy and give it back. -/
def ofCopy (heap : Heap) (text : List Char) (nulTerminated : Bool) : Execution :=
  match shownAs text nulTerminated with
  | .error cause => ⟨[], some (.interiorNul cause), heap⟩
  | .ok source =>
    let reply := source.copy heap
    let recorded := reply.events.map .record
    match reply.value with
    | .error cause => ⟨recorded, some (.allocation cause), reply.heap⟩
    | .ok copied =>
      ⟨recorded ++ [.record (.copied copied.length.toNat copied.flags.bits.toNat),
        .write (copyLine copied)], none, copied.release reply.heap⟩

/-- The line that shows a token: its place, its class and its text. -/
def tokenLine (token : Token) : List Char :=
  Digits.ofNat token.start.line ++ ':' :: Digits.ofNat token.start.col ++ '\t' ::
    token.kind.name.toList ++ '\t' :: Escape.ofChars token.text ++ ['\n']

/-- Write one line for each token, and record their number. -/
def ofTokens (heap : Heap) (tokens : List Token) : Execution :=
  ⟨tokens.map (fun token => .write (tokenLine token)) ++ [.record (.tokenized tokens.length)], none,
    heap⟩

/-- What a command does. -/
def ofCommand (heap : Heap) : Command → Execution
  | .write value => ofScalar heap value
  | .copy text nulTerminated => ofCopy heap text nulTerminated
  | .tokenize text => ofTokens heap (tokenize text)
  | .completion shell => ⟨[.write shell.script.toList], none, heap⟩

end Execution

/-- What reached the outside: the text written, the events recorded, and whether all of it fitted. -/
structure Delivery where
  output : List Char
  events : List Event
  complete : Bool
deriving DecidableEq, Repr

namespace Delivery

/-- Text is written in front of what follows. -/
def written (text : List Char) (later : Delivery) : Delivery :=
  { later with output := text ++ later.output }

/-- An event is recorded in front of what follows. -/
def recorded (event : Event) (later : Delivery) : Delivery :=
  { later with events := event :: later.events }

/-- Deliver effects to an output that has room for so many characters more, or for any number. -/
def ofEffects (room : Option Nat) : List Effect → Delivery
  | [] => ⟨[], [], true⟩
  | .record event :: rest => recorded event (ofEffects room rest)
  | .write text :: rest =>
    match room with
    | none => written text (ofEffects none rest)
    | some room =>
      if text.length ≤ room then written text (ofEffects (some (room - text.length)) rest)
      else ⟨text.take room, [], false⟩

end Delivery

/-- What a command has done, as seen from outside. -/
structure Outcome where
  output : List Char
  events : List Event
  failure : Option Failure
  heap : Heap

namespace Command

/-- What it means for a command that its output has no room for everything. -/
def cutShort : Command → Failure
  | completion _ => .scriptCut
  | write _ | copy .. | tokenize _ => .outputFull

/-- Carry out a command on a heap, with an output that has room for so many characters or for any
number. -/
def execute (heap : Heap) (room : Option Nat) (command : Command) : Outcome :=
  let execution := Execution.ofCommand heap command
  let delivery := Delivery.ofEffects room execution.effects
  ⟨delivery.output, delivery.events,
    if delivery.complete then execution.failure else some command.cutShort, execution.heap⟩

end Command

end OwnedText
