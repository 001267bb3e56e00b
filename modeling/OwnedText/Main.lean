import OwnedText.Command.Program

/-! # The command line

The outer layer of the program: it hands over the words of the command line and the log directives from
the environment, and writes what comes back.
-/

open OwnedText

/-- Directives are read from the variable `RUST_LOG`; without it only warnings and errors are logged. -/
def main (arguments : List String) : IO UInt32 := do
  let directives := (← IO.getEnv "RUST_LOG").getD ""
  let transcript := Transcript.ofRun arguments directives
  for line in transcript.reports ++ transcript.log do
    IO.eprintln line
  IO.print transcript.output
  if let some complaint := transcript.complaint then
    IO.eprintln complaint
  return UInt32.ofNat transcript.status
