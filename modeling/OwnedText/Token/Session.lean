import OwnedText.Token.Tokenizer

/-! # Sessions of several tokenizers

A session holds any number of tokenizers, at first one. A move reads the next token of one of them, or
adds a copy of one of them, cursor and mark included.
-/

namespace OwnedText

structure Session where
  tokenizers : List Tokenizer

namespace Session

inductive Move where
  | read (index : Nat)
  | clone (index : Nat)
deriving DecidableEq, Repr

/-- One tokenizer at the start of a source. -/
def ofSource (source : List Char) : Session := ⟨[Tokenizer.ofSource source]⟩

/-- Carry out a move; a read answers with the token it found. A tokenizer that does not exist does
nothing. -/
def step (session : Session) : Move → Option Token × Session
  | .read index =>
    match session.tokenizers[index]? with
    | none => (none, session)
    | some tokenizer =>
      let (token, next) := tokenizer.read
      (token, ⟨session.tokenizers.set index next⟩)
  | .clone index =>
    match session.tokenizers[index]? with
    | none => (none, session)
    | some tokenizer => (none, ⟨session.tokenizers ++ [tokenizer]⟩)

/-- Carry out moves one after the other. -/
def run (session : Session) : List Move → Session
  | [] => session
  | move :: rest => (session.step move).2.run rest

/-- Read from one tokenizer until `count` tokens are read or none is left. -/
def take (session : Session) (index : Nat) : Nat → List Token × Session
  | 0 => ([], session)
  | count + 1 =>
    match session.step (.read index) with
    | (none, after) => ([], after)
    | (some token, after) =>
      let (tokens, last) := after.take index count
      (token :: tokens, last)

end Session

end OwnedText
