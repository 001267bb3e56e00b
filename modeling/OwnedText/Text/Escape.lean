/-! # Escaped text

Two written forms that use printable ASCII only, one for bytes and one for characters. Both write
tab, line feed, carriage return, either quote and the backslash as a backslash with a letter, and all
other printable ASCII as it is. What is left is written in base sixteen: a byte as `\xNN`, a character
as its code point between braces after `\u`.

Each form comes with its reader. The readers accept more than is written (any hexadecimal digits of
either kind of escape), and undo everything that is written.
-/

namespace OwnedText.Escape

/-- The letter that stands for a character after a backslash. -/
def letter? : Char → Option Char
  | '\t' => some 't'
  | '\n' => some 'n'
  | '\r' => some 'r'
  | '\x27' => some '\x27'
  | '\x22' => some '\x22'
  | '\x5c' => some '\x5c'
  | _ => none

/-- The character that a letter after a backslash stands for. -/
def ofLetter? : Char → Option Char
  | 't' => some '\t'
  | 'n' => some '\n'
  | 'r' => some '\r'
  | '\x27' => some '\x27'
  | '\x22' => some '\x22'
  | '\x5c' => some '\x5c'
  | _ => none

/-- Space to tilde. -/
def isPrintable (c : Char) : Bool := 0x20 ≤ c.toNat && c.toNat ≤ 0x7e

/-- The digit of a value below sixteen, in lower case. -/
def hexDigit (value : Nat) : Char :=
  if value < 10 then Char.ofNat (48 + value) else Char.ofNat (87 + value)

/-- The value of a digit in base sixteen, in lower case. -/
def ofHexDigit? (c : Char) : Option Nat :=
  if 48 ≤ c.toNat ∧ c.toNat ≤ 57 then some (c.toNat - 48)
  else if 97 ≤ c.toNat ∧ c.toNat ≤ 102 then some (c.toNat - 87)
  else none

/-- The digits of a number in base sixteen, without leading zeros. -/
def hexDigits (value : Nat) : List Char :=
  if value < 16 then [hexDigit value] else hexDigits (value / 16) ++ [hexDigit (value % 16)]
termination_by value
decreasing_by omega

/-- The number that digits in base sixteen denote. -/
def ofHexDigits? (digits : List Char) : Option Nat :=
  digits.foldlM (fun value digit => (ofHexDigit? digit).map (16 * value + ·)) 0

/-- The written form of one byte. -/
def ofByte (byte : UInt8) : List Char :=
  let c := Char.ofNat byte.toNat
  match letter? c with
  | some letter => ['\x5c', letter]
  | none =>
    if isPrintable c then [c]
    else ['\x5c', 'x', hexDigit (byte.toNat / 16), hexDigit (byte.toNat % 16)]

/-- The written form of bytes. -/
def ofBytes (bytes : List UInt8) : List Char := bytes.flatMap ofByte

/-- The written form of one character. -/
def ofChar (c : Char) : List Char :=
  match letter? c with
  | some letter => ['\x5c', letter]
  | none =>
    if isPrintable c then [c]
    else ['\x5c', 'u', '\x7b'] ++ hexDigits c.toNat ++ ['\x7d']

/-- The written form of characters. -/
def ofChars (text : List Char) : List Char := text.flatMap ofChar

/-- Undo `ofBytes`. -/
def bytes? : List Char → Option (List UInt8)
  | [] => some []
  | '\x5c' :: 'x' :: high :: low :: rest => do
    let high ← ofHexDigit? high
    let low ← ofHexDigit? low
    let bytes ← bytes? rest
    some (UInt8.ofNat (16 * high + low) :: bytes)
  | '\x5c' :: letter :: rest => do
    let c ← ofLetter? letter
    let bytes ← bytes? rest
    some (UInt8.ofNat c.toNat :: bytes)
  | c :: rest =>
    if isPrintable c && c != '\x5c' then (bytes? rest).map (UInt8.ofNat c.toNat :: ·) else none

/-- The characters up to a closing brace and those after it. -/
def braced? : List Char → Option (List Char × List Char)
  | [] => none
  | c :: rest =>
    if c = '\x7d' then some ([], rest)
    else (braced? rest).map fun found => (c :: found.1, found.2)

private theorem length_of_braced? {text inner rest : List Char} (found : braced? text = some (inner, rest)) :
    rest.length < text.length := by
  induction text generalizing inner rest with
  | nil => simp [braced?] at found
  | cons c text ih =>
    simp only [braced?] at found
    split at found
    · simp only [Option.some.injEq, Prod.mk.injEq] at found
      simp [← found.2]
    · obtain ⟨⟨inner', rest'⟩, inside, equal⟩ := Option.map_eq_some_iff.mp found
      simp only [Prod.mk.injEq] at equal
      have shorter := ih inside
      rw [← equal.2]
      simp only [List.length_cons]
      omega

/-- Undo `ofChars`. -/
def chars? (text : List Char) : Option (List Char) :=
  match text with
  | [] => some []
  | '\x5c' :: 'u' :: '\x7b' :: rest =>
    match _found : braced? rest with
    | none => none
    | some (inner, after) => do
      let code ← ofHexDigits? inner
      let text ← chars? after
      some (Char.ofNat code :: text)
  | '\x5c' :: letter :: rest => do
    let c ← ofLetter? letter
    let text ← chars? rest
    some (c :: text)
  | c :: rest => if isPrintable c && c != '\x5c' then (chars? rest).map (c :: ·) else none
termination_by text.length
decreasing_by
  · have shorter := length_of_braced? _found
    simp only [List.length_cons]
    omega
  · simp only [List.length_cons]
    omega
  · simp only [List.length_cons]
    omega

end OwnedText.Escape
