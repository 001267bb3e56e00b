import OwnedText.Text.Escape
import OwnedText.Text.Visibility

/-! # Quoted text

Text between double quotes for inspection. Visible characters stand for themselves, among them the
single quote. The quote that would end the text, the backslash and the common control characters are
written with a backslash and a letter, and whatever does not show is written as its code point.
-/

namespace OwnedText.Quoted

/-- The written form of one character. -/
def ofChar (c : Char) : List Char :=
  if c = '\x00' then ['\x5c', '0']
  else if c = '\x27' then [c]
  else
    match Escape.letter? c with
    | some letter => ['\x5c', letter]
    | none =>
      if Visibility.isVisible c then [c]
      else ['\x5c', 'u', '\x7b'] ++ Escape.hexDigits c.toNat ++ ['\x7d']

/-- The text between quotes. -/
def ofChars (text : List Char) : String :=
  "\"" ++ String.ofList (text.flatMap ofChar) ++ "\""

end OwnedText.Quoted
