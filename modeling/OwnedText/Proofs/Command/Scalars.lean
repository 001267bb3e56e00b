import OwnedText.Command.Arguments
import OwnedText.Command.Execution
import OwnedText.Proofs.CallerBuffer.Calls
import OwnedText.Proofs.Command.Delivery
import OwnedText.Proofs.Decimal.Reading

/-! # The command line accepts what it prints

What a value is printed as can be given as the value again, even behind a minus sign: it is never two
hyphens, and the letter behind one hyphen is never the one that asks for help. It reads as the value
that was printed, so printing it once more changes nothing. Whatever spelling a number is given in, the
printed text is the one spelling that all of them lead to.
-/

namespace OwnedText

namespace Scalar

/-- The subcommand that writes values of a kind. -/
def subcommand : Scalar → Subcommand
  | int _ => .int
  | float _ => .float
  | bool _ => .bool

/-- Values are the same, or neither of them is a number. -/
def Same (value other : Scalar) : Prop :=
  other = value ∨
    ∃ number number', value = .float number ∧ other = .float number' ∧
      number.isNaN = true ∧ number'.isNaN = true

theorem Same.text_eq {value other : Scalar} (same : value.Same other) : other.text = value.text := by
  obtain rfl | ⟨number, number', rfl, rfl, notNumber, notNumber'⟩ := same
  · rfl
  · rw [text, text, Binary64.text_of_isNaN notNumber, Binary64.text_of_isNaN notNumber']

end Scalar

/-- A command succeeds and writes one line, wherever there is room for everything. -/
def Command.Prints (command : Command) (text : List Char) : Prop :=
  ∀ heap, (command.execute heap none).failure = none ∧
    (command.execute heap none).output = text ++ ['\n']

theorem Command.Prints.unique {command : Command} {text other : List Char} (prints : command.Prints text)
    (prints' : command.Prints other) : text = other := by
  have same := (prints .empty).2
  rw [(prints' .empty).2] at same
  exact (List.append_cancel_right same).symm

/-- A value is printed as its text. -/
theorem prints_write (value : Scalar) : (Command.write value).Prints value.text := by
  intro heap
  have composed := CallerBuffer.composed_of_le value.length_text_le
  have room : (CallerBuffer.composed value).length ≤ (List.replicate value.capacity (0 : UInt8)).length := by
    simpa [composed] using value.length_text_le
  have written : (CallerBuffer.after (List.replicate value.capacity 0) value).take
      (CallerBuffer.composed value).length = CallerBuffer.composed value := by
    rw [CallerBuffer.after, CallerBuffer.put_of_le room]
    exact List.take_left
  rw [Command.execute_none, Execution.ofCommand, Execution.ofScalar]
  simp only [written]
  rw [composed, CallerBuffer.asciiText_asciiBytes value.ascii_text]
  exact ⟨trivial, rfl⟩

namespace Subcommand

variable {sub : Subcommand} {word argument : List Char} {words : List (List Char)} {command : Command}

/-- A word that a subcommand takes as its value: it starts with no hyphen, or with one, and then neither
a second one nor a request for help follows. -/
def TakesWord (sub : Subcommand) (word : List Char) : Prop :=
  ∀ rest, word = '-' :: rest → sub.takesHyphens = true ∧ ∃ c more, rest = c :: more ∧ c ≠ '-' ∧ c ≠ 'h'

/-- Behind a sign or at the start of the word stands something else than a hyphen or a request for help. -/
theorem takesWord_signed (hyphens : sub.takesHyphens = true) (negative : Bool) {first : Char}
    (hyphen : first ≠ '-') (letter : first ≠ 'h') (more : List Char) :
    sub.TakesWord ((if negative then ['-'] else []) ++ first :: more) := by
  intro rest same
  cases negative with
  | true => exact ⟨hyphens, first, more, (List.cons.inj same).2.symm, hyphen, letter⟩
  | false => exact absurd (List.cons.inj same).1 hyphen

theorem ofWords_name (sub : Subcommand) (words : List (List Char)) :
    Request.ofWords (sub.name :: words) = sub.readWords none false words := by
  rw [Request.ofWords, ofName?_name]

private theorem ofWords_value (takes : sub.TakesWord word) :
    Request.ofWords [sub.name, word] = (sub.command word false).map .run := by
  rw [ofWords_name, readWords]
  by_cases hyphen : ∃ rest, word = '-' :: rest
  · obtain ⟨rest, rfl⟩ := hyphen
    obtain ⟨hyphens, c, more, rfl, other, letter⟩ := takes rest rfl
    have shape : Shape.of ('-' :: c :: more) = .short (c :: more) := by
      rw [Shape.of]
      · exact fun same _ => other same
      · exact other
    have value : (c :: more).any (· != 'h') = true := by
      rw [List.any_cons, bne_iff_ne.mpr letter, Bool.true_or]
    simp only [shape, hyphens, value, Option.isNone_none, Bool.and_true, if_true, readWords, finish]
  · have shape : Shape.of word = .plain := by
      unfold Shape.of
      split
      · exact absurd ⟨_, rfl⟩ hyphen
      · exact absurd ⟨_, rfl⟩ hyphen
      · exact absurd ⟨_, rfl⟩ hyphen
      · rfl
    simp only [shape, readWords, finish]

/-- Help is no command. -/
theorem answerHelp_ne_run (value : Option (List Char)) (nulTerminated : Bool) :
    sub.answerHelp value nulTerminated ≠ .ok (.run command) := by
  cases value with
  | none => nofun
  | some value =>
    simp only [answerHelp]
    cases sub.command value nulTerminated <;> nofun

theorem command_of_finish (run : sub.finish (some argument) false = .ok (.run command)) :
    sub.command argument false = .ok command := by
  rw [finish] at run
  cases read : sub.command argument false with
  | ok found =>
    rw [read] at run
    cases run
    rfl
  | error cause =>
    rw [read] at run
    contradiction

theorem eq_separator_of_shape (shape : Shape.of word = .separator) : word = ['-', '-'] := by
  unfold Shape.of at shape
  split at shape
  · rfl
  · rename_i flag
    simp only [Shape.ofLong] at shape
    split at shape <;> contradiction
  · contradiction
  · contradiction

/-- The lines that give a subcommand its value: the value alone, or with a separator on either side. -/
inductive Supplies (argument : List Char) : List (List Char) → Prop
  | alone : Supplies argument [argument]
  | before : Supplies argument [argument, ['-', '-']]
  | behind : Supplies argument [['-', '-'], argument]

theorem Supplies.unique {other : List Char} (supplies : Supplies argument words)
    (supplies' : Supplies other words) : argument = other := by
  cases supplies <;> cases supplies' <;> rfl

/-- Where hyphens may start a value, the only flag is the one that asks for help. -/
theorem not_run_of_knowsFlag (hyphens : sub.takesHyphens = true) {flag : List Char}
    {attached value : Option (List Char)} (shape : Shape.of word = .long flag attached)
    (known : sub.knowsFlag flag = true) : sub.readWords value false (word :: words) ≠ .ok (.run command) := by
  have help : flag = helpFlag := by
    cases sub <;> first | contradiction | simpa [knowsFlag] using known
  rw [help] at known
  unfold readWords
  simp only [shape, help, known, if_true]
  cases attached with
  | some attached => nofun
  | none => exact answerHelp_ne_run value false

/-- Where a value is found, nothing but a separator may follow. -/
private theorem words_of_run (hyphens : sub.takesHyphens = true)
    (run : sub.readWords (some argument) false words = .ok (.run command)) :
    (words = [] ∨ words = [['-', '-']]) ∧ sub.command argument false = .ok command := by
  cases words with
  | nil => exact ⟨.inl rfl, command_of_finish run⟩
  | cons word rest =>
    cases shape : Shape.of word with
    | separator =>
      obtain rfl := eq_separator_of_shape shape
      rw [readWords, shape] at run
      cases rest with
      | nil => exact ⟨.inr rfl, command_of_finish run⟩
      | cons next rest => contradiction
    | long flag attached =>
      cases known : sub.knowsFlag flag with
      | true => exact absurd run (not_run_of_knowsFlag hyphens shape known)
      | false =>
        rw [readWords, shape] at run
        simp only [known, Option.isNone_some, Bool.and_false, Bool.false_eq_true, if_false] at run
        contradiction
    | short letters =>
      rw [readWords, shape] at run
      simp only [Option.isNone_some, Bool.and_false, Bool.false_and, Bool.false_eq_true, if_false] at run
      split at run
      · exact absurd run (answerHelp_ne_run _ _)
      · contradiction
    | plain =>
      rw [readWords, shape] at run
      contradiction

/-- A command that is run got its value from one of the words. -/
theorem exists_supplies (hyphens : sub.takesHyphens = true)
    (run : Request.ofWords (sub.name :: words) = .ok (.run command)) :
    ∃ argument, Supplies argument words ∧ sub.command argument false = .ok command := by
  rw [ofWords_name] at run
  cases words with
  | nil => contradiction
  | cons word rest =>
    -- A word with a hyphen is only taken for a value if it cannot be read as a flag.
    have value (run : sub.readWords (some word) false rest = .ok (.run command)) :
        ∃ argument, Supplies argument (word :: rest) ∧ sub.command argument false = .ok command := by
      obtain ⟨rfl | rfl, read⟩ := words_of_run hyphens run
      · exact ⟨word, .alone, read⟩
      · exact ⟨word, .before, read⟩
    cases shape : Shape.of word with
    | separator =>
      obtain rfl := eq_separator_of_shape shape
      rw [readWords, shape] at run
      match rest with
      | [] => contradiction
      | [argument] => exact ⟨argument, .behind, command_of_finish run⟩
      | _ :: _ :: _ => contradiction
    | long flag attached =>
      cases known : sub.knowsFlag flag with
      | true => exact absurd run (not_run_of_knowsFlag hyphens shape known)
      | false =>
        rw [readWords, shape] at run
        simp only [known, hyphens, Option.isNone_none, Bool.and_true, Bool.false_eq_true, if_false,
          if_true] at run
        exact value run
    | short letters =>
      rw [readWords, shape] at run
      simp only [hyphens, Option.isNone_none, Bool.true_and] at run
      split at run
      · exact value run
      · split at run
        · exact absurd run (answerHelp_ne_run _ _)
        · contradiction
    | plain =>
      rw [readWords, shape] at run
      exact value run

end Subcommand

namespace Scalar

open Subcommand (TakesWord)

/-- A text is taken as a value, also behind a minus sign. -/
private theorem takesWord_text (value : Scalar) : value.subcommand.TakesWord value.text := by
  have other {c : Char} (digit : Digits.isDigit c = true) : c ≠ '-' ∧ c ≠ 'h' := by
    constructor
    · rintro rfl
      exact absurd digit (by decide)
    · rintro rfl
      exact absurd digit (by decide)
  cases value with
  | int number =>
    obtain ⟨first, more, digits⟩ := List.exists_cons_of_ne_nil (Digits.ofNat_ne_nil number.toInt.natAbs)
    obtain ⟨hyphen, letter⟩ := other (Digits.isDigit_of_mem_ofNat (digits ▸ List.mem_cons_self))
    rw [text, Integer.text, digits]
    split
    · exact Subcommand.takesWord_signed rfl true hyphen letter more
    · exact Subcommand.takesWord_signed rfl false hyphen letter more
  | float number =>
    rcases number.finite_or_infinite_or_nan with finite | infinite | notNumber
    · obtain ⟨numeral, _, _, body, _⟩ :=
        Binary64.exists_numeral_of_magnitude number.isNegative (of_decide_eq_true finite)
      obtain ⟨first, more, digits, digit⟩ := numeral.exists_body_cons
      obtain ⟨hyphen, letter⟩ := other digit
      rw [text, Binary64.text_of_isFinite finite, ← body, digits]
      exact Subcommand.takesWord_signed rfl _ hyphen letter more
    · have word : "inf".toList = 'i' :: "nf".toList := by decide
      rw [text, Binary64.text_of_infinite infinite, word]
      exact Subcommand.takesWord_signed rfl _ (by decide) (by decide) _
    · have word : "NaN".toList = 'N' :: "aN".toList := by decide
      rw [text, Binary64.text_of_isNaN notNumber, word]
      exact Subcommand.takesWord_signed rfl false (by decide) (by decide) _
  | bool truth => cases truth <;> rintro rest ⟨⟩

/-- The text of a value reads as the value. -/
private theorem command_text (value : Scalar) :
    ∃ result, value.subcommand.command value.text false = .ok (.write result) ∧ value.Same result := by
  cases value with
  | int number =>
    have read := Integer.read_text (Integer.inRange_toInt number)
    refine ⟨.int number, ?_, .inl rfl⟩
    simp only [subcommand, Subcommand.command, text, read, Int64.ofInt_toInt]
  | float number =>
    obtain ⟨result, read, same⟩ := number.read_text
    refine ⟨.float result, ?_, ?_⟩
    · simp only [subcommand, Subcommand.command, text, read]
    · obtain rfl | ⟨notNumber, notNumber'⟩ := same
      · exact .inl rfl
      · exact .inr ⟨number, result, rfl, rfl, notNumber', notNumber⟩
  | bool truth =>
    refine ⟨.bool truth, ?_, .inl rfl⟩
    cases truth <;> rfl

/-- What a value is printed as is accepted, yields the value, and is printed again. -/
theorem accepts_text (value : Scalar) :
    ∃ result, Request.ofWords [value.subcommand.name, value.text] = .ok (.run (.write result)) ∧
      value.Same result ∧ (Command.write result).Prints value.text := by
  obtain ⟨result, read, same⟩ := value.command_text
  refine ⟨result, ?_, same, ?_⟩
  · rw [Subcommand.ofWords_value value.takesWord_text, read]
    rfl
  · rw [← same.text_eq]
    exact prints_write result

end Scalar

/-- The command line accepts what it prints. Every value is printed as a text that is accepted as the
value and yields it again. A number may be given in many spellings, alone or with a separator beside it;
whichever was given, what is printed for it is printed again for itself, and two spellings of an integer
are printed alike exactly if they denote the same integer. -/
structure AcceptsOutput : Prop where
  yields : ∀ value : Scalar, ∃ text, (Command.write value).Prints text ∧
    ∃ result, Request.ofWords [value.subcommand.name, text] = .ok (.run (.write result)) ∧
      value.Same result ∧ (Command.write result).Prints text
  idempotent : ∀ (sub : Subcommand) (words : List (List Char)) (command : Command),
    sub = .int ∨ sub = .float → Request.ofWords (sub.name :: words) = .ok (.run command) →
      ∃ text, command.Prints text ∧
        ∃ again, Request.ofWords [sub.name, text] = .ok (.run again) ∧ again.Prints text
  supplied : ∀ (sub : Subcommand) (words : List (List Char)) (command : Command),
    sub = .int ∨ sub = .float → Request.ofWords (sub.name :: words) = .ok (.run command) →
      ∃ argument, Subcommand.Supplies argument words
  same_iff : ∀ (argument argument' : List Char) (words words' : List (List Char)) (command command' : Command),
    Subcommand.Supplies argument words → Request.ofWords (Subcommand.int.name :: words) = .ok (.run command) →
      Subcommand.Supplies argument' words' →
        Request.ofWords (Subcommand.int.name :: words') = .ok (.run command') →
          ((∃ text, command.Prints text ∧ command'.Prints text) ↔
            ∃ number, Integer.Denotes argument number ∧ Integer.Denotes argument' number)

theorem Subcommand.takesHyphens_of_number {sub : Subcommand} (number : sub = .int ∨ sub = .float) :
    sub.takesHyphens = true := by
  obtain rfl | rfl := number <;> rfl

theorem Subcommand.exists_int {argument : List Char} {command : Command}
    (read : Subcommand.int.command argument false = .ok command) :
    ∃ number, Integer.Denotes argument number ∧ command.Prints (Integer.text number) := by
  rw [Subcommand.command] at read
  split at read
  · rename_i number success
    cases read
    obtain ⟨denotes, inside⟩ := Integer.read_ok_iff.mp success
    have prints := prints_write (.int (Int64.ofInt number))
    rw [Scalar.text, Integer.toInt_ofInt inside] at prints
    exact ⟨number, denotes, prints⟩
  · contradiction

/-- The subcommands for numbers write a number of their kind. -/
private theorem Subcommand.exists_scalar {sub : Subcommand} {argument : List Char} {command : Command}
    (number : sub = .int ∨ sub = .float) (read : sub.command argument false = .ok command) :
    ∃ value : Scalar, value.subcommand = sub ∧ command = .write value := by
  obtain rfl | rfl := number
  · rw [Subcommand.command] at read
    split at read
    · cases read
      exact ⟨.int _, rfl, rfl⟩
    · contradiction
  · rw [Subcommand.command] at read
    split at read
    · cases read
      exact ⟨.float _, rfl, rfl⟩
    · contradiction

/-- Printing and reading values fit together on the command line. -/
theorem acceptsOutput : AcceptsOutput where
  yields value := ⟨value.text, prints_write value, value.accepts_text⟩
  idempotent sub words command number run := by
    obtain ⟨_, _, read⟩ := Subcommand.exists_supplies (Subcommand.takesHyphens_of_number number) run
    obtain ⟨value, rfl, rfl⟩ := Subcommand.exists_scalar number read
    obtain ⟨result, again, _, prints⟩ := value.accepts_text
    exact ⟨value.text, prints_write value, .write result, again, prints⟩
  supplied sub words command number run := by
    obtain ⟨argument, supplies, _⟩ :=
      Subcommand.exists_supplies (Subcommand.takesHyphens_of_number number) run
    exact ⟨argument, supplies⟩
  same_iff argument argument' words words' command command' supplies run supplies' run' := by
    obtain ⟨_, from', read⟩ := Subcommand.exists_supplies rfl run
    obtain rfl := supplies.unique from'
    obtain ⟨_, from'', read'⟩ := Subcommand.exists_supplies rfl run'
    obtain rfl := supplies'.unique from''
    obtain ⟨number, denotes, prints⟩ := Subcommand.exists_int read
    obtain ⟨number', denotes', prints'⟩ := Subcommand.exists_int read'
    constructor
    · rintro ⟨text, shows, shows'⟩
      have same : Integer.text number = Integer.text number' :=
        (prints.unique shows).trans (shows'.unique prints')
      obtain rfl := Numeral.exponentText_injective same
      exact ⟨number, denotes, denotes'⟩
    · rintro ⟨both, shared, shared'⟩
      obtain rfl := denotes.unique shared
      obtain rfl := denotes'.unique shared'
      exact ⟨_, prints, prints'⟩

end OwnedText
