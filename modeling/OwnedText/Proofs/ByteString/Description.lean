import OwnedText.Proofs.ByteString.Runs
import OwnedText.Proofs.Text.Escape

/-! # The description of a string loses nothing

A description names the owner, the length and the flag word, and then shows the counted bytes between
quotes. Everything in front of the bytes is found by the words that introduce it, since none of these
can stand any further in front. The bytes themselves may say anything, also a closing quote, a backslash
or what looks like another field; but every quote among them is written with a backslash, so the first
one without a backslash is the quote that ends them.
-/

namespace OwnedText

namespace Escape

/-- A text up to the first quote that no backslash escapes. A backslash escapes one character. -/
def upToQuote? : List Char → Option (List Char)
  | [] => none
  | '\x22' :: _ => some []
  | '\x5c' :: c :: rest => (upToQuote? rest).map fun inside => '\x5c' :: c :: inside
  | c :: rest => (upToQuote? rest).map (c :: ·)

section UpToQuote

theorem upToQuote?_escaped (c : Char) (rest : List Char) :
    upToQuote? ('\x5c' :: c :: rest) = (upToQuote? rest).map fun inside => '\x5c' :: c :: inside := by
  rw [upToQuote?]

theorem upToQuote?_plain {c : Char} (unquoted : c ≠ '\x22') (unescaped : c ≠ '\x5c') (rest : List Char) :
    upToQuote? (c :: rest) = (upToQuote? rest).map (c :: ·) := by
  rw [upToQuote?]
  · exact unquoted
  · exact fun _ _ same _ => unescaped same

private theorem ne_quote_of_letter? {c : Char} (long : letter? c = none) : c ≠ '\x22' := by
  rintro rfl
  contradiction

theorem hexDigit_ne {value : Nat} (small : value < 16) : hexDigit value ≠ '\x22' ∧ hexDigit value ≠ '\x5c' := by
  have all : ∀ value < 16, hexDigit value ≠ '\x22' ∧ hexDigit value ≠ '\x5c' := by decide
  exact all value small

/-- No written byte ends the text, nor does it escape what follows it. -/
private theorem upToQuote?_ofByte_append (byte : UInt8) (rest : List Char) :
    upToQuote? (ofByte byte ++ rest) = (upToQuote? rest).map (ofByte byte ++ ·) := by
  simp only [ofByte]
  split
  · exact upToQuote?_escaped _ rest
  · rename_i long
    split
    · exact upToQuote?_plain (ne_quote_of_letter? long) (ne_backslash_of_letter? long) rest
    · have small : byte.toNat < 256 := byte.toNat_lt
      have below : byte.toNat / 16 < 16 := by omega
      have high := hexDigit_ne below
      have low := hexDigit_ne (Nat.mod_lt byte.toNat (by decide : 0 < 16))
      simp only [List.cons_append, List.nil_append]
      rw [upToQuote?_escaped, upToQuote?_plain high.1 high.2, upToQuote?_plain low.1 low.2, Option.map_map,
        Option.map_map]
      rfl

/-- Written bytes end at the quote behind them, whatever they say. -/
theorem upToQuote?_ofBytes_append (bytes : List UInt8) (rest : List Char) :
    upToQuote? (ofBytes bytes ++ '\x22' :: rest) = some (ofBytes bytes) := by
  induction bytes with
  | nil => rw [ofBytes, List.flatMap_nil, List.nil_append, upToQuote?]
  | cons byte bytes ih =>
    rw [ofBytes, List.flatMap_cons, ← ofBytes, List.append_assoc, upToQuote?_ofByte_append, ih]
    rfl

end UpToQuote

end Escape

namespace Ownership

/-- The owner that a name stands for. -/
def ofName? (name : List Char) : Option Ownership :=
  [empty, literal, owned, aliased].find? fun ownership => ownership.name.toList == name

@[simp] theorem ofName?_name (ownership : Ownership) : ofName? ownership.name.toList = some ownership := by
  cases ownership <;> decide

end Ownership

namespace Description

/-- What is behind the first place where a mark stands. -/
def behind? (mark : List Char) : List Char → Option (List Char)
  | [] => none
  | c :: rest => if mark <+: c :: rest then some ((c :: rest).drop mark.length) else behind? mark rest

/-- What stands between the first place of a mark and the next closing character. -/
def field? (mark : String) (closing : Char) (text : List Char) : Option (List Char) :=
  (behind? mark.toList text).map (·.takeWhile (· != closing))

/-- The owner that a description names. -/
def ownership? (text : List Char) : Option Ownership :=
  (field? "\x7b ownership: " ',' text).bind Ownership.ofName?

/-- The length that a description gives. -/
def length? (text : List Char) : Option Nat := (field? ", length: " ',' text).map Digits.value

/-- The flag word that a description gives. -/
def flagBits? (text : List Char) : Option Nat := (field? "Flags(" ')' text).map Digits.value

/-- The part of a description between the quote that opens the bytes and the first unescaped quote. -/
def written? (text : List Char) : Option (List Char) :=
  (behind? "bytes: \"".toList text).bind Escape.upToQuote?

/-- A mark is found behind its front if its first character does not stand further in front. -/
theorem behind?_append {mark front : List Char} {first : Char} (opens : mark.head? = some first)
    (absent : first ∉ front) (back : List Char) : behind? mark (front ++ mark ++ back) = some back := by
  obtain ⟨more, rfl⟩ := List.head?_eq_some_iff.mp opens
  induction front with
  | nil =>
    have stands : first :: more <+: first :: (more ++ back) := List.prefix_append (first :: more) back
    rw [List.nil_append, List.cons_append, behind?, if_pos stands]
    exact congrArg some List.drop_left
  | cons c front ih =>
    obtain ⟨other, later⟩ := not_or.mp fun member => absent (List.mem_cons.mpr member)
    rw [List.cons_append, List.cons_append, behind?,
      if_neg fun stands => other (List.cons_prefix_cons.mp stands).1]
    exact ih later

/-- A field is found behind its mark, and ends where the part behind it starts. -/
theorem field?_of_prefix {mark : String} {text front inside next : List Char} {first closing : Char}
    (stands : front ++ mark.toList ++ inside ++ next <+: text) (opens : mark.toList.head? = some first)
    (absent : first ∉ front) (within : closing ∉ inside) (closes : next.head? = some closing) :
    field? mark closing text = some inside := by
  obtain ⟨back, rfl⟩ := stands
  obtain ⟨more, rfl⟩ := List.head?_eq_some_iff.mp closes
  have whole : (inside ++ (closing :: more ++ back)).takeWhile (· != closing) = inside := by
    rw [List.takeWhile_append_of_pos fun c member => bne_iff_ne.mpr (ne_of_mem_of_not_mem member within),
      List.cons_append, List.takeWhile_cons_of_neg (by simp), List.append_nil]
  rw [field?, List.append_assoc, List.append_assoc, behind?_append opens absent, Option.map_some, whole]

end Description

namespace ByteString

open Escape (Printable isPrintable printable_ofNat printable_ofBytes)

section Fields

variable (string : ByteString)

/-- A description as far as the name of the owner. -/
def throughOwner : List Char :=
  "JoStr ".toList ++ "\x7b ownership: ".toList ++ string.ownership.name.toList

/-- A description as far as the length. -/
def throughLength : List Char :=
  string.throughOwner ++ ", length: ".toList ++ Digits.ofNat string.length.toNat

/-- A description as far as the flag word. -/
def throughFlags : List Char :=
  string.throughLength ++ ", flags: ".toList ++ "Flags(".toList ++ Digits.ofNat string.flags.bits.toNat ++
    "), ".toList

-- The equations are stated by hand: to derive them, Lean would evaluate the literals that they start with.
theorem throughOwner_eq : string.throughOwner =
    "JoStr ".toList ++ "\x7b ownership: ".toList ++ string.ownership.name.toList := rfl

theorem describe_eq : string.describe =
    "JoStr \x7b ownership: " ++ string.ownership.name ++ ", length: " ++ toString string.length.toNat ++
      ", flags: " ++ ("Flags(" ++ toString string.flags.bits.toNat ++ ")") ++ ", bytes: \"" ++
      String.ofList (Escape.ofBytes string.counted) ++ "\" \x7d" := rfl

theorem toList_describe : string.describe.toList =
    string.throughFlags ++ "bytes: \"".toList ++ (Escape.ofBytes string.counted ++ "\" \x7d".toList) := by
  have opening : "JoStr \x7b ownership: ".toList = "JoStr ".toList ++ "\x7b ownership: ".toList := by decide
  have closing : ")".toList ++ ", bytes: \"".toList = "), ".toList ++ "bytes: \"".toList := by decide
  rw [describe_eq, throughFlags, throughLength, throughOwner_eq, List.append_assoc _ "), ".toList, ← closing]
  simp only [String.toList_append, Digits.toList_toString, String.toList_ofList, opening, List.append_assoc]

/-- The characters that open the marks behind a name do not stand in it. -/
theorem notMem_name {c : Char} (mark : c ∈ [',', 'F', 'b']) (ownership : Ownership) :
    c ∉ ownership.name.toList := by
  have all : ∀ c ∈ [',', 'F', 'b'], c ∉ ownership.name.toList := by
    cases ownership <;> simp [Ownership.name]
  exact all c mark

theorem notMem_ofNat {c : Char} (other : Digits.isDigit c = false) (value : Nat) : c ∉ Digits.ofNat value := by
  intro member
  rw [Digits.isDigit_of_mem_ofNat member] at other
  contradiction

theorem notMem_throughOwner {c : Char} (mark : c ∈ [',', 'F', 'b']) : c ∉ string.throughOwner := by
  have fixed : ∀ c ∈ [',', 'F', 'b'], c ∉ "JoStr ".toList ++ "\x7b ownership: ".toList := by simp
  rw [throughOwner_eq, List.mem_append, not_or]
  exact ⟨fixed c mark, notMem_name mark _⟩

theorem ownership?_describe : Description.ownership? string.describe.toList = some string.ownership := by
  have absent : '\x7b' ∉ "JoStr ".toList := by decide
  have within : ',' ∉ string.ownership.name.toList := notMem_name (by decide) _
  have stands : "JoStr ".toList ++ "\x7b ownership: ".toList ++ string.ownership.name.toList ++
      ", length: ".toList <+: string.describe.toList := by
    simp only [toList_describe, throughFlags, throughLength, throughOwner_eq, List.append_assoc,
      List.prefix_append_right_inj, List.prefix_append]
  rw [Description.ownership?, Description.field?_of_prefix stands (by decide) absent within (by decide)]
  exact Ownership.ofName?_name _

theorem length?_describe : Description.length? string.describe.toList = some string.length.toNat := by
  have absent : ',' ∉ string.throughOwner := string.notMem_throughOwner (by decide)
  have within : ',' ∉ Digits.ofNat string.length.toNat := notMem_ofNat (by decide) _
  have stands : string.throughOwner ++ ", length: ".toList ++ Digits.ofNat string.length.toNat ++
      ", flags: ".toList <+: string.describe.toList := by
    simp only [toList_describe, throughFlags, throughLength, List.append_assoc,
      List.prefix_append_right_inj, List.prefix_append]
  rw [Description.length?, Description.field?_of_prefix stands (by decide) absent within (by decide)]
  exact congrArg some (Digits.value_ofNat _)

theorem notMem_throughLength {c : Char} (mark : c ∈ ['F', 'b']) :
    c ∉ string.throughLength ++ ", flags: ".toList := by
  have fixed : ∀ c ∈ ['F', 'b'],
      c ∉ ", length: ".toList ∧ c ∉ ", flags: ".toList ∧ Digits.isDigit c = false := by
    simp [Digits.isDigit, Digits.digit?]
  obtain ⟨front, back, other⟩ := fixed c mark
  simp only [throughLength, List.mem_append, not_or]
  exact ⟨⟨⟨string.notMem_throughOwner (List.mem_cons_of_mem _ mark), front⟩, notMem_ofNat other _⟩, back⟩

theorem flagBits?_describe : Description.flagBits? string.describe.toList = some string.flags.bits.toNat := by
  have absent : 'F' ∉ string.throughLength ++ ", flags: ".toList := string.notMem_throughLength (by decide)
  have within : ')' ∉ Digits.ofNat string.flags.bits.toNat := notMem_ofNat (by decide) _
  have stands : string.throughLength ++ ", flags: ".toList ++ "Flags(".toList ++
      Digits.ofNat string.flags.bits.toNat ++ "), ".toList <+: string.describe.toList := by
    simp only [toList_describe, throughFlags, List.append_assoc, List.prefix_append_right_inj,
      List.prefix_append]
  rw [Description.flagBits?, Description.field?_of_prefix stands (by decide) absent within (by decide)]
  exact congrArg some (Digits.value_ofNat _)

private theorem notMem_throughFlags : 'b' ∉ string.throughFlags := by
  have digits : 'b' ∉ Digits.ofNat string.flags.bits.toNat := notMem_ofNat (by decide) _
  have front := string.notMem_throughLength (c := 'b') (by decide)
  simp only [throughFlags, List.mem_append, not_or] at front ⊢
  exact ⟨⟨⟨front, by decide⟩, digits⟩, by decide⟩

/-- The part between the opening quote and the first unescaped quote is what was written between them. -/
theorem written?_describe :
    Description.written? string.describe.toList = some (Escape.ofBytes string.counted) := by
  have quote : "\" \x7d".toList = '\x22' :: " \x7d".toList := by decide
  rw [Description.written?, toList_describe,
    Description.behind?_append (by decide) string.notMem_throughFlags, Option.bind_some, quote]
  exact Escape.upToQuote?_ofBytes_append _ _

theorem printable_describe : Printable string.describe.toList := by
  have name : Printable string.ownership.name.toList := by
    cases string.ownership <;> simp [Ownership.name, Printable, isPrintable]
  have opening : Printable ("JoStr ".toList ++ "\x7b ownership: ".toList) := by simp [Printable, isPrintable]
  have length : Printable ", length: ".toList := by simp [Printable, isPrintable]
  have flags : Printable (", flags: ".toList ++ "Flags(".toList) := by simp [Printable, isPrintable]
  have bytes : Printable ("), ".toList ++ "bytes: \"".toList) := by simp [Printable, isPrintable]
  have closing : Printable "\" \x7d".toList := by simp [Printable, isPrintable]
  have front := ((opening.append name).append length).append (printable_ofNat string.length.toNat)
  have ahead := ((front.append flags).append (printable_ofNat string.flags.bits.toNat)).append bytes
  have whole := ahead.append ((printable_ofBytes string.counted).append closing)
  rw [toList_describe, throughFlags, throughLength, throughOwner_eq]
  simp only [List.append_assoc] at whole ⊢
  exact whole

end Fields

/-- What the description of a string tells: who owns it, its length and its flag word. What stands between
the quotes, with the escapes undone, is the counted bytes, and there are as many as the length says. -/
structure Legible (string : ByteString) : Prop where
  printable : Printable string.describe.toList
  ownership : Description.ownership? string.describe.toList = some string.ownership
  length : Description.length? string.describe.toList = some string.length.toNat
  flagBits : Description.flagBits? string.describe.toList = some string.flags.bits.toNat
  bytes : ∃ written bytes, Description.written? string.describe.toList = some written ∧
    Escape.bytes? written = some bytes ∧ string.bytes = .ok bytes ∧
    Description.length? string.describe.toList = some bytes.length

variable {string other : ByteString}

theorem Consistent.legible (consistent : string.Consistent) : string.Legible where
  printable := string.printable_describe
  ownership := string.ownership?_describe
  length := string.length?_describe
  flagBits := string.flagBits?_describe
  bytes := by
    refine ⟨_, string.counted, string.written?_describe, Escape.bytes?_ofBytes _, consistent.bytes_eq, ?_⟩
    rw [length?_describe, consistent.stored_eq.2]

/-- A description leaves nothing open that it could tell. -/
theorem describe_eq_iff (consistent : string.Consistent) (consistent' : other.Consistent) :
    string.describe = other.describe ↔ string.ownership = other.ownership ∧ string.length = other.length ∧
      string.flags = other.flags ∧ string.bytes = other.bytes := by
  constructor
  · intro same
    have owner : some string.ownership = some other.ownership := by
      rw [← ownership?_describe, same, ownership?_describe]
    have length : some string.length.toNat = some other.length.toNat := by
      rw [← length?_describe, same, length?_describe]
    have bits : some string.flags.bits.toNat = some other.flags.bits.toNat := by
      rw [← flagBits?_describe, same, flagBits?_describe]
    have written : some (Escape.ofBytes string.counted) = some (Escape.ofBytes other.counted) := by
      rw [← written?_describe, same, written?_describe]
    have read : some string.counted = some other.counted := by
      rw [← Escape.bytes?_ofBytes, Option.some.inj written, Escape.bytes?_ofBytes]
    refine ⟨Option.some.inj owner, UInt32.toNat_inj.mp (Option.some.inj length), ?_, ?_⟩
    · exact congrArg Flags.mk (UInt32.toNat_inj.mp (Option.some.inj bits))
    · rw [consistent.bytes_eq, consistent'.bytes_eq, Option.some.inj read]
  · rintro ⟨owner, length, flags, bytes⟩
    rw [consistent.bytes_eq, consistent'.bytes_eq] at bytes
    rw [describe_eq, describe_eq, owner, length, flags, Except.ok.inj bytes]

end ByteString

namespace Workspace

variable {workspace workspace' : Workspace} {index index' : Nat} {held held' : Variable}

private theorem step_describe (present : workspace.held? index = some held) :
    workspace.step (.describe index) = ⟨workspace, .described held.string.describe, []⟩ := by
  have set : (Action.describe index).reads.any (fun index => (workspace.held? index).isNone) = false := by
    simp [Action.reads, present]
  have performed : workspace.step (.describe index) = workspace.perform workspace.shown (.describe index) := by
    rw [step, set]
    rfl
  have shown : workspace.shown index = held.string := by
    rw [shown, present]
    rfl
  rw [performed, perform, shown]

/-- In every reachable state, each string is described in printable text from which all of it can be read,
and only strings that agree in all of that are described alike. -/
theorem losslessDescription_of_reachable (reachable : Reachable workspace) (reachable' : Reachable workspace')
    (present : workspace.held? index = some held) (present' : workspace'.held? index' = some held') :
    (workspace.step (.describe index)).response = .described held.string.describe ∧ held.string.Legible ∧
      (held.string.describe = held'.string.describe ↔
        held.string.ownership = held'.string.ownership ∧ held.string.length = held'.string.length ∧
          held.string.flags = held'.string.flags ∧ held.string.bytes = held'.string.bytes) := by
  have consistent := reachable.consistent index held present
  have consistent' := reachable'.consistent index' held' present'
  exact ⟨congrArg Step.response (step_describe present), consistent.legible,
    ByteString.describe_eq_iff consistent consistent'⟩

/-- A string that looks like the end of a description, and a copy of it. -/
theorem losslessDescription_of_lookalike :
    ∃ workspace held held',
      workspace = (ofCount 2).run [.bytes 0 [0x22, 0x20, 0x7d, 0x5c], .copy 0 1] ∧
      workspace.held? 0 = some held ∧ workspace.held? 1 = some held' ∧
      held.string.bytes = .ok [0x22, 0x20, 0x7d, 0x5c] ∧ held.string.Legible ∧
      held.string.describe ≠ held'.string.describe := by
  have present : ((ofCount 2).run [.bytes 0 [0x22, 0x20, 0x7d, 0x5c], .copy 0 1]).held? 0 =
      some ⟨⟨some (.literal 0 [0x22, 0x20, 0x7d, 0x5c]), 4, .empty⟩, none⟩ := by
    decide +kernel
  have present' : ((ofCount 2).run [.bytes 0 [0x22, 0x20, 0x7d, 0x5c], .copy 0 1]).held? 1 =
      some ⟨⟨some (.owned ⟨some 0, [0x22, 0x20, 0x7d, 0x5c], rfl⟩), 4, .empty⟩, none⟩ := by
    decide +kernel
  have reachable := (Reachable.start 2).run [.bytes 0 [0x22, 0x20, 0x7d, 0x5c], .copy 0 1]
  obtain ⟨_, legible, apart⟩ := losslessDescription_of_reachable reachable reachable present present'
  refine ⟨_, _, _, rfl, present, present', by rfl, legible, fun same => ?_⟩
  have owners : Ownership.literal = .owned := (apart.mp same).1
  contradiction

end Workspace

end OwnedText
