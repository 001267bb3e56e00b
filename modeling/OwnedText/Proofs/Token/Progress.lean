import OwnedText.Proofs.Token.Places

/-! # Scanning makes progress

A look at the character ahead settles two questions by rules of their own, and nothing in their answers
says that one of them is yes. It always is: a character that is not taken ends the token. So the looks of a
scan are as many as the characters that it takes, or one more, and a scan that finds a character at all
takes that one. Whoever reads on until nothing is found comes to an end, behind no more tokens than there
are characters.
-/

namespace OwnedText

namespace Scan

/-- A scan comes to its end with so many looks at a character. It makes none where nothing is ahead, and
after each it goes on unless the token has ended. -/
inductive Ends : Scan → Nat → Scan → Prop
  | behind {scan : Scan} (none : scan.rest = []) : Ends scan 0 scan
  | emitted {scan last : Scan} (some : scan.rest ≠ []) (ended : scan.step = (last, true)) : Ends scan 1 last
  | next {scan next last : Scan} {looks : Nat} (goesOn : scan.step = (next, false))
    (ends : Ends next looks last) : Ends scan (looks + 1) last

section Looks

variable {scan next : Scan} {c : Char} {rest : List Char}

theorem step_eq (ahead : scan.rest = c :: rest) :
    scan.step = (if (judge scan.kind scan.taken c).advance then scan.taking c rest else scan,
      (judge scan.kind scan.taken c).emit) := by
  simp only [step, ahead]

/-- A look either takes the character ahead, whether the token ends then or not, or ends the token. -/
theorem step_of_cons (ahead : scan.rest = c :: rest) :
    (∃ ended, scan.step = (scan.taking c rest, ended)) ∨ scan.step = (scan, true) := by
  rw [step_eq ahead]
  cases emit : (judge scan.kind scan.taken c).emit with
  | true =>
    split
    · exact .inl ⟨true, rfl⟩
    · exact .inr rfl
  | false =>
    rw [advance_of_not_emit emit, if_pos rfl]
    exact .inl ⟨false, rfl⟩

/-- A scan that goes on has taken the character ahead, which is of the class of the one before. -/
theorem exists_taking_of_goesOn (goesOn : scan.step = (next, false)) :
    ∃ c rest, scan.rest = c :: rest ∧ next = scan.taking c rest ∧
      ∀ last ∈ scan.taken.head?, TokenKind.of last = TokenKind.of c := by
  cases ahead : scan.rest with
  | nil =>
    simp only [step, ahead] at goesOn
    exact absurd (Prod.mk.inj goesOn).2 (by decide)
  | cons c rest =>
    rw [step_eq ahead] at goesOn
    obtain ⟨same, emit⟩ := Prod.mk.inj goesOn
    rw [advance_of_not_emit emit, if_pos rfl] at same
    refine ⟨c, rest, rfl, same.symm, ?_⟩
    cases taken : scan.taken with
    | nil => rintro _ ⟨⟩
    | cons last before =>
      rintro _ ⟨⟩
      have kind : scan.kind = some (TokenKind.of last) := by simp [scan.classified, taken]
      rw [kind, taken, judge_cons] at emit
      exact of_eq_of_joins (by simpa using emit)

end Looks

/-- A scan comes to its end, with at most one look that takes nothing. -/
theorem exists_ends_finish (scan : Scan) :
    ∃ looks, scan.Ends looks scan.finish ∧ looks + scan.taken.length ≤ scan.finish.taken.length + 1 := by
  fun_induction finish scan with
  | case1 scan last ended =>
    cases ahead : scan.rest with
    | nil =>
      simp only [step, ahead] at ended
      obtain rfl := (Prod.mk.inj ended).1
      exact ⟨0, .behind ahead, by omega⟩
    | cons c rest =>
      refine ⟨1, .emitted (by simp [ahead]) ended, ?_⟩
      obtain ⟨_, taken⟩ | left := step_of_cons ahead
      · obtain rfl := (Prod.mk.inj (ended.symm.trans taken)).1
        simp only [taking, List.length_cons]
        omega
      · obtain rfl := (Prod.mk.inj (ended.symm.trans left)).1
        omega
  | case2 scan next goesOn ih =>
    obtain ⟨looks, ends, bound⟩ := ih
    obtain ⟨c, rest, _, taken, _⟩ := exists_taking_of_goesOn goesOn
    have longer : next.taken.length = scan.taken.length + 1 := by
      rw [taken, taking, List.length_cons]
    exact ⟨looks + 1, .next goesOn ends, by omega⟩

/-- The class that a scan carries is that of every character it has taken. -/
theorem Visits.kind_eq {scan : Scan} {cursor : Position} {rest : List Char}
    (visits : Visits (start cursor rest) scan) :
    ∀ c ∈ scan.taken, scan.kind = some (TokenKind.of c) := by
  induction visits with
  | first => exact nofun
  | @next scan next visited goesOn ih =>
    obtain ⟨taken, rest, _, rfl, same⟩ := exists_taking_of_goesOn goesOn
    intro c member
    rcases List.mem_cons.mp member with rfl | before
    · rfl
    · obtain ⟨last, others, whole⟩ := List.exists_cons_of_ne_nil (List.ne_nil_of_mem before)
      have lastClass := ih last (by simp [whole])
      have classes : TokenKind.of c = TokenKind.of last := Option.some.inj ((ih c before).symm.trans lastClass)
      rw [taking, classes, same last (by simp [whole])]

end Scan

namespace Tokenizer

/-- The calls of a tokenizer find these tokens, one each, and the call behind them finds nothing. -/
inductive Reads : Tokenizer → List Token → Prop
  | nothing {tokenizer next : Tokenizer} (missing : tokenizer.read = (none, next)) : Reads tokenizer []
  | found {tokenizer next : Tokenizer} {token : Token} {tokens : List Token}
    (present : tokenizer.read = (some token, next)) (reads : Reads next tokens) :
    Reads tokenizer (token :: tokens)

private theorem exists_reads (seen : List Token) (tokenizer : Tokenizer) :
    ∃ tokens, collect seen tokenizer = seen.reverse ++ tokens ∧ tokenizer.Reads tokens := by
  fun_induction collect seen tokenizer with
  | case1 seen tokenizer next missing => exact ⟨[], (List.append_nil _).symm, .nothing missing⟩
  | case2 seen tokenizer token next present ih =>
    obtain ⟨tokens, collected, reads⟩ := ih
    refine ⟨token :: tokens, ?_, .found present reads⟩
    rw [collected, List.reverse_cons, List.append_assoc, List.singleton_append]

/-- Reading on to the end finds all tokens. -/
theorem reads_tokens (tokenizer : Tokenizer) : tokenizer.Reads tokenizer.tokens := by
  obtain ⟨tokens, collected, reads⟩ := exists_reads [] tokenizer
  rwa [Tokenizer.tokens, collected, List.reverse_nil, List.nil_append]

/-- Every token that is found takes a character at least. -/
theorem Reads.length_le {tokenizer : Tokenizer} {tokens : List Token} (reads : tokenizer.Reads tokens) :
    tokens.length ≤ tokenizer.rest.length := by
  induction reads with
  | nothing => exact Nat.zero_le _
  | found present _ ih => exact Nat.lt_of_le_of_lt ih (read_shortens present)

/-- The cursor is in front of the end of the source as long as anything is ahead. -/
theorem pos_lt_iff (tokenizer : Tokenizer) :
    tokenizer.cursor.pos < (Utf8.encode tokenizer.source).length ↔ tokenizer.rest ≠ [] := by
  obtain ⟨consumed, source, cursor⟩ := tokenizer.located
  have pos : tokenizer.cursor.pos = (Utf8.encode consumed).length := by
    rw [cursor, Position.advanceBy_origin, Position.behind]
  rw [pos, source, Utf8.encode_append, List.length_append]
  cases ahead : tokenizer.rest with
  | nil => simp [Utf8.encode]
  | cons c rest =>
    have positive := c.utf8Size_pos
    rw [Utf8.length_encode_cons]
    simp only [ne_eq, reduceCtorEq, not_false_eq_true, iff_true]
    omega

/-- A call of a tokenizer gets on. Each look at a character takes just that one, or ends the token, or does
both; the class carried along is missing exactly as long as nothing is taken, and is that of each character
taken; and if 32 bits can measure the source, neither a slice nor a counter stands in the way. The looks
come to an end, one more at most than characters are taken. A token is found wherever the source has not
ended. Then its text is what was taken, which is something, and its kind is the class of each character in
it. -/
structure Progresses (tokenizer : Tokenizer) : Prop where
  looks : ∀ scan, (Scan.start tokenizer.cursor tokenizer.rest).Visits scan →
    ∀ c rest, scan.rest = c :: rest →
      (∃ ended, scan.step = (scan.taking c rest, ended)) ∨ scan.step = (scan, true)
  alike : ∀ scan, (Scan.start tokenizer.cursor tokenizer.rest).Visits scan →
    (scan.kind = none ↔ scan.taken = []) ∧ ∀ c ∈ scan.taken, scan.kind = some (TokenKind.of c)
  unhindered : (Utf8.encode tokenizer.source).length < UInt32.size →
    ∀ scan, (Scan.start tokenizer.cursor tokenizer.rest).Visits scan →
      scan.Fits tokenizer.source tokenizer.cursor
  ends : ∃ looks, (Scan.start tokenizer.cursor tokenizer.rest).Ends looks tokenizer.scanned ∧
    looks ≤ tokenizer.scanned.taken.length + 1
  found_iff : (∃ token, tokenizer.read.1 = some token) ↔
    tokenizer.cursor.pos < (Utf8.encode tokenizer.source).length
  taken : ∀ token, tokenizer.read.1 = some token →
    token.text = tokenizer.scanned.taken.reverse ∧ token.text ≠ [] ∧
      ∀ c ∈ token.text, TokenKind.of c = token.kind
  moved : ∀ token, tokenizer.read.1 = some token →
    tokenizer.rest = token.text ++ tokenizer.read.2.rest ∧
      tokenizer.read.2.cursor = tokenizer.cursor.advanceBy token.text

theorem text_of_read {tokenizer : Tokenizer} {token : Token} (found : tokenizer.read.1 = some token) :
    token.text = tokenizer.scanned.taken.reverse := by
  obtain ⟨kind, _, rfl⟩ := Option.map_eq_some_iff.mp found
  rfl

theorem progresses (tokenizer : Tokenizer) : tokenizer.Progresses where
  looks _ _ _ _ ahead := Scan.step_of_cons ahead
  alike scan visits := ⟨scan.kind_eq_none_iff, visits.kind_eq⟩
  unhindered countable _ visits := visits.follows.fits countable
  ends := by
    obtain ⟨looks, ends, bound⟩ := (Scan.start tokenizer.cursor tokenizer.rest).exists_ends_finish
    exact ⟨looks, ends, bound⟩
  found_iff := by
    rw [pos_lt_iff]
    constructor
    · rintro ⟨token, found⟩ ended
      rw [read_of_nil ended] at found
      contradiction
    · intro present
      obtain ⟨c, rest, ahead⟩ := List.exists_cons_of_ne_nil present
      exact ⟨_, (read_of_cons ahead).1⟩
  taken token found := by
    refine ⟨text_of_read found, ?_⟩
    cases ahead : tokenizer.rest with
    | nil =>
      rw [read_of_nil ahead] at found
      contradiction
    | cons c rest =>
      rw [(read_of_cons ahead).1] at found
      obtain rfl := Option.some.inj found
      refine ⟨List.cons_ne_nil _ _, ?_⟩
      intro other member
      rcases List.mem_cons.mp member with rfl | later
      · rfl
      · exact of_eq_of_mem_continued later
  moved token found := by
    rw [text_of_read found]
    exact tokenizer.scanned_follows

end Tokenizer

/-- Whatever has been read of whatever source, the next call gets on; so reading a source comes to an end,
and finds no more tokens than the source has characters. -/
theorem readingProgresses :
    (∀ tokenizer : Tokenizer, tokenizer.Progresses) ∧
      ∀ source : List Char, (Tokenizer.ofSource source).Reads (tokenize source) ∧
        (tokenize source).length ≤ source.length := by
  refine ⟨Tokenizer.progresses, ?_⟩
  intro source
  have reads := (Tokenizer.ofSource source).reads_tokens
  exact ⟨reads, reads.length_le⟩

end OwnedText
