import OwnedText.Proofs.Token.Segmentation

/-! # Where tokens end

A list of texts is described by the places where one of them ends. `eq_of_endsBehind` says that texts
without an empty one among them are determined by those places, so a segmentation that ends a text
exactly between neighbours that do not join is the only one. It is the one that the tokens make.
-/

namespace OwnedText

/-- One of the texts ends where the leading part `front` of their whole does; nothing at all in front
counts as such a place. -/
def EndsBehind (texts : List (List Char)) (front : List Char) : Prop :=
  ∃ before behind, texts = before ++ behind ∧ before.flatten = front

/-- A source cut into classified texts at every place where neighbours do not join, and nowhere else. -/
structure Segments (source : List Char) (pieces : List (TokenKind × List Char)) : Prop where
  nonempty : ∀ piece ∈ pieces, piece.2 ≠ []
  whole : (pieces.map Prod.snd).flatten = source
  ends_iff : ∀ front a b back, source = front ++ a :: b :: back →
    (EndsBehind (pieces.map Prod.snd) (front ++ [a]) ↔
      ¬ (a.isAlpha ∧ b.isAlpha ∨ a.isDigit ∧ b.isDigit ∨
        a = b ∧ (a = ' ' ∨ a = '\t' ∨ a = '\n')))
  kind : ∀ piece ∈ pieces, ∀ c, piece.2.head? = some c → piece.1 = TokenKind.of c

private theorem joins_eq_false_iff (a b : Char) :
    joins a b = false ↔ ¬ (a.isAlpha ∧ b.isAlpha ∨ a.isDigit ∧ b.isDigit ∨
      a = b ∧ (a = ' ' ∨ a = '\t' ∨ a = '\n')) := by
  rw [← Bool.not_eq_true, not_iff_not]
  simp only [joins, Bool.or_eq_true, Bool.and_eq_true, beq_iff_eq, or_assoc]

section Places

variable {text front : List Char} {texts others : List (List Char)}

theorem endsBehind_nil (texts : List (List Char)) : EndsBehind texts [] := ⟨[], texts, rfl, rfl⟩

private theorem endsBehind_flatten (texts : List (List Char)) : EndsBehind texts texts.flatten :=
  ⟨texts, [], (List.append_nil texts).symm, rfl⟩

theorem EndsBehind.append_eq (ends : EndsBehind texts front) :
    ∃ back, front ++ back = texts.flatten := by
  obtain ⟨before, behind, rfl, rfl⟩ := ends
  exact ⟨behind.flatten, List.flatten_append.symm⟩

theorem endsBehind_cons_iff :
    EndsBehind (text :: texts) front ↔
      front = [] ∨ ∃ more, front = text ++ more ∧ EndsBehind texts more := by
  constructor
  · rintro ⟨before, behind, same, rfl⟩
    cases before with
    | nil => exact .inl rfl
    | cons first before =>
      obtain ⟨rfl, rfl⟩ := List.cons.inj same
      exact .inr ⟨before.flatten, rfl, before, behind, rfl, rfl⟩
  · rintro (rfl | ⟨more, rfl, before, behind, rfl, rfl⟩)
    · exact endsBehind_nil _
    · exact ⟨text :: before, behind, rfl, rfl⟩

/-- Behind a first text, places are those of the other texts. -/
theorem endsBehind_cons_append (nonempty : text ≠ []) :
    EndsBehind (text :: texts) (text ++ front) ↔ EndsBehind texts front := by
  rw [endsBehind_cons_iff]
  constructor
  · rintro (none | ⟨more, same, ends⟩)
    · exact absurd (List.append_eq_nil_iff.mp none).1 nonempty
    · rwa [List.append_cancel_left same]
  · intro ends
    exact .inr ⟨front, rfl, ends⟩

theorem endsBehind_first (text : List Char) (texts : List (List Char)) :
    EndsBehind (text :: texts) text := ⟨[text], texts, rfl, List.flatten_singleton⟩

private theorem eq_nil_of_ends_only {texts : List (List Char)} (nonempty : [] ∉ texts)
    (ends : ∀ front, EndsBehind texts front → EndsBehind [] front) : texts = [] := by
  cases texts with
  | nil => rfl
  | cons text texts =>
    obtain ⟨back, same⟩ := (ends text (endsBehind_first text texts)).append_eq
    have none : text = [] := (List.append_eq_nil_iff.mp same).1
    exact absurd (none ▸ List.mem_cons_self ..) nonempty

/-- No text ends behind a first text before that text does. -/
private theorem append_of_ends {text other : List Char} {texts others : List (List Char)}
    (nonempty : [] ∉ text :: texts)
    (ends : ∀ front, EndsBehind (text :: texts) front → EndsBehind (other :: others) front) :
    ∃ more, text = other ++ more := by
  rcases endsBehind_cons_iff.mp (ends text (endsBehind_first text texts)) with none | ⟨more, same, _⟩
  · exact absurd (none ▸ List.mem_cons_self ..) nonempty
  · exact ⟨more, same⟩

/-- Texts of which none is empty are determined by the places where they end. -/
private theorem eq_of_endsBehind (nonempty : [] ∉ texts) (nonempty' : [] ∉ others)
    (same : ∀ front, EndsBehind texts front ↔ EndsBehind others front) : texts = others := by
  induction texts generalizing others with
  | nil => exact (eq_nil_of_ends_only nonempty' fun front => (same front).mpr).symm
  | cons text texts ih =>
    cases others with
    | nil => exact eq_nil_of_ends_only nonempty fun front => (same front).mp
    | cons other others =>
      obtain ⟨more, longer⟩ := append_of_ends nonempty fun front => (same front).mp
      obtain ⟨more', longer'⟩ := append_of_ends nonempty' fun front => (same front).mpr
      have first : text = other := by
        have lengths := congrArg List.length longer
        have lengths' := congrArg List.length longer'
        simp only [List.length_append] at lengths lengths'
        have none : more = [] := List.eq_nil_of_length_eq_zero (by omega)
        rw [longer, none, List.append_nil]
      subst first
      have present : text ≠ [] := fun none => nonempty (none ▸ List.mem_cons_self ..)
      rw [ih (fun member => nonempty (List.mem_cons_of_mem _ member))
        (fun member => nonempty' (List.mem_cons_of_mem _ member)) ?_]
      intro front
      rw [← endsBehind_cons_append present, same, endsBehind_cons_append present]

end Places

/-- The texts behind a first one begin where it ends, and there neighbours do not join. -/
private theorem not_joins_of_next {text back : List Char} {texts : List (List Char)} {a b : Char}
    (apart : (text :: texts).IsChain
      fun first next => ∃ h h', joins (first.getLast h) (next.head h') = false)
    (last : a ∈ text.getLast?) (next : texts.flatten = b :: back) : joins a b = false := by
  cases texts with
  | nil => simp at next
  | cons other texts =>
    obtain ⟨present, present', cut⟩ := (List.isChain_cons_cons.mp apart).1
    obtain ⟨c, rest, rfl⟩ := List.exists_cons_of_ne_nil present'
    obtain ⟨rfl, _⟩ := List.cons.inj next
    rwa [List.getLast_of_mem_getLast? last] at cut

/-- In a list of segments a text ends between two neighbours exactly if they do not join. -/
theorem endsBehind_iff_not_joins {texts : List (List Char)} (nonempty : [] ∉ texts)
    (together : ∀ text ∈ texts, text.IsChain fun a b => joins a b)
    (apart : texts.IsChain fun first next => ∃ h h', joins (first.getLast h) (next.head h') = false)
    {front back : List Char} {a b : Char} (whole : texts.flatten = front ++ a :: b :: back) :
    EndsBehind texts (front ++ [a]) ↔ joins a b = false := by
  induction texts generalizing front with
  | nil => simp at whole
  | cons text texts ih =>
    have present : text ≠ [] := fun none => nonempty (none ▸ List.mem_cons_self ..)
    have later (front : List Char) (whole : texts.flatten = front ++ a :: b :: back) :=
      ih (fun member => nonempty (List.mem_cons_of_mem _ member))
        (fun other member => together other (List.mem_cons_of_mem _ member)) apart.tail whole
    rw [List.flatten_cons] at whole
    -- The two neighbours lie behind the first text, around its end, or inside it.
    rcases List.append_eq_append_iff.mp whole with ⟨more, rfl, rest⟩ | ⟨more, rfl, rest⟩
    · rw [List.append_assoc, endsBehind_cons_append present]
      exact later more rest
    · match more, rest with
      | [], rest =>
        rw [List.append_nil] at present ⊢
        rw [endsBehind_cons_append present]
        exact later [] rest.symm
      | [c], rest =>
        obtain ⟨rfl, next⟩ := List.cons.inj rest
        have cut : joins a b = false := not_joins_of_next apart (by simp) next.symm
        exact ⟨fun _ => cut, fun _ => endsBehind_first _ _⟩
      | c :: d :: more, rest =>
        simp only [List.cons_append, List.cons.injEq] at rest
        obtain ⟨rfl, rfl, _⟩ := rest
        have held : joins a b = true :=
          List.isChain_iff_forall_rel_of_append_cons_cons.mp (together _ (List.mem_cons_self ..)) rfl
        have inside : ¬ EndsBehind ((front ++ a :: b :: more) :: texts) (front ++ [a]) := by
          intro ends
          rcases endsBehind_cons_iff.mp ends with none | ⟨after, same, _⟩
          · simp at none
          · have lengths := congrArg List.length same
            simp only [List.length_append, List.length_cons, List.length_nil] at lengths
            omega
        simp [inside, held]

theorem kind_of_mem_tokenize {source : List Char} {token : Token} (member : token ∈ tokenize source) :
    token.kind = TokenKind.ofText token.text :=
  kind_of_mem_placed (tokenize_eq source ▸ member)

/-- The characters of a segment are of one class. -/
theorem of_eq_ofText {text : List Char} (together : text.IsChain fun a b => joins a b) {c : Char}
    (member : c ∈ text) : TokenKind.of c = TokenKind.ofText text := by
  induction text with
  | nil => simp at member
  | cons first rest ih =>
    rcases List.mem_cons.mp member with rfl | member
    · rfl
    · cases rest with
      | nil => simp at member
      | cons next rest =>
        obtain ⟨same, together⟩ := List.isChain_cons_cons.mp together
        exact (ih together member).trans (of_eq_of_joins same).symm

private theorem isChain_of_mem_tokenize {source : List Char} {token : Token}
    (member : token ∈ tokenize source) :
    token.text.IsChain fun a b => joins a b :=
  List.isChain_of_mem_splitBy (map_text_tokenize source ▸ List.mem_map_of_mem member)

private theorem text_ne_nil_of_mem_tokenize {source : List Char} {token : Token}
    (member : token ∈ tokenize source) : token.text ≠ [] :=
  List.ne_nil_of_mem_splitBy (map_text_tokenize source ▸ List.mem_map_of_mem member)

/-- The tokens of a source are a segmentation of it. -/
theorem segments_tokenize (source : List Char) :
    Segments source ((tokenize source).map fun token => (token.kind, token.text)) := by
  have texts : ((tokenize source).map fun token => (token.kind, token.text)).map Prod.snd =
      source.splitBy joins := by
    rw [List.map_map]
    exact map_text_tokenize source
  refine ⟨?_, ?_, ?_, ?_⟩
  · intro piece member
    obtain ⟨token, inside, rfl⟩ := List.mem_map.mp member
    exact text_ne_nil_of_mem_tokenize inside
  · rw [texts, List.flatten_splitBy]
  · intro front a b back whole
    rw [texts, ← joins_eq_false_iff]
    exact endsBehind_iff_not_joins (List.nil_notMem_splitBy joins source)
      (fun _ => List.isChain_of_mem_splitBy) (List.isChain_getLast_head_splitBy joins source)
      ((List.flatten_splitBy joins source).trans whole)
  · intro piece member c first
    obtain ⟨token, inside, rfl⟩ := List.mem_map.mp member
    obtain ⟨rest, text⟩ := List.head?_eq_some_iff.mp first
    dsimp only at text ⊢
    rw [kind_of_mem_tokenize inside, text, TokenKind.ofText]

/-- Between any two neighbours all segmentations of a source agree, so they end their texts at the same
places. -/
theorem Segments.endsBehind_iff {source : List Char} {pieces others : List (TokenKind × List Char)}
    (segments : Segments source pieces) (segments' : Segments source others) (front : List Char) :
    EndsBehind (pieces.map Prod.snd) front → EndsBehind (others.map Prod.snd) front := by
  intro ends
  obtain ⟨back, whole⟩ := ends.append_eq
  rw [segments.whole] at whole
  rcases List.eq_nil_or_concat front with rfl | ⟨start, a, rfl⟩
  · exact endsBehind_nil _
  · cases back with
    | nil =>
      rw [← List.append_nil (start.concat a), whole, ← segments'.whole]
      exact endsBehind_flatten _
    | cons b back =>
      rw [List.concat_eq_append] at whole ends ⊢
      have neighbours : source = start ++ a :: b :: back := by simpa using whole.symm
      exact (segments'.ends_iff start a b back neighbours).mpr
        ((segments.ends_iff start a b back neighbours).mp ends)

theorem Segments.nil_notMem {source : List Char} {pieces : List (TokenKind × List Char)}
    (segments : Segments source pieces) : [] ∉ pieces.map Prod.snd := by
  intro member
  obtain ⟨piece, member, none⟩ := List.mem_map.mp member
  exact segments.nonempty piece member none

/-- A source has only one segmentation. -/
theorem Segments.eq {source : List Char} {pieces others : List (TokenKind × List Char)}
    (segments : Segments source pieces) (segments' : Segments source others) : pieces = others := by
  have texts : pieces.map Prod.snd = others.map Prod.snd :=
    eq_of_endsBehind segments.nil_notMem segments'.nil_notMem fun front =>
      ⟨segments.endsBehind_iff segments' front, segments'.endsBehind_iff segments front⟩
  have classified {pieces : List (TokenKind × List Char)} (segments : Segments source pieces) :
      pieces = (pieces.map Prod.snd).map fun text => (TokenKind.ofText text, text) := by
    rw [List.map_map]
    refine (List.map_id pieces).symm.trans (List.map_congr_left ?_)
    rintro ⟨kind, text⟩ member
    cases text with
    | nil => exact absurd rfl (segments.nonempty _ member)
    | cons c rest =>
      have first : kind = TokenKind.of c := segments.kind _ member c rfl
      rw [first]
      rfl
  rw [classified segments, classified segments', texts]

/-- Tokens have exactly the texts and classes of the only segmentation, and every character of a
token is of its class. -/
theorem segments_iff_eq_tokenize (source : List Char) (pieces : List (TokenKind × List Char)) :
    (Segments source pieces ↔
      pieces = (tokenize source).map fun token => (token.kind, token.text)) ∧
    ∀ token ∈ tokenize source, ∀ c ∈ token.text, TokenKind.of c = token.kind := by
  refine ⟨⟨?_, ?_⟩, ?_⟩
  · intro segments
    exact segments.eq (segments_tokenize source)
  · rintro rfl
    exact segments_tokenize source
  · intro token member c inside
    rw [kind_of_mem_tokenize member]
    exact of_eq_ofText (isChain_of_mem_tokenize member) inside

end OwnedText
