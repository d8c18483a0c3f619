import LoanDesk.Proofs.Expr.Spelling

/-!
# The tokens of a source

`Lexes` says which tokens stand in the characters of a source: white space stands between them, and
each token's characters spell it and end where the next begin.  The tokens of a source are exactly
those (`tokenize_eq_ok`), so a source is read by laying it out: `lexes_layout` gives the tokens of a
layout, and `Lexes.legal` says that no token is of a kind that nothing spells.  Texts that are put
together have their tokens one after the other, wherever they stand (`LexesAs`).
-/

namespace LoanDesk

/-- The tokens that stand in the characters at an offset of the source. -/
inductive Lexes : Nat → List Char → List Token → Prop where
  | done {offset} : Lexes offset [] []
  | blank {offset c cs ts} :
    Text.isBlank c = true →
    Lexes (offset + c.utf8Size) cs ts →
    Lexes offset (c :: cs) ts
  | token {offset kind chars rest ts} :
    Spells kind chars →
    Ends chars rest →
    Lexes (offset + Text.byteLength chars) rest ts →
    Lexes offset (chars ++ rest) (⟨kind, offset, offset + Text.byteLength chars⟩ :: ts)

/-- White space in front of tokens moves them. -/
lemma Lexes.blanks {offset : Nat} {gap cs : List Char} {ts : List Token}
    (hgap : ∀ c ∈ gap, Text.isBlank c = true)
    (h : Lexes (offset + Text.byteLength gap) cs ts) : Lexes offset (gap ++ cs) ts := by
  induction gap generalizing offset with
  | nil => exact h
  | cons c gap ih =>
    refine .blank (hgap c (by simp)) (ih (fun d hd => hgap d (List.mem_cons_of_mem _ hd)) ?_)
    rw [Text.byteLength_cons, ← Nat.add_assoc] at h
    exact h

/-- The characters of a token are that token alone. -/
lemma Spells.lexes {offset : Nat} {kind : TokenKind} {chars : List Char} (h : Spells kind chars) :
    Lexes offset chars [⟨kind, offset, offset + Text.byteLength chars⟩] := by
  have alone : Lexes offset (chars ++ []) _ := .token h (by simp [Ends]) .done
  rwa [List.append_nil] at alone

/-! ### Splitting a source finds its tokens -/

/-- White space is no token. -/
lemma tokensFrom_blank {offset : Nat} {done : List Token} {c : Char} {cs : List Char}
    (h : Text.isBlank c = true) :
    tokensFrom offset done (c :: cs) = tokensFrom (offset + c.utf8Size) done cs := by
  rw [tokensFrom.eq_def]
  exact if_pos h

/-- A fault of the first word is the error of the whole text. -/
lemma tokensFrom_fault {offset : Nat} {done : List Token} {c : Char} {cs : List Char}
    {fault : LexFault} (hc : ¬ Text.isBlank c = true) (h : Lexeme.scan c cs = .error fault) :
    tokensFrom offset done (c :: cs) = .error (.lexical fault offset) := by
  rw [tokensFrom.eq_def]
  dsimp only
  rw [if_neg hc]
  split
  next hs =>
    rw [h] at hs
    cases hs
    rfl
  next hs =>
    rw [h] at hs
    cases hs

/-- Characters that spell a token are taken as that token. -/
lemma tokensFrom_token {offset : Nat} {done : List Token} {kind : TokenKind}
    {chars rest : List Char} (h : Spells kind chars) (hr : Ends chars rest) :
    tokensFrom offset done (chars ++ rest) =
      tokensFrom (offset + Text.byteLength chars)
        (⟨kind, offset, offset + Text.byteLength chars⟩ :: done) rest := by
  obtain ⟨c, w, rfl, hc⟩ := h.head
  have scanned := scan_iff.2 ⟨h, hr⟩
  rw [List.cons_append, tokensFrom.eq_def]
  dsimp only
  rw [if_neg (by simp [hc])]
  split
  next fault hs =>
    rw [scanned] at hs
    cases hs
  next l hs =>
    rw [scanned] at hs
    cases hs
    rfl

/-- Splitting goes past characters whose tokens do not run on into what follows, and leaves their
tokens behind, after those before them. -/
lemma tokensFrom_append {offset : Nat} {cs rest : List Char} {ts : List Token}
    (h : Lexes offset cs ts) (sep : Separates rest) (done : List Token) :
    tokensFrom offset done (cs ++ rest) =
      tokensFrom (offset + Text.byteLength cs) (ts.reverse ++ done) rest := by
  induction h generalizing done with
  | done => rfl
  | blank hc _ ih =>
    rw [List.cons_append, tokensFrom_blank hc, ih, Text.byteLength_cons, Nat.add_assoc]
  | token hs hr _ ih =>
    rw [List.append_assoc, tokensFrom_token hs (hr.append sep), ih, Text.byteLength_append,
      Nat.add_assoc, List.reverse_cons, List.append_assoc]
    rfl

/-- The tokens that stand in the characters are the ones that splitting gives, after those before
them. -/
lemma tokensFrom_of_lexes {offset : Nat} {cs : List Char} {ts : List Token}
    (h : Lexes offset cs ts) (done : List Token) :
    tokensFrom offset done cs = .ok (done.reverse ++ ts) := by
  have sep : Separates [] := by simp [Separates]
  have past := tokensFrom_append h sep done
  rw [List.append_nil] at past
  rw [past, tokensFrom.eq_def, List.reverse_append, List.reverse_reverse]

/-- Splitting gives nothing but tokens that stand in the characters. -/
lemma lexes_of_tokensFrom {offset : Nat} {done ts : List Token} {cs : List Char}
    (h : tokensFrom offset done cs = .ok ts) :
    ∃ found, Lexes offset cs found ∧ ts = done.reverse ++ found := by
  fun_induction tokensFrom offset done cs with
  | case1 offset done =>
    cases h
    exact ⟨[], .done, (List.append_nil _).symm⟩
  | case2 offset done c cs hc ih =>
    obtain ⟨found, lexes, e⟩ := ih h
    exact ⟨found, .blank hc lexes, e⟩
  | case3 => cases h
  | case4 offset done c cs hc l hs stop ih =>
    obtain ⟨found, lexes, e⟩ := ih h
    obtain ⟨spells, ends⟩ := spells_of_scan hs
    refine ⟨⟨l.kind, offset, stop⟩ :: found, ?_, by simpa using e⟩
    rw [← (Lexeme.scan_eq_ok hs).1]
    exact .token spells ends lexes

/-- The tokens of a source are those that stand in its characters. -/
theorem tokenize_eq_ok {source : String} {ts : List Token} :
    tokenize source = .ok ts ↔ Lexes 0 source.toList ts := by
  constructor
  · intro h
    obtain ⟨found, lexes, e⟩ := lexes_of_tokensFrom h
    rw [List.reverse_nil, List.nil_append] at e
    exact e ▸ lexes
  · intro h
    exact tokensFrom_of_lexes h []

/-- Every token of a source is of a kind that can be spelled. -/
theorem Lexes.legal {offset : Nat} {cs : List Char} {ts : List Token} (h : Lexes offset cs ts) :
    ∀ t ∈ ts, t.kind.Legal := by
  induction h with
  | done => simp
  | blank _ _ ih => exact ih
  | token hs _ _ ih =>
    intro t ht
    rcases List.mem_cons.1 ht with rfl | ht
    · exact hs.legal
    · exact ih t ht

/-! ### Taking tokens apart -/

/-- White space stands in front of the first token, and its characters in front of the others. -/
lemma Lexes.uncons {offset : Nat} {cs : List Char} {t : Token} {ts : List Token}
    (h : Lexes offset cs (t :: ts)) :
    ∃ kind gap chars rest, cs = gap ++ (chars ++ rest) ∧ (∀ c ∈ gap, Text.isBlank c = true) ∧
      t = ⟨kind, offset + Text.byteLength gap,
        offset + Text.byteLength gap + Text.byteLength chars⟩ ∧
      Spells kind chars ∧ Ends chars rest ∧
      Lexes (offset + Text.byteLength gap + Text.byteLength chars) rest ts := by
  generalize e : t :: ts = all at h
  induction h with
  | done => cases e
  | @blank _ c _ _ hc _ ih =>
    obtain ⟨kind, gap, chars, rest, rfl, blank, placed, spells, ends, others⟩ := ih e
    rw [Nat.add_assoc _ c.utf8Size, ← Text.byteLength_cons] at placed others
    exact ⟨kind, c :: gap, chars, rest, rfl, List.forall_mem_cons.2 ⟨hc, blank⟩, placed, spells,
      ends, others⟩
  | @token _ kind chars rest _ hs hr others _ =>
    cases e
    exact ⟨kind, [], chars, rest, rfl, by simp, rfl, hs, hr, others⟩

/-- The characters of a token stand behind those that the tokens before it stand in, and in front of
those that the tokens after it stand in. -/
lemma Lexes.split {offset : Nat} {cs : List Char} {t : Token} {front back : List Token}
    (h : Lexes offset cs (front ++ t :: back)) :
    ∃ kind before chars after, cs = before ++ (chars ++ after) ∧
      t = ⟨kind, offset + Text.byteLength before,
        offset + Text.byteLength before + Text.byteLength chars⟩ ∧
      Spells kind chars ∧ Ends chars after ∧ Lexes offset (before ++ chars) (front ++ [t]) ∧
      Lexes (offset + Text.byteLength before + Text.byteLength chars) after back := by
  induction front generalizing offset cs with
  | nil =>
    obtain ⟨kind, gap, chars, rest, rfl, blank, rfl, spells, ends, others⟩ := Lexes.uncons h
    exact ⟨kind, gap, chars, rest, rfl, rfl, spells, ends, .blanks blank spells.lexes, others⟩
  | cons u front ih =>
    obtain ⟨kind', gap, chars', rest, rfl, blank, rfl, spells', ends', others'⟩ := Lexes.uncons h
    obtain ⟨kind, before, chars, after, rfl, placed, spells, ends, upTo, others⟩ := ih others'
    have total : offset + Text.byteLength gap + Text.byteLength chars' + Text.byteLength before =
        offset + Text.byteLength (gap ++ (chars' ++ before)) := by
      simp only [Text.byteLength_append, Nat.add_assoc]
    rw [total] at placed others
    refine ⟨kind, gap ++ (chars' ++ before), chars, after, ?_, placed, spells, ends, ?_, others⟩
    · simp only [List.append_assoc]
    · rw [← List.append_assoc] at ends'
      rw [List.append_assoc, List.append_assoc]
      exact .blanks blank (.token spells' ends'.of_append upTo)

/-! ### The tokens of a layout -/

/-- Nothing that may follow an opening parenthesis is drawn into it. -/
lemma ends_openParen (rest : List Char) : Ends TokenKind.openParen.spelling rest :=
  ends_of_mark rfl (by decide) rest

/-- In a layout a token is followed by nothing that would be drawn into it. -/
lemma ends_gap (left right : TokenKind) (rest : List Char) :
    Ends left.spelling (TokenKind.gap left right ++ (right.spelling ++ rest)) := by
  rw [TokenKind.gap]
  split
  next h =>
    rcases h with rfl | rfl
    · exact ends_openParen _
    · exact (separates_cons (by decide) _).ends _
  next => exact (separates_cons (by decide) _).ends _

/-- What stands between two tokens is white space. -/
lemma blank_gap (left right : TokenKind) :
    ∀ c ∈ TokenKind.gap left right, Text.isBlank c = true := by
  intro c hc
  rw [TokenKind.gap] at hc
  split at hc
  · cases hc
  · rw [List.mem_singleton.1 hc]
    decide

/-- A layout starts with the spelling of its first token. -/
lemma layout_cons (kind : TokenKind) (kinds : List TokenKind) :
    ∃ rest, TokenKind.layout (kind :: kinds) = kind.spelling ++ rest := by
  cases kinds with
  | nil => exact ⟨[], (List.append_nil _).symm⟩
  | cons next kinds => exact ⟨_, List.append_assoc ..⟩

/-- The tokens of a layout are the ones laid out. -/
theorem lexes_layout {kinds : List TokenKind} (legal : ∀ kind ∈ kinds, kind.Legal) (offset : Nat) :
    ∃ ts, Lexes offset (TokenKind.layout kinds) ts ∧ ts.map Token.kind = kinds := by
  induction kinds generalizing offset with
  | nil => exact ⟨[], .done, rfl⟩
  | cons kind kinds ih =>
    have spells := spells_spelling (legal kind (by simp))
    have others := ih fun k hk => legal k (List.mem_cons_of_mem _ hk)
    cases kinds with
    | nil => exact ⟨_, spells.lexes, rfl⟩
    | cons next kinds =>
      obtain ⟨rest, e⟩ := layout_cons next kinds
      obtain ⟨ts, lexes, hts⟩ := others (offset + Text.byteLength kind.spelling +
        Text.byteLength (TokenKind.gap kind next))
      refine ⟨⟨kind, offset, offset + Text.byteLength kind.spelling⟩ :: ts, ?_,
        by rw [List.map_cons, hts]⟩
      rw [TokenKind.layout, List.append_assoc]
      refine .token spells ?_ (.blanks (blank_gap kind next) lexes)
      rw [e]
      exact ends_gap kind next rest

/-! ### The tokens of texts put together -/

/-- Wherever the characters stand, they have tokens of these kinds. -/
def LexesAs (cs : List Char) (kinds : List TokenKind) : Prop :=
  ∀ offset, ∃ ts, Lexes offset cs ts ∧ ts.map Token.kind = kinds

/-- A text that no token of the one before it runs on into keeps its tokens. -/
lemma Lexes.append {offset : Nat} {cs rest : List Char} {ts ts' : List Token}
    (h : Lexes offset cs ts) (sep : Separates rest)
    (h' : Lexes (offset + Text.byteLength cs) rest ts') :
    Lexes offset (cs ++ rest) (ts ++ ts') := by
  induction h with
  | done => simpa using h'
  | blank hc _ ih =>
    refine .blank hc (ih ?_)
    rwa [Text.byteLength_cons, ← Nat.add_assoc] at h'
  | token hs hr _ ih =>
    rw [List.append_assoc]
    refine .token hs (hr.append sep) (ih ?_)
    rwa [Text.byteLength_append, ← Nat.add_assoc] at h'

namespace LexesAs

variable {cs rest : List Char} {kind : TokenKind} {kinds kinds' : List TokenKind}

lemma nil : LexesAs [] [] := fun _ => ⟨[], .done, rfl⟩

/-- The spelling of a token has this token alone. -/
lemma alone {chars : List Char} (hs : Spells kind chars) : LexesAs chars [kind] :=
  fun _ => ⟨[_], hs.lexes, rfl⟩

/-- White space in front adds no token. -/
lemma blank {c : Char} (hc : Text.isBlank c = true) (h : LexesAs cs kinds) :
    LexesAs (c :: cs) kinds := by
  intro offset
  obtain ⟨ts, lexes, hts⟩ := h (offset + c.utf8Size)
  exact ⟨ts, .blank hc lexes, hts⟩

/-- White space in front changes nothing. -/
lemma blanks {gap : List Char} (hgap : ∀ c ∈ gap, Text.isBlank c = true) (h : LexesAs cs kinds) :
    LexesAs (gap ++ cs) kinds := by
  intro offset
  obtain ⟨ts, lexes, hts⟩ := h (offset + Text.byteLength gap)
  exact ⟨ts, .blanks hgap lexes, hts⟩

/-- The spelling of a token in front adds it, if it does not run on into what follows. -/
lemma token {chars : List Char} (hs : Spells kind chars) (hr : Ends chars cs)
    (h : LexesAs cs kinds) : LexesAs (chars ++ cs) (kind :: kinds) := by
  intro offset
  obtain ⟨ts, lexes, hts⟩ := h (offset + Text.byteLength chars)
  exact ⟨_, .token hs hr lexes, congrArg (kind :: ·) hts⟩

/-- Two texts put together have the tokens of both, if nothing runs on from one to the other. -/
lemma append (h : LexesAs cs kinds) (sep : Separates rest) (h' : LexesAs rest kinds') :
    LexesAs (cs ++ rest) (kinds ++ kinds') := by
  intro offset
  obtain ⟨ts, lexes, hts⟩ := h offset
  obtain ⟨ts', lexes', hts'⟩ := h' (offset + Text.byteLength cs)
  exact ⟨ts ++ ts', lexes.append sep lexes', by rw [List.map_append, hts, hts']⟩

/-- A parenthesis ends whatever stands before it. -/
lemma parenthesized (h : LexesAs cs kinds) :
    LexesAs ('(' :: cs ++ [')']) (.openParen :: kinds ++ [.closeParen]) := by
  have closing : LexesAs [')'] [.closeParen] := .alone .closeParen
  have inside : LexesAs (cs ++ [')']) (kinds ++ [.closeParen]) :=
    h.append (separates_cons (by decide) _) closing
  have opened : LexesAs (['('] ++ (cs ++ [')'])) (.openParen :: (kinds ++ [.closeParen])) :=
    .token .openParen (ends_openParen _) inside
  exact opened

/-- A word with a space after it is a token of its own. -/
lemma word {w : List Char} (ne : w ≠ []) (hw : ∀ c ∈ w, isWordChar c = true)
    (h : LexesAs cs kinds) : LexesAs (w ++ ' ' :: cs) (.ofWord w :: kinds) :=
  .token (.word ne hw) ((separates_cons (by decide) cs).ends w) (h.blank (by decide))

/-- Texts with a word between each two have the tokens of all of them with the word between each
two. -/
lemma intercalate {α : Type} {w : List Char} (ne : w ≠ []) (hw : ∀ c ∈ w, isWordChar c = true)
    {xs : List α} {chars : α → List Char} {kinds : α → List TokenKind}
    (h : ∀ x ∈ xs, LexesAs (chars x) (kinds x)) :
    LexesAs ((' ' :: w ++ [' ']).intercalate (xs.map chars))
      ([.ofWord w].intercalate (xs.map kinds)) := by
  induction xs with
  | nil => exact .nil
  | cons x xs ih =>
    have others := ih fun y hy => h y (List.mem_cons_of_mem _ hy)
    cases xs with
    | nil => simpa using h x (by simp)
    | cons y ys =>
      have joined : LexesAs (w ++ ' ' :: _) (.ofWord w :: _) := others.word ne hw
      have whole := (h x (by simp)).append (separates_cons (by decide) _)
        (joined.blank (c := ' ') (by decide))
      simpa [List.intercalate_cons_cons] using whole

end LexesAs

/-- Where characters stand decides the places of their tokens alone. -/
lemma Lexes.lexesAs {offset : Nat} {cs : List Char} {ts : List Token} (h : Lexes offset cs ts) :
    LexesAs cs (ts.map Token.kind) := by
  induction h with
  | done => exact .nil
  | blank hc _ ih => exact ih.blank hc
  | token hs hr _ ih => exact ih.token hs hr

end LoanDesk
