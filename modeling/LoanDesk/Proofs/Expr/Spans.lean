import LoanDesk.Expr.Token.Slice
import LoanDesk.Proofs.Expr.Culprit

/-!
# The spans of tokens

The tokens of a source part it into spans, one for each token, and white space around them
(`Token.Spans`).  A span lies between ends of characters, it holds the token by itself, and it goes
on as far as the token can.  So does the span of a word, which a lexer may therefore cut out of the
source by its offsets (`cutTokensFrom_eq`).

Main statement: `tokenize_spans`.
-/

namespace LoanDesk

/-! ### Cutting words -/

namespace Text

variable {source : String}

/-- A valid offset is a position of the text. -/
lemma pos?_eq {offset : Nat} (h : String.Pos.Raw.IsValid source ⟨offset⟩) :
    source.pos? ⟨offset⟩ = some (source.pos ⟨offset⟩ h) := by
  have valid : String.Pos.Raw.isValidForSlice source.toSlice ⟨offset⟩ = true :=
    String.Pos.Raw.isValidForSlice_eq_true_iff.2 (String.Pos.Raw.isValidForSlice_toSlice_iff.2 h)
  rw [String.pos?, String.Slice.pos?, dif_pos valid]
  rfl

/-- Between characters and those behind them a text has a position that splits it. -/
lemma exists_splits {front back : List Char} (h : source.toList = front ++ back) :
    ∃ pos, source.pos? ⟨byteLength front⟩ = some pos ∧
      pos.Splits (String.ofList front) (String.ofList back) := by
  refine ⟨_, pos?_eq (isValid_of_eq_append h), ?_, ?_⟩
  · rw [← String.ofList_append, ← h, String.ofList_toList]
  · change (⟨byteLength front⟩ : String.Pos.Raw) = _
    rw [byteLength_eq]
    rfl

/-- The part between two others can be cut out of the text. -/
lemma slice?_eq_some {front part back : List Char} (h : source.toList = front ++ (part ++ back)) :
    slice? source (byteLength front) (byteLength front + byteLength part) =
      some (String.ofList part) := by
  obtain ⟨first, hfirst, splits⟩ := exists_splits h
  rw [← List.append_assoc] at h
  obtain ⟨past, hpast, splits'⟩ := exists_splits h
  rw [String.ofList_append] at splits splits'
  obtain ⟨le, copied⟩ := String.copy_slice_eq_iff_splits.2 ⟨_, _, splits, splits'⟩
  have between : source.slice? first past = some (source.slice first past le) := dif_pos le
  rw [byteLength_append] at hpast
  simp only [slice?, hfirst, hpast, between, Option.bind_eq_bind, Option.bind_some]
  exact congrArg some copied

end Text

/-- Going along word characters leads to the end of the longest word. -/
lemma wordStop_eq (offset : Nat) (cs : List Char) :
    wordStop offset cs = offset + Text.byteLength (cs.takeWhile isWordChar) := by
  induction cs generalizing offset with
  | nil => rfl
  | cons c cs ih =>
    rw [wordStop]
    split
    next h => rw [ih, List.takeWhile_cons_of_pos h, Text.byteLength_cons, Nat.add_assoc]
    next h => rw [List.takeWhile_cons_of_neg h, Text.byteLength_nil, Nat.add_zero]

section

variable {source : String} {before : List Char}

/-- The source has a part for every word, and it is the word that the scanner takes. -/
lemma Lexeme.cut_eq {c : Char} {cs : List Char} (h : source.toList = before ++ c :: cs) :
    cut source (Text.byteLength before) c cs = some (scan c cs) := by
  rw [cut]
  split
  next word =>
    have parts : source.toList =
        before ++ ((c :: cs.takeWhile isWordChar) ++ cs.dropWhile isWordChar) := by
      rw [h, List.cons_append, List.takeWhile_append_dropWhile]
    rw [wordStop_eq, List.takeWhile_cons_of_pos word, Text.slice?_eq_some parts,
      scan_of_isWordChar word, Option.map_some, String.toList_ofList]
  next => rfl

/-- White space is no token. -/
lemma cutTokensFrom_blank {offset : Nat} {done : List Token} {c : Char} {cs : List Char}
    (hc : Text.isBlank c = true) :
    cutTokensFrom source offset done (c :: cs) =
      cutTokensFrom source (offset + c.utf8Size) done cs := by
  rw [cutTokensFrom.eq_def]
  exact if_pos hc

/-- A fault of the first word is the error of the whole text. -/
lemma cutTokensFrom_fault {offset : Nat} {done : List Token} {c : Char} {cs : List Char}
    {fault : LexFault} (hc : ¬ Text.isBlank c = true)
    (h : Lexeme.cut source offset c cs = some (.error fault)) :
    cutTokensFrom source offset done (c :: cs) = some (.error (.lexical fault offset)) := by
  rw [cutTokensFrom.eq_def]
  dsimp only
  rw [if_neg hc]
  split
  next hs => rw [h] at hs; cases hs
  next hs => rw [h] at hs; cases hs; rfl
  next hs => rw [h] at hs; cases hs

/-- A word that is cut out of the source is the next token. -/
lemma cutTokensFrom_token {offset : Nat} {done : List Token} {c : Char} {cs : List Char}
    {l : Lexeme} (hc : ¬ Text.isBlank c = true)
    (h : Lexeme.cut source offset c cs = some (.ok l)) :
    cutTokensFrom source offset done (c :: cs) =
      cutTokensFrom source (offset + Text.byteLength l.chars)
        (⟨l.kind, offset, offset + Text.byteLength l.chars⟩ :: done) l.rest := by
  rw [cutTokensFrom.eq_def]
  dsimp only
  rw [if_neg hc]
  split
  next hs => rw [h] at hs; cases hs
  next hs => rw [h] at hs; cases hs
  next hs => rw [h] at hs; cases hs; rfl

/-- A lexer that cuts its words out of the source finds the tokens that are there, wherever it
stands. -/
lemma cutTokensFrom_eq {cs : List Char} (h : source.toList = before ++ cs) {offset : Nat}
    (here : Text.byteLength before = offset) (done : List Token) :
    cutTokensFrom source offset done cs = some (tokensFrom offset done cs) := by
  fun_induction tokensFrom offset done cs generalizing before with
  | case1 => rw [cutTokensFrom.eq_def]
  | case2 offset done c cs hc ih =>
    have parts : source.toList = (before ++ [c]) ++ cs := by
      rw [h, List.append_assoc, List.singleton_append]
    rw [cutTokensFrom_blank hc]
    exact ih parts (by simp [here])
  | case3 offset done c cs hc fault hs =>
    have cut : Lexeme.cut source offset c cs = some (.error fault) := by
      rw [← here, Lexeme.cut_eq h, hs]
    exact cutTokensFrom_fault hc cut
  | case4 offset done c cs hc l hs stop =>
    rename_i ih
    have cut : Lexeme.cut source offset c cs = some (.ok l) := by
      rw [← here, Lexeme.cut_eq h, hs]
    have parts : source.toList = (before ++ l.chars) ++ l.rest := by
      rw [h, ← (Lexeme.scan_eq_ok hs).1, List.append_assoc]
    rw [cutTokensFrom_token hc cut]
    exact ih parts (by rw [Text.byteLength_append, here])

end

/-! ### Where tokens stand -/

/-- The characters of the source behind a token. -/
def Token.rest (source : List Char) (t : Token) : List Char := Text.dropBytes t.stop source

/-- Behind a token stand the characters after its own. -/
lemma Token.rest_eq (kind : TokenKind) (front chars back : List Char) :
    Token.rest (front ++ (chars ++ back))
      ⟨kind, Text.byteLength front, Text.byteLength front + Text.byteLength chars⟩ = back := by
  rw [Token.rest, ← Text.byteLength_append, ← List.append_assoc, Text.dropBytes_append]

/-- Tokens take at least a byte. -/
lemma Spells.byteLength_pos {kind : TokenKind} {chars : List Char} (h : Spells kind chars) :
    0 < Text.byteLength chars := by
  obtain ⟨c, w, rfl, -⟩ := h.head
  exact Nat.add_pos_left c.utf8Size_pos _

namespace Lexes

variable {offset : Nat} {cs : List Char} {ts : List Token}

/-- No token starts before the characters that it stands in. -/
lemma le_start (h : Lexes offset cs ts) : ∀ t ∈ ts, offset ≤ t.start := by
  intro t ht
  obtain ⟨_, before, _, _, -, rfl, -⟩ := h.exists_text ht
  exact Nat.le_add_right ..

/-- A token starts where those before it have ended. -/
lemma ordered (h : Lexes offset cs ts) : ts.Pairwise fun t u => t.stop ≤ u.start := by
  induction h with
  | done => exact .nil
  | blank _ _ ih => exact ih
  | token _ _ others ih => exact List.pairwise_cons.2 ⟨others.le_start, ih⟩

/-- A character that no token takes is white space. -/
lemma isBlank_outside (h : Lexes offset cs ts) {before after : List Char} {c : Char}
    (parts : cs = before ++ c :: after)
    (out : ∀ t ∈ ts, offset + Text.byteLength before < t.start ∨
      t.stop ≤ offset + Text.byteLength before) : Text.isBlank c = true := by
  induction h generalizing before with
  | done => cases before <;> cases parts
  | @blank offset d cs ts hd _ ih =>
    cases before with
    | nil =>
      cases parts
      exact hd
    | cons b before =>
      cases parts
      rw [Text.byteLength_cons, ← Nat.add_assoc] at out
      exact ih rfl out
  | @token offset kind chars rest ts _ _ _ ih =>
    obtain ⟨first, others⟩ := List.forall_mem_cons.1 out
    -- The character lies in the first token or behind it.
    have behind (gap : List Char) (tail : rest = gap ++ c :: after)
        (total : before = chars ++ gap) : Text.isBlank c = true := by
      apply ih tail
      rwa [total, Text.byteLength_append, ← Nat.add_assoc] at others
    rcases List.append_eq_append_iff.1 parts with ⟨gap, total, tail⟩ | ⟨inside, total, tail⟩
    · exact behind gap tail total
    · cases inside with
      | nil => exact behind [] tail.symm (by simpa using total.symm)
      | cons d inside =>
        have := d.utf8Size_pos
        simp only [total, Text.byteLength_append, Text.byteLength_cons] at first
        omega

end Lexes

/-! ### How far tokens go -/

/-- What starts with a word character is made of them. -/
lemma Spells.all_isWordChar {kind : TokenKind} {chars : List Char} {c : Char}
    (h : Spells kind chars) (first : c ∈ chars.head?) (word : isWordChar c = true) :
    ∀ d ∈ chars, isWordChar d = true := by
  cases h with
  | openParen => cases first; exact absurd word (by decide)
  | closeParen => cases first; exact absurd word (by decide)
  | compare op => cases op <;> cases first <;> exact absurd word (by decide)
  | quoted hq =>
    cases first
    rcases hq with rfl | rfl <;> exact absurd word (by decide)
  | field => cases first; exact absurd word (by decide)
  | word _ hw => exact hw

/-- Each of the characters that comparisons start with takes an equals sign that follows, and two of
them do without one. -/
lemma Spells.sign {kind : TokenKind} {chars rest : List Char} (h : Spells kind chars)
    (ends : Ends chars rest) {c : Char} (first : c ∈ chars.head?)
    (sign : c = '<' ∨ c = '>' ∨ c = '=' ∨ c = '!') :
    chars = [c, '='] ∨ chars = [c] ∧ (c = '<' ∨ c = '>') ∧ rest.head? ≠ some '=' := by
  cases h with
  | openParen => cases first; exact absurd sign (by decide)
  | closeParen => cases first; exact absurd sign (by decide)
  | compare op =>
    cases op with
    | lt =>
      cases first
      exact .inr ⟨rfl, .inl rfl, fun next => ends _ next (.inl ⟨.inl rfl, rfl⟩)⟩
    | gt =>
      cases first
      exact .inr ⟨rfl, .inr rfl, fun next => ends _ next (.inl ⟨.inr rfl, rfl⟩)⟩
    | _ => cases first; exact .inl rfl
  | quoted hq =>
    cases first
    rcases hq with rfl | rfl <;> exact absurd sign (by decide)
  | field => cases first; exact absurd sign (by decide)
  | word _ hw =>
    have word := hw c (List.mem_of_mem_head? first)
    rcases sign with rfl | rfl | rfl | rfl <;> exact absurd word (by decide)

/-- A word that needs no quotes is spelled by itself. -/
lemma Spells.eq_word {s : String} {chars : List Char} (h : Spells (.word s) chars) :
    chars = s.toList := by
  generalize e : TokenKind.word s = kind at h
  cases h with
  | word _ _ =>
    rcases TokenKind.ofWord_cases chars with hk | ⟨x, -, number⟩ | self
    · rw [← e] at hk
      unfold keyword? at hk
      split at hk <;> cases hk
    · cases e.trans number
    · cases e.trans self
      exact String.toList_ofList.symm
  | _ => cases e

/-- The spans of tokens, from `start` up to `stop`, part the source. -/
structure Token.Spans (source : String) (ts : List Token) : Prop where
  nonempty : ∀ t ∈ ts, t.start < t.stop
  isValid : ∀ t ∈ ts, String.Pos.Raw.IsValid source ⟨t.start⟩ ∧
    String.Pos.Raw.IsValid source ⟨t.stop⟩
  ordered : ts.Pairwise fun t u => t.stop ≤ u.start
  /-- White space alone lies outside the spans. -/
  outside : ∀ offset c after, Text.At source offset c after →
    (∀ t ∈ ts, offset < t.start ∨ t.stop ≤ offset) → Text.isBlank c = true
  /-- Each span is its token by itself. -/
  alone : ∀ t ∈ ts, tokenize (String.ofList (t.text source.toList)) =
    .ok [⟨t.kind, 0, t.stop - t.start⟩]
  /-- A word goes on as far as word characters do. -/
  word : ∀ t ∈ ts, ∀ c ∈ (t.text source.toList).head?, isWordChar c = true →
    (∀ d ∈ t.text source.toList, isWordChar d = true) ∧
      ∀ d ∈ (t.rest source.toList).head?, isWordChar d = false
  /-- A comparison takes the equals sign that follows its first character. -/
  sign : ∀ t ∈ ts, ∀ c ∈ (t.text source.toList).head?, c = '<' ∨ c = '>' ∨ c = '=' ∨ c = '!' →
    t.text source.toList = [c, '='] ∨
      t.text source.toList = [c] ∧ (c = '<' ∨ c = '>') ∧ (t.rest source.toList).head? ≠ some '='
  bare : ∀ t ∈ ts, ∀ w, t.kind = .word w → t.text source.toList = w.toList ∧ IsBareWord w

/-- Where a token of a source stands. -/
lemma Token.exists_span {source : String} {ts : List Token} (h : tokenize source = .ok ts)
    {t : Token} (ht : t ∈ ts) :
    ∃ before after, source.toList = before ++ (t.text source.toList ++ after) ∧
      t.rest source.toList = after ∧ t.start = Text.byteLength before ∧
      t.stop = t.start + Text.byteLength (t.text source.toList) ∧
      Spells t.kind (t.text source.toList) ∧ Ends (t.text source.toList) after := by
  obtain ⟨kind, before, chars, after, parts, placed, spells, ends⟩ :=
    (tokenize_eq_ok.1 h).exists_text ht
  rw [Nat.zero_add] at placed
  subst placed
  rw [parts, Token.text_eq, Token.rest_eq]
  exact ⟨before, after, rfl, rfl, rfl, rfl, spells, ends⟩

/-- The tokens of a source part it into spans and white space. -/
theorem Token.spans_of_tokenize {source : String} {ts : List Token} (h : tokenize source = .ok ts) :
    Spans source ts where
  nonempty t ht := by
    obtain ⟨_, _, -, -, -, stop, spells, -⟩ := exists_span h ht
    rw [stop]
    exact Nat.lt_add_of_pos_right spells.byteLength_pos
  isValid t ht := by
    obtain ⟨before, after, parts, -, start, stop, -, -⟩ := exists_span h ht
    rw [stop, start, ← Text.byteLength_append]
    refine ⟨Text.isValid_of_eq_append parts, ?_⟩
    rw [← List.append_assoc] at parts
    exact Text.isValid_of_eq_append parts
  ordered := (tokenize_eq_ok.1 h).ordered
  outside offset c after here out := by
    obtain ⟨before, parts, rfl⟩ := here
    refine (tokenize_eq_ok.1 h).isBlank_outside parts ?_
    rwa [Nat.zero_add]
  alone t ht := by
    obtain ⟨_, _, -, -, -, stop, spells, -⟩ := exists_span h ht
    have alone : Lexes 0 _ _ := spells.lexes
    apply tokenize_eq_ok.2
    rw [String.toList_ofList, stop, Nat.add_sub_cancel_left]
    rwa [Nat.zero_add] at alone
  word t ht c first word := by
    obtain ⟨_, _, -, rest, -, -, spells, ends⟩ := exists_span h ht
    refine ⟨spells.all_isWordChar first word, ?_⟩
    intro d hd
    rw [rest] at hd
    rw [Bool.eq_false_iff]
    intro more
    exact ends d hd (.inr ⟨⟨c, first, word⟩, more⟩)
  sign t ht c first sign := by
    obtain ⟨_, _, -, rest, -, -, spells, ends⟩ := exists_span h ht
    rw [rest]
    exact spells.sign ends first sign
  bare t ht w kind := by
    obtain ⟨_, _, -, -, -, -, spells, -⟩ := exists_span h ht
    rw [kind] at spells
    exact ⟨spells.eq_word, TokenKind.legal_word_iff.1 spells.legal⟩

/-- A lexer that cuts its words out of the source by their offsets is never without a part to cut,
whatever the source, and answers as the one that takes their characters.  The tokens that are found
part the source: their spans are not empty, end at ends of characters, follow each other and leave
nothing but white space out, and each of them is its token by itself and goes on as far as that
token can. -/
theorem tokenize_spans (source : String) :
    cutTokens source = some (tokenize source) ∧
      ∀ ts, tokenize source = .ok ts → Token.Spans source ts :=
  ⟨cutTokensFrom_eq (List.nil_append _).symm rfl [], fun _ => Token.spans_of_tokenize⟩

/-- Nothing stands between the tokens, one of which has white space in it, and a no-break space
stands behind them. -/
theorem tokenize_spans_unspaced :
    let source := "é>='a b'!=1e400\u00a0"
    let ts : List Token := [⟨.word "é", 0, 2⟩, ⟨.compare .ge, 2, 4⟩, ⟨.quoted "a b", 4, 9⟩,
      ⟨.compare .ne, 9, 11⟩, ⟨.word "1e400", 11, 16⟩]
    tokenize source = .ok ts ∧ cutTokens source = some (.ok ts) ∧ Token.Spans source ts := by
  intro source ts
  have tokens : tokenize source = .ok ts := by
    decide +kernel
  obtain ⟨cut, spans⟩ := tokenize_spans source
  exact ⟨tokens, by rw [cut, tokens], spans ts tokens⟩

end LoanDesk
