import LoanDesk.Proofs.Expr.Culprit

/-!
# White space between tokens

White space keeps what stands in front of it apart from what stands behind it.  So a source is split
by splitting the text behind the white space on its own and moving what is found there
(`tokenize_append_blank`), other white space between two tokens leaves the kinds of the tokens and
the expression as they are (`parse_respace`), and tokens that are spelled with a space between each
two are found again (`tokenize_joined_iff`).

Main statement: `tokenize_spacing`.
-/

namespace LoanDesk

/-- No token before white space takes it. -/
lemma separates_blank {c : Char} (h : Text.isBlank c = true) (cs : List Char) :
    Separates (c :: cs) := by
  apply separates_cons
  constructor
  · rw [Bool.eq_false_iff]
    intro word
    rw [(isWordChar_iff.1 word).1] at h
    cases h
  · rintro rfl
    exact absurd h (by decide)

/-! ### Texts behind white space -/

/-- The token `n` bytes further on. -/
def Token.shift (n : Nat) (t : Token) : Token := ⟨t.kind, n + t.start, n + t.stop⟩

/-- The error about a place that lies `n` bytes further on. -/
def ParseError.shift (n : Nat) : ParseError → ParseError
  | lexical fault offset => lexical fault (n + offset)
  | unbalancedParen offset => unbalancedParen (n + offset)
  | expectedOperand found offset => expectedOperand found (n + offset)
  | trailingInput found offset => trailingInput found (n + offset)
  | empty => empty
  | unexpectedEnd => unexpectedEnd
  | tooDeep => tooDeep

/-- Characters are split in the same way wherever they stand and whatever tokens were found before
them; the answer has their places moved and those tokens in front. -/
lemma tokensFrom_shift (n : Nat) (earlier : List Token) (offset : Nat) (done : List Token)
    (cs : List Char) :
    tokensFrom (n + offset) (done.map (Token.shift n) ++ earlier) cs =
      ((tokensFrom offset done cs).map fun ts =>
        earlier.reverse ++ ts.map (Token.shift n)).mapError (ParseError.shift n) := by
  fun_induction tokensFrom offset done cs with
  | case1 offset done =>
    rw [tokensFrom.eq_def, List.reverse_append, ← List.map_reverse]
    rfl
  | case2 offset done c cs hc ih =>
    rw [tokensFrom_blank hc, Nat.add_assoc]
    exact ih
  | case3 offset done c cs hc fault hs =>
    rw [tokensFrom_fault hc hs]
    rfl
  | case4 offset done c cs hc l hs stop ih =>
    obtain ⟨spells, ends⟩ := spells_of_scan hs
    rw [← (Lexeme.scan_eq_ok hs).1, tokensFrom_token spells ends, Nat.add_assoc]
    exact ih

/-- A text behind white space has the tokens that it has on its own, or the error, further on. -/
theorem tokenize_append_blank {a b : String} {ta : List Token} {w : Char}
    (ha : tokenize a = .ok ta) (hw : Text.isBlank w = true) :
    let n := (a ++ String.singleton w).utf8ByteSize
    tokenize (a ++ String.singleton w ++ b) =
      ((tokenize b).map fun tb => ta ++ tb.map (Token.shift n)).mapError (ParseError.shift n) := by
  intro n
  have total : Text.byteLength a.toList + w.utf8Size = n := by
    rw [Text.byteLength_eq, String.ofList_toList, ← String.utf8ByteSize_singleton,
      ← String.utf8ByteSize_append]
  have parts : (a ++ String.singleton w ++ b).toList = a.toList ++ w :: b.toList := by
    rw [String.toList_append, String.toList_append, String.toList_singleton, List.append_assoc]
    rfl
  have moved := tokensFrom_shift n ta.reverse 0 [] b.toList
  rw [List.reverse_reverse] at moved
  rw [tokenize, parts, tokensFrom_append (tokenize_eq_ok.1 ha) (separates_blank hw _),
    tokensFrom_blank hw, Nat.zero_add, total, List.append_nil]
  exact moved

/-! ### White space in place of other white space -/

/-- The source with `gap` in place of what stands between two tokens. -/
def respace (t u : Token) (gap source : String) : String :=
  String.ofList (Text.takeBytes t.stop source.toList ++ gap.toList ++
    Text.dropBytes u.start source.toList)

/-- The characters up to the end of a token, and those from the start of the next one on, have
their tokens without each other. -/
lemma Lexes.lexesAs_apart {cs : List Char} {front back : List Token} {t u : Token}
    (h : Lexes 0 cs (front ++ t :: u :: back)) :
    LexesAs (Text.takeBytes t.stop cs) ((front ++ [t]).map Token.kind) ∧
      LexesAs (Text.dropBytes u.start cs) ((u :: back).map Token.kind) := by
  obtain ⟨kind, before, chars, after, rfl, rfl, -, -, upTo, behind⟩ := h.split
  obtain ⟨kind', gap, chars', rest, rfl, -, rfl, spells, ends, others⟩ := behind.uncons
  constructor
  · have taken : Text.takeBytes (0 + Text.byteLength before + Text.byteLength chars)
        (before ++ (chars ++ (gap ++ (chars' ++ rest)))) = before ++ chars := by
      rw [Nat.zero_add, ← Text.byteLength_append, ← List.append_assoc, Text.takeBytes_append]
    rw [taken]
    exact upTo.lexesAs
  · have left : Text.dropBytes
        (0 + Text.byteLength before + Text.byteLength chars + Text.byteLength gap)
        (before ++ (chars ++ (gap ++ (chars' ++ rest)))) = chars' ++ rest := by
      rw [Nat.zero_add, ← Text.byteLength_append, ← Text.byteLength_append, ← List.append_assoc,
        ← List.append_assoc (before ++ chars), Text.dropBytes_append]
    rw [left]
    exact .token spells ends others.lexesAs

/-- A source is read for the kinds of its tokens alone. -/
lemma Expr.parse_eq_ok_congr {source source' : String} {ts ts' : List Token}
    (h : tokenize source = .ok ts) (h' : tokenize source' = .ok ts')
    (same : ts'.map Token.kind = ts.map Token.kind) (e : Expr) :
    parse source' = .ok e ↔ parse source = .ok e := by
  rw [parse_eq_ok_iff, parse_eq_ok_iff, h, h']
  constructor
  · rintro ⟨_, ⟨⟩, derived⟩
    exact ⟨ts, rfl, same ▸ derived⟩
  · rintro ⟨_, ⟨⟩, derived⟩
    exact ⟨ts', rfl, same ▸ derived⟩

/-- Other white space between two tokens leaves the kinds of the tokens as they are, and so the
expression. -/
theorem parse_respace {source gap : String} {front back : List Token} {t u : Token}
    (h : tokenize source = .ok (front ++ t :: u :: back)) (ne : gap ≠ "")
    (blank : ∀ c ∈ gap.toList, Text.isBlank c = true) :
    (∃ ts, tokenize (respace t u gap source) = .ok ts ∧
      ts.map Token.kind = (front ++ t :: u :: back).map Token.kind) ∧
    ∀ e, Expr.parse (respace t u gap source) = .ok e ↔ Expr.parse source = .ok e := by
  obtain ⟨first, second⟩ := (tokenize_eq_ok.1 h).lexesAs_apart
  have sep : Separates (gap.toList ++ Text.dropBytes u.start source.toList) := by
    obtain ⟨c, w, e⟩ := List.exists_cons_of_ne_nil (mt String.toList_eq_nil_iff.1 ne)
    rw [e] at blank ⊢
    exact separates_blank (blank c (by simp)) _
  obtain ⟨ts, lexes, kinds⟩ := first.append sep (second.blanks blank) 0
  have tokens : tokenize (respace t u gap source) = .ok ts := by
    apply tokenize_eq_ok.2
    rw [respace, String.toList_ofList, List.append_assoc]
    exact lexes
  have same : ts.map Token.kind = (front ++ t :: u :: back).map Token.kind := by
    rw [kinds, ← List.map_append, List.append_assoc]
    rfl
  exact ⟨⟨ts, tokens, same⟩, Expr.parse_eq_ok_congr h tokens same⟩

/-! ### Spelling tokens -/

namespace TokenKind

/-- The spellings of tokens with a space between each two. -/
def joined (kinds : List TokenKind) : String :=
  " ".intercalate (kinds.map fun kind => String.ofList kind.spelling)

/-- Joined tokens are their spellings with a space between each two. -/
lemma toList_joined (kinds : List TokenKind) :
    (joined kinds).toList = [' '].intercalate (kinds.map spelling) := by
  rw [joined, String.toList_intercalate, List.map_map]
  congr 1
  exact List.map_congr_left fun kind _ => String.toList_ofList

/-- The kinds that can be spelled are all but some words, names between braces and numbers. -/
lemma forall_legal_iff {kinds : List TokenKind} :
    (∀ kind ∈ kinds, kind.Legal) ↔
      (∀ s, word s ∈ kinds → IsBareWord s) ∧
      (∀ name, field name ∈ kinds → IsFieldName name.toList) ∧
      (∀ x, number x ∈ kinds → Number.isFinite x = Bool.true) := by
  constructor
  · intro legal
    exact ⟨fun s hs => legal_word_iff.1 (legal _ hs), fun name => legal _, fun x => legal _⟩
  · rintro ⟨words, fields, numbers⟩ kind mem
    cases kind with
    | word s => exact legal_word_iff.2 (words s mem)
    | field name => exact fields name mem
    | number x => exact numbers x mem
    | _ => trivial

end TokenKind

/-- Spellings with a space between each two spell the tokens in their order. -/
lemma lexesAs_joined {kinds : List TokenKind} (legal : ∀ kind ∈ kinds, kind.Legal) :
    LexesAs ([' '].intercalate (kinds.map TokenKind.spelling)) kinds := by
  induction kinds with
  | nil => exact .nil
  | cons kind kinds ih =>
    have spells := spells_spelling (legal kind (by simp))
    have others := ih fun k hk => legal k (List.mem_cons_of_mem _ hk)
    have space : Text.isBlank ' ' = true := by decide
    cases kinds with
    | nil =>
      rw [List.map_singleton, List.intercalate_singleton]
      exact .alone spells
    | cons next kinds =>
      rw [List.map_cons, List.map_cons, List.intercalate_cons_cons, List.append_assoc]
      exact .token spells ((separates_blank space _).ends _) (.blank space others)

/-- Tokens are found again in their spellings exactly if each of them can be spelled. -/
theorem tokenize_joined_iff {kinds : List TokenKind} :
    (∃ ts, tokenize (TokenKind.joined kinds) = .ok ts ∧ ts.map Token.kind = kinds) ↔
      ∀ kind ∈ kinds, kind.Legal := by
  simp only [tokenize_eq_ok, TokenKind.toList_joined]
  constructor
  · rintro ⟨ts, lexes, rfl⟩
    exact List.forall_mem_map.2 lexes.legal
  · intro legal
    exact lexesAs_joined legal 0

/-- A text behind white space is split as it is on its own, with the places of its tokens, or of its
error, moved by the bytes in front of it.  Whatever white space stands between two tokens, the kinds
of the tokens are the same and so is the expression.  And tokens that are spelled with a space
between each two are found again exactly if the words need no quotes, the names between braces are
field names and the numbers are finite; a text between quotes may have any characters. -/
theorem tokenize_spacing :
    (∀ {a b : String} {ta : List Token} {w : Char},
      tokenize a = .ok ta → Text.isBlank w = true →
      let n := (a ++ String.singleton w).utf8ByteSize
      tokenize (a ++ String.singleton w ++ b) =
        ((tokenize b).map fun tb => ta ++ tb.map (Token.shift n)).mapError (ParseError.shift n)) ∧
    (∀ {source gap : String} {front back : List Token} {t u : Token},
      tokenize source = .ok (front ++ t :: u :: back) → gap ≠ "" →
      (∀ c ∈ gap.toList, Text.isBlank c = true) →
      (∃ ts, tokenize (respace t u gap source) = .ok ts ∧
        ts.map Token.kind = (front ++ t :: u :: back).map Token.kind) ∧
      ∀ e, Expr.parse (respace t u gap source) = .ok e ↔ Expr.parse source = .ok e) ∧
    ∀ {kinds : List TokenKind},
      (∃ ts, tokenize (TokenKind.joined kinds) = .ok ts ∧ ts.map Token.kind = kinds) ↔
        (∀ s, .word s ∈ kinds → IsBareWord s) ∧
        (∀ name, .field name ∈ kinds → IsFieldName name.toList) ∧
        (∀ x, .number x ∈ kinds → Number.isFinite x = true) :=
  ⟨tokenize_append_blank, parse_respace, tokenize_joined_iff.trans TokenKind.forall_legal_iff⟩

/-- Behind a no-break space, which takes two bytes, an open string is at fault further on; the space
may stand between tokens that stood close together; and a quote and a backslash between quotes are
found again. -/
theorem tokenize_spacing_noBreak :
    let kinds : List TokenKind := [.quoted "it's \\", .field "a", .word "C4",
      .number (Float.ofBits 0x401E000000000000)]
    tokenize "\x7ba\x7d >" = .ok [⟨.field "a", 0, 3⟩, ⟨.compare .gt, 4, 5⟩] ∧
    tokenize "\x7ba\x7d >\u00a0é 'x" = .error (.lexical .unterminatedString 10) ∧
    (∃ ts, tokenize "\x7ba\x7d\u00a0>b" = .ok ts ∧
      ts.map Token.kind = [.field "a", .compare .gt, .word "b"]) ∧
    TokenKind.joined kinds = "'it\\'s \\\\' \x7ba\x7d C4 7.5" ∧
    ∃ ts, tokenize "'it\\'s \\\\' \x7ba\x7d C4 7.5" = .ok ts ∧ ts.map Token.kind = kinds := by
  intro kinds
  obtain ⟨behind, between, spelled⟩ := tokenize_spacing
  have front : tokenize "\x7ba\x7d >" = .ok [⟨.field "a", 0, 3⟩, ⟨.compare .gt, 4, 5⟩] := by
    decide +kernel
  have back : tokenize "é 'x" = .error (.lexical .unterminatedString 3) := by
    decide +kernel
  have close : tokenize "\x7ba\x7d>b" =
      .ok ([] ++ ⟨.field "a", 0, 3⟩ :: ⟨.compare .gt, 3, 4⟩ :: [⟨.word "b", 4, 5⟩]) := by
    decide +kernel
  have whole := behind front (show Text.isBlank '\u00a0' = true by decide) (b := "é 'x")
  rw [back] at whole
  have gap : ∀ c ∈ "\u00a0".toList, Text.isBlank c = true := List.all_eq_true.1 rfl
  obtain ⟨apart, -⟩ := between close (by decide) gap
  have text : TokenKind.joined kinds = "'it\\'s \\\\' \x7ba\x7d C4 7.5" := by
    decide +kernel
  have legal : (∀ s, .word s ∈ kinds → IsBareWord s) ∧
      (∀ name, .field name ∈ kinds → IsFieldName name.toList) ∧
      (∀ x, .number x ∈ kinds → Number.isFinite x = true) := by
    refine ⟨fun s hs => ?_, fun name hn => ?_, fun x hx => ?_⟩
    · obtain rfl : s = "C4" := by simpa [kinds] using hs
      exact TokenKind.legal_word_iff.1 ⟨by simp, List.all_eq_true.1 rfl, by decide +kernel⟩
    · obtain rfl : name = "a" := by simpa [kinds] using hn
      exact ⟨by simp, List.all_eq_true.1 rfl⟩
    · obtain rfl : x = Float.ofBits 0x401E000000000000 := by simpa [kinds] using hx
      decide +kernel
  have found := spelled.2 legal
  rw [text] at found
  exact ⟨front, whole, apart, text, found⟩

end LoanDesk
