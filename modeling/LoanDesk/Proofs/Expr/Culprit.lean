import LoanDesk.Proofs.Expr.Grammar.Continuation
import LoanDesk.Proofs.Expr.Substitution

/-!
# Where errors point

Splitting a source fails at a character that starts no token, and everything in front of it is split
without an error (`lexes_of_tokensFrom_error`).  What is wrong with the tokens of a source is blamed
on one of them, and a token's place is that of its first character (`Lexes.exists_text`).  So every
error with an offset has its culprit there: `Expr.parse_error_culprit`.
-/

namespace LoanDesk

/-! ### Places in a text -/

namespace Text

/-- The bytes of a text are those of its characters. -/
lemma byteLength_eq (cs : List Char) : byteLength cs = (String.ofList cs).utf8ByteSize := by
  induction cs with
  | nil => rfl
  | cons c cs ih =>
    rw [byteLength_cons, ih, ← List.singleton_append, String.ofList_append,
      String.utf8ByteSize_append, ← String.singleton_eq_ofList, String.utf8ByteSize_singleton]

/-- The character at an offset of the text, with `after` behind it. -/
def At (source : String) (offset : Nat) (c : Char) (after : List Char) : Prop :=
  ∃ before, source.toList = before ++ c :: after ∧ byteLength before = offset

variable {source : String} {offset : Nat} {c : Char} {after : List Char}

/-- A character of the text stands before its end. -/
lemma At.lt (h : At source offset c after) : offset < source.utf8ByteSize := by
  obtain ⟨before, parts, rfl⟩ := h
  have total := byteLength_eq source.toList
  rw [String.ofList_toList, parts, byteLength_append, byteLength_cons] at total
  have := c.utf8Size_pos
  omega

/-- Every end of a character is a position of the text. -/
lemma isValid_of_eq_append {front back : List Char} (h : source.toList = front ++ back) :
    String.Pos.Raw.IsValid source ⟨byteLength front⟩ := by
  have split : source = String.ofList front ++ String.ofList back := by
    rw [← String.ofList_append, ← h, String.ofList_toList]
  refine String.Pos.Raw.isValid_iff_exists_append.2 ⟨_, _, split, ?_⟩
  rw [byteLength_eq]
  rfl

/-- A character stands on a boundary of the text. -/
lemma At.isValid (h : At source offset c after) : String.Pos.Raw.IsValid source ⟨offset⟩ := by
  obtain ⟨before, parts, rfl⟩ := h
  exact isValid_of_eq_append parts

end Text

/-! ### Characters that start no token -/

/-- What a fault says of the character at its place and of those behind it. -/
inductive LexFault.FoundAt : LexFault → Char → List Char → Prop where
  | unexpectedChar {after} : FoundAt (.unexpectedChar '\x7d') '\x7d' after
  | unknownOperator {c after} :
    c = '=' ∨ c = '!' → after.head? ≠ some '=' → FoundAt (.unknownOperator c) c after
  | unterminatedString {quote after} :
    quote = '"' ∨ quote = '\'' →
    (∀ body rest, after = body ++ quote :: rest → ¬ ClosedBy quote body) →
    FoundAt .unterminatedString quote after
  | unclosedPlaceholder {after} : '\x7d' ∉ after → FoundAt .unclosedPlaceholder '\x7b' after
  | invalidFieldName {name rest} :
    '\x7d' ∉ name → ¬ IsFieldName name →
    FoundAt (.invalidFieldName (String.ofList name)) '\x7b' (name ++ '\x7d' :: rest)

/-- A fault in a comparison is about the character that it begins with. -/
lemma foundAt_of_scanComparison {c : Char} {cs : List Char} {fault : LexFault}
    (hc : c = '<' ∨ c = '>' ∨ c = '=' ∨ c = '!') (h : Lexeme.scanComparison c cs = .error fault) :
    fault.FoundAt c cs := by
  unfold Lexeme.scanComparison at h
  split at h
  next rest =>
    -- With an equals sign after it each of the four characters is a comparison.
    rcases hc with rfl | rfl | rfl | rfl <;> cases h
  next alone =>
    have stop : cs.head? ≠ some '=' := by
      intro next
      obtain ⟨rest, rfl⟩ := List.head?_eq_some_iff.1 next
      exact alone _ rfl
    rcases hc with rfl | rfl | rfl | rfl
    · cases h
    · cases h
    · cases h; exact .unknownOperator (.inl rfl) stop
    · cases h; exact .unknownOperator (.inr rfl) stop

/-- A fault in a quoted text is about its opening quote. -/
lemma foundAt_of_scanQuoted {quote : Char} {cs : List Char} {fault : LexFault}
    (hq : quote = '"' ∨ quote = '\'') (h : Lexeme.scanQuoted quote cs = .error fault) :
    fault.FoundAt quote cs := by
  unfold Lexeme.scanQuoted at h
  split at h
  next => cases h
  next open' =>
    cases h
    refine .unterminatedString hq ?_
    rintro body rest rfl closed
    rw [splitQuoted_of_closedBy (by rcases hq with rfl | rfl <;> decide) closed] at open'
    cases open'

/-- A fault in a field is about its opening brace. -/
lemma foundAt_of_scanField {cs : List Char} {fault : LexFault}
    (h : Lexeme.scanField cs = .error fault) : fault.FoundAt '\x7b' cs := by
  have parts : cs.takeWhile (· != '\x7d') ++ cs.dropWhile (· != '\x7d') = cs :=
    List.takeWhile_append_dropWhile
  have name : '\x7d' ∉ cs.takeWhile (· != '\x7d') := by
    intro mem
    simpa using List.mem_takeWhile_imp mem
  unfold Lexeme.scanField at h
  split at h
  next none =>
    cases h
    rw [none, List.append_nil] at parts
    rw [parts] at name
    exact .unclosedPlaceholder name
  next close rest found =>
    simp only at h
    split at h
    next bad =>
      cases h
      have brace : close = '\x7d' := by
        have stop := List.head?_dropWhile_not (· != '\x7d') cs
        simpa [found] using stop
      have invalid : ¬ IsFieldName (cs.takeWhile (· != '\x7d')) := by
        rintro ⟨ne, chars⟩
        rw [Bool.or_eq_true, List.isEmpty_iff, Bool.not_eq_true', List.all_eq_false] at bad
        rcases bad with empty | ⟨c, mem, wrong⟩
        · exact ne empty
        · exact wrong (chars c mem)
      rw [found, brace] at parts
      have at' : LexFault.FoundAt (.invalidFieldName (String.ofList (cs.takeWhile (· != '\x7d'))))
          '\x7b' (cs.takeWhile (· != '\x7d') ++ '\x7d' :: rest) := .invalidFieldName name invalid
      rwa [parts] at at'
    next => cases h

/-- A fault is found at the character that the scanner was given. -/
lemma foundAt_of_scan {c : Char} {cs : List Char} {fault : LexFault}
    (hc : Text.isBlank c = false) (h : Lexeme.scan c cs = .error fault) : fault.FoundAt c cs := by
  unfold Lexeme.scan at h
  split_ifs at h with opens closes compares quotes brace word
  · exact foundAt_of_scanComparison compares h
  · exact foundAt_of_scanQuoted quotes h
  · subst brace
    exact foundAt_of_scanField h
  · cases h
    -- The only mark that is left is the closing brace.
    have mark : isMark c = true := by
      rw [isWordChar_iff] at word
      simpa [hc] using word
    obtain rfl : c = '\x7d' := by
      simp only [isMark, Bool.or_eq_true, beq_iff_eq] at mark
      tauto
    exact .unexpectedChar

/-! ### The places of tokens and of faults -/

/-- Splitting stops only at a character that starts no token, behind tokens that stand in the
characters in front of it. -/
lemma lexes_of_tokensFrom_error {offset : Nat} {done : List Token} {cs : List Char}
    {e : ParseError} (h : tokensFrom offset done cs = .error e) :
    ∃ before c after found fault, cs = before ++ c :: after ∧ Lexes offset before found ∧
      fault.FoundAt c after ∧ e = .lexical fault (offset + Text.byteLength before) := by
  fun_induction tokensFrom offset done cs with
  | case1 => cases h
  | case2 offset done c cs hc ih =>
    obtain ⟨before, d, after, found, fault, rfl, lexes, foundAt, rfl⟩ := ih h
    refine ⟨c :: before, d, after, found, fault, rfl, .blank hc lexes, foundAt, ?_⟩
    rw [Text.byteLength_cons, Nat.add_assoc]
  | case3 offset done c cs hc fault hs =>
    cases h
    have visible : Text.isBlank c = false := by simpa using hc
    exact ⟨[], c, cs, [], fault, rfl, .done, foundAt_of_scan visible hs, rfl⟩
  | case4 offset done c cs hc l hs stop ih =>
    obtain ⟨before, d, after, found, fault, rest, lexes, foundAt, rfl⟩ := ih h
    obtain ⟨spells, ends⟩ := spells_of_scan hs
    -- A token that ends in front of other characters ends there without them.
    have ends' : Ends l.chars before := by
      rw [rest] at ends
      exact ends.of_append
    refine ⟨l.chars ++ before, d, after, _, fault, ?_, .token spells ends' lexes, foundAt, ?_⟩
    · rw [← (Lexeme.scan_eq_ok hs).1, rest, List.append_assoc]
    · rw [Text.byteLength_append, ← Nat.add_assoc]

/-- The characters of a token stand in the source where the token does, and end there. -/
lemma Lexes.exists_text {offset : Nat} {cs : List Char} {ts : List Token} (h : Lexes offset cs ts)
    {t : Token} (ht : t ∈ ts) :
    ∃ kind before chars after, cs = before ++ (chars ++ after) ∧
      t = ⟨kind, offset + Text.byteLength before,
        offset + Text.byteLength before + Text.byteLength chars⟩ ∧
      Spells kind chars ∧ Ends chars after := by
  obtain ⟨front, back, rfl⟩ := List.append_of_mem ht
  obtain ⟨kind, before, chars, after, parts, placed, spells, ends, -, -⟩ := h.split
  exact ⟨kind, before, chars, after, parts, placed, spells, ends⟩

/-- There are no tokens exactly in white space. -/
lemma lexes_nil_iff {offset : Nat} {cs : List Char} :
    Lexes offset cs [] ↔ ∀ c ∈ cs, Text.isBlank c = true := by
  constructor
  · intro h
    generalize e : ([] : List Token) = ts at h
    induction h with
    | done => simp
    | blank hc _ ih => exact List.forall_mem_cons.2 ⟨hc, ih e⟩
    | token => cases e
  · intro blank
    have blanks : Lexes offset (cs ++ []) [] := .blanks blank .done
    rwa [List.append_nil] at blanks

/-- A token's first character stands in the source where the token does. -/
lemma Token.at_of_mem {source : String} {ts : List Token} (h : tokenize source = .ok ts)
    {t : Token} (ht : t ∈ ts) :
    ∃ c w after, Spells t.kind (c :: w) ∧ Text.At source t.start c (w ++ after) ∧
      t.text source.toList = c :: w := by
  obtain ⟨kind, before, chars, after, parts, placed, spells, -⟩ :=
    (tokenize_eq_ok.1 h).exists_text ht
  rw [Nat.zero_add] at placed
  obtain ⟨c, w, rfl, -⟩ := spells.head
  subst placed
  refine ⟨c, w, after, spells, ⟨before, by rw [parts]; rfl, rfl⟩, ?_⟩
  rw [parts]
  exact Token.text_eq kind before (c :: w) after

/-- The tokens of a source are at fault neither for want of tokens nor for their characters. -/
lemma Rejected.grammatical {ts : List Token} {e : ParseError} (h : Rejected ts e) :
    e ≠ .empty ∧ ∀ fault offset, e ≠ .lexical fault offset := by
  cases h with
  | refused _ cause =>
    rcases cause with (rfl | ⟨rfl, -⟩ | ⟨rfl, -⟩) | ⟨_, -, -, rfl⟩ <;> simp
  | tooDeep => simp
  | cutOff misses =>
    rcases misses with rfl | ⟨_, -, -, rfl⟩ <;> simp

/-- A source fails for its characters, for want of tokens, or for its tokens, in this order. -/
lemma Expr.parse_eq_error {source : String} {e : ParseError} (h : parse source = .error e) :
    tokenize source = .error e ∨ (tokenize source = .ok [] ∧ e = .empty) ∨
      ∃ ts, tokenize source = .ok ts ∧ Rejected ts e := by
  rw [parse] at h
  split at h
  next failed => cases h; exact .inl failed
  next none => cases h; exact .inr (.inl ⟨none, rfl⟩)
  next tokens => exact .inr (.inr ⟨_, tokens, rejected_of_ofTokens h⟩)

/-- Splitting a source fails only for its characters. -/
lemma lexical_of_tokenize {source : String} {e : ParseError} (h : tokenize source = .error e) :
    ∃ before c after found fault, source.toList = before ++ c :: after ∧ Lexes 0 before found ∧
      fault.FoundAt c after ∧ e = .lexical fault (Text.byteLength before) := by
  simpa only [Nat.zero_add] using lexes_of_tokensFrom_error h

/-- The error is about the character `c` of the source, with `after` behind it. -/
inductive ParseError.PointsAt (source : String) : ParseError → Char → List Char → Prop where
  | lexical {fault offset c after} :
    fault.FoundAt c after → PointsAt source (.lexical fault offset) c after
  | unbalancedParen {offset c after} :
    c = '(' ∨ c = ')' → PointsAt source (.unbalancedParen offset) c after
  | expectedOperand {ts t c after} :
    tokenize source = .ok ts → t ∈ ts → (t.text source.toList).head? = some c →
    PointsAt source (.expectedOperand t.kind t.start) c after
  | trailingInput {ts t c after} :
    tokenize source = .ok ts → t ∈ ts → (t.text source.toList).head? = some c →
    t.kind ≠ .closeParen →
    PointsAt source (.trailingInput t.kind t.start) c after

/-- The token that is at fault stands where the error points. -/
lemma Rejected.pointsAt {source : String} {ts : List Token} {e : ParseError}
    (tokens : tokenize source = .ok ts) (h : Rejected ts e) {offset : Nat}
    (he : e.offset? = some offset) :
    ∃ c after, Text.At source offset c after ∧ e.PointsAt source c after := by
  have paren {t : Token} (mem : t ∈ ts) (kind : t.kind = .openParen ∨ t.kind = .closeParen) :
      ∃ c after, Text.At source t.start c after ∧
        (ParseError.unbalancedParen t.start).PointsAt source c after := by
    obtain ⟨c, w, after, spells, at', -⟩ := Token.at_of_mem tokens mem
    refine ⟨c, w ++ after, at', .unbalancedParen ?_⟩
    rcases kind with kind | kind <;> rw [kind] at spells
    · exact .inl (List.cons.inj (spells.eq_spelling trivial)).1
    · exact .inr (List.cons.inj (spells.eq_spelling trivial)).1
  cases h with
  | @refused used t rest _ cause =>
    have mem : t ∈ used ++ t :: rest := by simp
    obtain ⟨c, w, after, -, at', text⟩ := Token.at_of_mem tokens mem
    have first : (t.text source.toList).head? = some c := by rw [text]; rfl
    rcases cause with (rfl | ⟨rfl, other⟩ | ⟨rfl, closes⟩) | ⟨o, opened, opens, rfl⟩ <;> cases he
    · exact ⟨c, _, at', .expectedOperand tokens mem first⟩
    · exact ⟨c, _, at', .trailingInput tokens mem first other⟩
    · exact paren mem (.inr closes)
    · exact paren (List.mem_append_left _ opened) (.inl opens)
  | tooDeep => cases he
  | cutOff misses =>
    rcases misses with rfl | ⟨o, mem, opens, rfl⟩ <;> cases he
    exact paren mem (.inl opens)

namespace Expr

variable {source : String}

/-- A source is empty exactly if it is white space. -/
lemma parse_eq_empty_iff :
    parse source = .error .empty ↔ ∀ c ∈ source.toList, Text.isBlank c = true := by
  rw [← lexes_nil_iff, ← tokenize_eq_ok]
  constructor
  · intro h
    rcases parse_eq_error h with failed | ⟨none, -⟩ | ⟨ts, -, rejected⟩
    · obtain ⟨_, _, _, _, _, -, -, -, e⟩ := lexical_of_tokenize failed
      cases e
    · exact none
    · exact absurd rfl rejected.grammatical.1
  · intro none
    rw [parse, none]

/-- A fault in a word is the error of the source exactly if it is the error of its tokens. -/
lemma parse_eq_lexical_iff {fault : LexFault} {offset : Nat} :
    parse source = .error (.lexical fault offset) ↔
      tokenize source = .error (.lexical fault offset) := by
  constructor
  · intro h
    rcases parse_eq_error h with failed | ⟨-, e⟩ | ⟨ts, -, rejected⟩
    · exact failed
    · cases e
    · exact absurd rfl (rejected.grammatical.2 fault offset)
  · intro failed
    rw [parse, failed]

/-- A source is empty exactly if it is white space.  Any other error with an offset speaks of a
character inside the source, which starts no token or is the first one of the token at fault.  In
front of a character that starts no token the source splits without an error; and where there is
such a character, the error is about it whatever else is wrong. -/
theorem parse_error_culprit :
    (parse source = .error .empty ↔ ∀ c ∈ source.toList, Text.isBlank c = true) ∧
    (∀ e offset, parse source = .error e → e.offset? = some offset →
      offset < source.utf8ByteSize ∧ String.Pos.Raw.IsValid source ⟨offset⟩ ∧
        ∃ c after, Text.At source offset c after ∧ e.PointsAt source c after) ∧
    (∀ fault offset, parse source = .error (.lexical fault offset) →
      ∃ ts, tokenize (String.ofList (Text.takeBytes offset source.toList)) = .ok ts) ∧
    (∀ e, tokenize source = .error e →
      (∃ fault offset, e = .lexical fault offset) ∧ parse source = .error e) := by
  refine ⟨parse_eq_empty_iff, ?_, ?_, ?_⟩
  · intro e offset h he
    have found : ∃ c after, Text.At source offset c after ∧ e.PointsAt source c after := by
      rcases parse_eq_error h with failed | ⟨-, rfl⟩ | ⟨ts, tokens, rejected⟩
      · obtain ⟨before, c, after, _, fault, parts, -, foundAt, rfl⟩ := lexical_of_tokenize failed
        exact ⟨c, after, ⟨before, parts, Option.some.inj he⟩, .lexical foundAt⟩
      · cases he
      · exact rejected.pointsAt tokens he
    obtain ⟨c, after, at', pointsAt⟩ := found
    exact ⟨at'.lt, at'.isValid, c, after, at', pointsAt⟩
  · intro fault offset h
    obtain ⟨before, c, after, found, _, parts, lexes, -, e⟩ :=
      lexical_of_tokenize (parse_eq_lexical_iff.1 h)
    cases e
    refine ⟨found, tokenize_eq_ok.2 ?_⟩
    rw [String.toList_ofList, parts, Text.takeBytes_append]
    exact lexes
  · intro e failed
    obtain ⟨_, _, _, _, fault, -, -, -, rfl⟩ := lexical_of_tokenize failed
    exact ⟨⟨fault, _, rfl⟩, parse_eq_lexical_iff.2 failed⟩

/-- The brace at the end is blamed, and not the parenthesis that is not closed. -/
theorem parse_error_culprit_brace :
    parse "é == (1 \x7d" = .error (.lexical (.unexpectedChar '\x7d') 9) ∧
      String.Pos.Raw.IsValid "é == (1 \x7d" ⟨9⟩ ∧ ∃ ts, tokenize "é == (1 " = .ok ts := by
  have failed : tokenize "é == (1 \x7d" = .error (.lexical (.unexpectedChar '\x7d') 9) := by
    decide +kernel
  obtain ⟨-, points, front, wins⟩ := @parse_error_culprit "é == (1 \x7d"
  have inFront : String.ofList (Text.takeBytes 9 "é == (1 \x7d".toList) = "é == (1 " := by
    decide +kernel
  have h := (wins _ failed).2
  refine ⟨h, (points _ _ h rfl).2.1, ?_⟩
  rw [← inFront]
  exact front _ _ h

end Expr

end LoanDesk
