import LoanDesk.Expr.Token.Scan
import LoanDesk.Proofs.Number.RoundTrip

/-!
# The spellings of tokens

`Spells` says which characters spell a token of which kind, without a word on how they are found.
`Ends` says that a token's characters stop where they do: a word stops in front of no further word
character, and `<` and `>` stop in front of no equals sign.  The scanner splits off a token exactly
where the characters spell it and end (`scan_iff`), and every kind that can be read is spelled by
its own spelling (`spells_spelling`).
-/

namespace LoanDesk

/-- A name between braces: one or more letters and digits of ASCII and low lines. -/
def IsFieldName (name : List Char) : Prop := name ≠ [] ∧ ∀ c ∈ name, isFieldChar c = true

/-- The characters between two quotes: a backslash takes the character after it, and no other quote
stands among them. -/
inductive ClosedBy (quote : Char) : List Char → Prop where
  | nil : ClosedBy quote []
  | escaped (c : Char) {cs} : ClosedBy quote cs → ClosedBy quote ('\\' :: c :: cs)
  | plain {c cs} : c ≠ quote → c ≠ '\\' → ClosedBy quote cs → ClosedBy quote (c :: cs)

/-- The characters spell a token of the kind. -/
inductive Spells : TokenKind → List Char → Prop where
  | openParen : Spells .openParen ['(']
  | closeParen : Spells .closeParen [')']
  | compare (op : Comparison) : Spells (.compare op) op.symbol.toList
  | quoted {quote body} :
    (quote = '"' ∨ quote = '\'') → ClosedBy quote body →
    Spells (.quoted (String.ofList (unescape false body))) (quote :: body ++ [quote])
  | field {name} :
    IsFieldName name → Spells (.field (String.ofList name)) ('\x7b' :: name ++ ['\x7d'])
  | word {w} : w ≠ [] → (∀ c ∈ w, isWordChar c = true) → Spells (.ofWord w) w

/-- The character would be taken into the token that the characters spell. -/
def RunsOn (chars : List Char) (c : Char) : Prop :=
  ((chars = ['<'] ∨ chars = ['>']) ∧ c = '=') ∨
    ((∃ d ∈ chars.head?, isWordChar d = true) ∧ isWordChar c = true)

/-- A token of these characters ends in front of `rest`. -/
def Ends (chars rest : List Char) : Prop := ∀ c ∈ rest.head?, ¬ RunsOn chars c

/-- No token before `rest` takes its first character. -/
def Separates (rest : List Char) : Prop := ∀ c ∈ rest.head?, isWordChar c = false ∧ c ≠ '='

/-- Every token ends in front of what separates. -/
lemma Separates.ends {rest : List Char} (h : Separates rest) (chars : List Char) :
    Ends chars rest := by
  rintro c hc (⟨-, rfl⟩ | ⟨-, hw⟩)
  · exact (h _ hc).2 rfl
  · rw [(h c hc).1] at hw
    cases hw

/-- A character that no token before it takes separates. -/
lemma separates_cons {c : Char} (h : isWordChar c = false ∧ c ≠ '=') (cs : List Char) :
    Separates (c :: cs) := by
  rintro d ⟨⟩
  exact h

/-- Where a token ends is decided by the next character alone. -/
lemma Ends.congr {chars rest rest' : List Char} (h : Ends chars rest)
    (e : rest'.head? = rest.head?) : Ends chars rest' := by
  intro c hc
  rw [e] at hc
  exact h c hc

/-- A token that ends in front of some characters ends in front of the first of them alone. -/
lemma Ends.of_append {chars front back : List Char} (h : Ends chars (front ++ back)) :
    Ends chars front := by
  intro c hc
  apply h c
  cases front with
  | nil => cases hc
  | cons d front => exact hc

/-- What no token runs on into may follow any characters that a token ends in front of. -/
lemma Ends.append {chars front back : List Char} (h : Ends chars front) (sep : Separates back) :
    Ends chars (front ++ back) := by
  cases front with
  | nil => exact sep.ends chars
  | cons c front => exact h.congr rfl

/-! ### The characters that tokens start with -/

/-- Words are made of all that is neither white space nor a mark. -/
lemma isWordChar_iff {c : Char} :
    isWordChar c = true ↔ Text.isBlank c = false ∧ isMark c = false := by
  simp [isWordChar]

/-- A mark is no word character, and it is not white space. -/
lemma isWordChar_mark {c : Char} (h : isMark c = true) : isWordChar c = false := by
  rw [Bool.eq_false_iff, Ne, isWordChar_iff, h]
  simp

/-- Tokens have at least one character, and the first one is not white space. -/
lemma Spells.head {kind : TokenKind} {chars : List Char} (h : Spells kind chars) :
    ∃ c w, chars = c :: w ∧ Text.isBlank c = false := by
  cases h with
  | openParen => exact ⟨_, _, rfl, by decide⟩
  | closeParen => exact ⟨_, _, rfl, by decide⟩
  | compare op => cases op <;> exact ⟨_, _, rfl, by decide⟩
  | quoted hq => rcases hq with rfl | rfl <;> exact ⟨_, _, rfl, by decide⟩
  | field => exact ⟨_, _, rfl, by decide⟩
  | word ne hw =>
    obtain ⟨c, w, rfl⟩ := List.exists_cons_of_ne_nil ne
    exact ⟨c, w, rfl, (isWordChar_iff.1 (hw c (by simp))).1⟩

/-! ### The scanner splits off what is spelled -/

/-- The closing quote is the first one that no backslash takes. -/
lemma splitQuoted_of_closedBy {quote : Char} (hq : quote ≠ '\\') {body : List Char}
    (h : ClosedBy quote body) (rest : List Char) :
    splitQuoted quote false (body ++ quote :: rest) = some (body, rest) := by
  induction h with
  | nil => simp [splitQuoted]
  | escaped c _ ih => simp [splitQuoted, ih, hq.symm]
  | @plain c cs hc hb _ ih =>
    have slash : (c == '\\') = false := by simpa using hb
    simp [splitQuoted, ih, hc, slash]

/-- What the scanner takes up to the closing quote is closed by it; after a backslash its first
character is free. -/
lemma closedBy_of_splitQuoted {quote : Char} {escaped : Bool} {cs body rest : List Char}
    (h : splitQuoted quote escaped cs = some (body, rest)) :
    if escaped then ∃ c b, body = c :: b ∧ ClosedBy quote b else ClosedBy quote body := by
  induction cs generalizing escaped body with
  | nil => simp [splitQuoted] at h
  | cons c cs ih =>
    rw [splitQuoted] at h
    split at h
    next hc =>
      cases h
      rw [hc.2, if_neg Bool.false_ne_true]
      exact .nil
    next hc =>
      obtain ⟨⟨b, r⟩, hb, e⟩ := Option.map_eq_some_iff.1 h
      cases e
      have inner := ih hb
      cases escaped with
      | true => exact ⟨c, b, rfl, by simpa using inner⟩
      | false =>
        by_cases slash : c = '\\'
        · subst slash
          obtain ⟨d, b', rfl, closed⟩ := by simpa using inner
          exact .escaped d closed
        · exact .plain (by simpa using hc) slash (by simpa [slash] using inner)

/-- Word characters up to `rest`, which does not go on with one. -/
lemma splitWord {w rest : List Char} (hw : ∀ c ∈ w, isWordChar c = true)
    (hr : ∀ c ∈ rest.head?, isWordChar c = false) :
    (w ++ rest).takeWhile isWordChar = w ∧ (w ++ rest).dropWhile isWordChar = rest := by
  rw [List.takeWhile_append_of_pos hw, List.dropWhile_append_of_pos hw]
  cases rest with
  | nil => simp
  | cons c rest => simp [hr c rfl]

/-- A closing brace ends the name of a field. -/
lemma isFieldChar_brace : isFieldChar '\x7d' = false := by decide

/-- A field name up to the brace that closes it. -/
lemma scanField_of_name {name : List Char} (hn : IsFieldName name) (rest : List Char) :
    Lexeme.scanField (name ++ '\x7d' :: rest) =
      .ok ⟨.field (String.ofList name), '\x7b' :: name ++ ['\x7d'], rest⟩ := by
  have inside : ∀ c ∈ name, (c != '\x7d') = true := by
    intro c hc
    rw [bne_iff_ne]
    rintro rfl
    have := hn.2 _ hc
    rw [isFieldChar_brace] at this
    cases this
  have take : (name ++ '\x7d' :: rest).takeWhile (· != '\x7d') = name := by
    rw [List.takeWhile_append_of_pos inside, List.takeWhile_cons_of_neg (by simp), List.append_nil]
  have drop : (name ++ '\x7d' :: rest).dropWhile (· != '\x7d') = '\x7d' :: rest := by
    rw [List.dropWhile_append_of_pos inside, List.dropWhile_cons_of_neg (by simp)]
  have good : (name.isEmpty || !name.all isFieldChar) = false := by
    simpa [hn.1] using hn.2
  rw [Lexeme.scanField]
  simp only [take, drop, good]
  rfl

/-- A comparison of one character stands in front of no equals sign. -/
lemma scanComparison_of_ends {c : Char} {op : Comparison} {rest : List Char}
    (hop : comparison? c false = some op) (hr : ∀ d ∈ rest.head?, d ≠ '=') :
    Lexeme.scanComparison c rest = .ok ⟨.compare op, [c], rest⟩ := by
  unfold Lexeme.scanComparison
  split
  next rest => exact absurd rfl (hr _ rfl)
  next => rw [hop]

/-- From a word character on the scanner takes word characters as far as they go. -/
lemma scan_of_isWordChar {c : Char} {cs : List Char} (h : isWordChar c = true) :
    Lexeme.scan c cs = .ok ⟨.ofWord (c :: cs.takeWhile isWordChar), c :: cs.takeWhile isWordChar,
      cs.dropWhile isWordChar⟩ := by
  -- The first character is no mark, so the scanner comes to the case of words.
  have first := (isWordChar_iff.1 h).2
  simp only [isMark, Bool.or_eq_false_iff, beq_eq_false_iff_ne] at first
  obtain ⟨⟨⟨⟨⟨⟨⟨⟨⟨h1, h2⟩, h3⟩, h4⟩, h5⟩, h6⟩, h7⟩, -⟩, h8⟩, h9⟩ := first
  simp only [Lexeme.scan, h1, h2, h3, h4, h5, h6, h7, h8, h9, h, if_true, if_false, or_self]

/-- Characters that spell a token, and end, are split off as that token. -/
lemma scan_of_spells {kind : TokenKind} {c : Char} {w rest : List Char}
    (h : Spells kind (c :: w)) (hr : Ends (c :: w) rest) :
    Lexeme.scan c (w ++ rest) = .ok ⟨kind, c :: w, rest⟩ := by
  generalize e : c :: w = chars at h hr
  cases h with
  | openParen => cases e; rfl
  | closeParen => cases e; rfl
  | compare op =>
    have single (d : Char) (hd : d = '<' ∨ d = '>') (hr : Ends [d] rest) :
        ∀ d ∈ rest.head?, d ≠ '=' := by
      rintro d hd' rfl
      refine hr _ hd' (.inl ⟨?_, rfl⟩)
      rcases hd with rfl | rfl
      · exact .inl rfl
      · exact .inr rfl
    cases op with
    | lt =>
      obtain ⟨rfl, rfl⟩ : c = '<' ∧ w = [] := List.cons.inj e
      exact scanComparison_of_ends (show comparison? '<' false = some .lt from rfl)
        (single _ (.inl rfl) hr)
    | gt =>
      obtain ⟨rfl, rfl⟩ : c = '>' ∧ w = [] := List.cons.inj e
      exact scanComparison_of_ends (show comparison? '>' false = some .gt from rfl)
        (single _ (.inr rfl) hr)
    | le => obtain ⟨rfl, rfl⟩ : c = '<' ∧ w = ['='] := List.cons.inj e; rfl
    | ge => obtain ⟨rfl, rfl⟩ : c = '>' ∧ w = ['='] := List.cons.inj e; rfl
    | eq => obtain ⟨rfl, rfl⟩ : c = '=' ∧ w = ['='] := List.cons.inj e; rfl
    | ne => obtain ⟨rfl, rfl⟩ : c = '!' ∧ w = ['='] := List.cons.inj e; rfl
  | @quoted quote body hq closed =>
    obtain ⟨rfl, rfl⟩ : c = quote ∧ w = body ++ [quote] := List.cons.inj e
    have found := splitQuoted_of_closedBy (by rcases hq with rfl | rfl <;> decide) closed rest
    have quotes :
        Lexeme.scan c (body ++ [c] ++ rest) = Lexeme.scanQuoted c (body ++ [c] ++ rest) := by
      rcases hq with rfl | rfl <;> rfl
    rw [quotes, List.append_assoc, List.singleton_append, Lexeme.scanQuoted, found]
  | @field name hn =>
    obtain ⟨rfl, rfl⟩ : c = '\x7b' ∧ w = name ++ ['\x7d'] := List.cons.inj e
    rw [List.append_assoc, List.singleton_append]
    exact scanField_of_name hn rest
  | word ne hw =>
    subst e
    have stop : ∀ d ∈ rest.head?, isWordChar d = false := by
      intro d hd
      rw [Bool.eq_false_iff]
      intro hd'
      exact hr d hd (.inr ⟨⟨c, rfl, hw c (by simp)⟩, hd'⟩)
    obtain ⟨take, drop⟩ := splitWord (fun d hd => hw d (List.mem_cons_of_mem _ hd)) stop
    rw [scan_of_isWordChar (hw c (by simp)), take, drop]

/-- Marks other than `<` and `>` end a token whatever follows. -/
lemma ends_of_mark {c : Char} {w : List Char} (hc : isMark c = true)
    (hw : c :: w ≠ ['<'] ∧ c :: w ≠ ['>']) (rest : List Char) : Ends (c :: w) rest := by
  rintro d - (⟨lt | gt, -⟩ | ⟨⟨c', hc', word⟩, -⟩)
  · exact hw.1 lt
  · exact hw.2 gt
  · cases hc'
    rw [isWordChar_mark hc] at word
    cases word

/-- A comparison that the scanner splits off. -/
lemma spells_of_scanComparison {c : Char} {cs : List Char} {l : Lexeme}
    (hc : c = '<' ∨ c = '>' ∨ c = '=' ∨ c = '!')
    (h : Lexeme.scanComparison c cs = .ok l) : Spells l.kind l.chars ∧ Ends l.chars l.rest := by
  have mark : isMark c = true := by rcases hc with rfl | rfl | rfl | rfl <;> rfl
  unfold Lexeme.scanComparison at h
  split at h
  next rest =>
    -- With an equals sign after it each of the four characters is a comparison.
    have two : ∃ op, comparison? c true = some op ∧ op.symbol.toList = [c, '='] := by
      rcases hc with rfl | rfl | rfl | rfl
      · exact ⟨.le, rfl, rfl⟩
      · exact ⟨.ge, rfl, rfl⟩
      · exact ⟨.eq, rfl, rfl⟩
      · exact ⟨.ne, rfl, rfl⟩
    obtain ⟨op, hop, symbol⟩ := two
    rw [hop] at h
    cases h
    exact ⟨symbol ▸ .compare op, ends_of_mark mark (by simp) _⟩
  next alone =>
    -- Without one only the two strict orders are.
    have stop : Ends [c] cs := by
      rintro d hd (⟨-, rfl⟩ | ⟨⟨c', hc', word⟩, -⟩)
      · obtain ⟨rest, rfl⟩ := List.head?_eq_some_iff.1 hd
        exact alone _ rfl
      · cases hc'
        rw [isWordChar_mark mark] at word
        cases word
    rcases hc with rfl | rfl | rfl | rfl
    · cases h; exact ⟨.compare .lt, stop⟩
    · cases h; exact ⟨.compare .gt, stop⟩
    · cases h
    · cases h

/-- What the scanner splits off spells the token that it is given as, and ends. -/
lemma spells_of_scan {c : Char} {cs : List Char} {l : Lexeme} (h : Lexeme.scan c cs = .ok l) :
    Spells l.kind l.chars ∧ Ends l.chars l.rest := by
  unfold Lexeme.scan at h
  split at h
  next hc => subst hc; cases h; exact ⟨.openParen, ends_of_mark rfl (by decide) _⟩
  split at h
  next hc => subst hc; cases h; exact ⟨.closeParen, ends_of_mark rfl (by decide) _⟩
  split at h
  next hc => exact spells_of_scanComparison hc h
  split at h
  next hc =>
    unfold Lexeme.scanQuoted at h
    split at h
    next body rest hs =>
      cases h
      have closed : ClosedBy c body := by simpa using closedBy_of_splitQuoted hs
      refine ⟨.quoted hc closed, ends_of_mark ?_ (by simp) _⟩
      rcases hc with rfl | rfl <;> rfl
    next => cases h
  split at h
  next hc =>
    unfold Lexeme.scanField at h
    split at h
    next => cases h
    next close rest hs =>
      simp only at h
      split at h
      next => cases h
      next good =>
        cases h
        -- What is left over starts with the first closing brace.
        have brace : close = '\x7d' := by
          have stop := List.head?_dropWhile_not (· != '\x7d') cs
          simpa [hs] using stop
        have name : IsFieldName (cs.takeWhile (· != '\x7d')) := by
          simpa [IsFieldName] using good
        rw [brace]
        exact ⟨.field name, ends_of_mark rfl (by simp) _⟩
  split at h
  next hc =>
    cases h
    refine ⟨.word (by simp) ?_, ?_⟩
    · intro d hd
      rcases List.mem_cons.1 hd with rfl | hd
      · exact hc
      · exact List.mem_takeWhile_imp hd
    · have stop := List.head?_dropWhile_not isWordChar cs
      rintro d hd (⟨lt | gt, -⟩ | ⟨-, word⟩)
      · rw [(List.cons.inj lt).1] at hc
        exact absurd hc (by decide)
      · rw [(List.cons.inj gt).1] at hc
        exact absurd hc (by decide)
      · rw [show (cs.dropWhile isWordChar).head? = some d from hd] at stop
        rw [show isWordChar d = false from stop] at word
        cases word
  next => cases h

/-- The scanner splits off a token exactly where the characters spell it and end. -/
theorem scan_iff {kind : TokenKind} {c : Char} {w rest : List Char} :
    Lexeme.scan c (w ++ rest) = .ok ⟨kind, c :: w, rest⟩ ↔
      Spells kind (c :: w) ∧ Ends (c :: w) rest :=
  ⟨spells_of_scan, fun ⟨h, hr⟩ => scan_of_spells h hr⟩

/-! ### The kinds that can be spelled -/

namespace TokenKind

/-- The kinds that some characters spell: numbers are finite, names between braces are field names,
and words are neither keywords nor numbers. -/
def Legal : TokenKind → Prop
  | number x => Number.isFinite x = Bool.true
  | word s =>
    s.toList ≠ [] ∧ (∀ c ∈ s.toList, isWordChar c = Bool.true) ∧ ofWord s.toList = word s
  | field name => IsFieldName name.toList
  | _ => True

/-- The reserved words, each of which spells its own kind. -/
lemma keyword?_eq_some {s : String} {kind : TokenKind} (h : keyword? s = some kind) :
    kind.Legal ∧ ∃ c w, s.toList = c :: w ∧
      (c = 'a' ∨ c = 'o' ∨ c = 'n' ∨ c = 'N' ∨ c = 'T' ∨ c = 'F') := by
  unfold keyword? at h
  split at h <;> cases h <;> exact ⟨trivial, _, _, rfl, by decide⟩

/-- A word stands for a keyword, a finite number or itself. -/
lemma ofWord_cases (w : List Char) :
    keyword? (String.ofList w) = some (ofWord w) ∨
      (∃ x, Number.readFinite? w = some x ∧ ofWord w = number x) ∨
      (ofWord w = word (String.ofList w)) := by
  unfold ofWord
  split
  next kind _ hk => exact .inl hk
  next x _ hx => exact .inr (.inl ⟨x, hx, rfl⟩)
  next => exact .inr (.inr rfl)

end TokenKind

/-- The token of a literal can be spelled, save that of a number that is not finite. -/
lemma TokenKind.legal_ofValue {v : Value}
    (fin : ∀ x, v = .number x → Number.isFinite x = Bool.true) : (ofValue v).Legal := by
  cases v with
  | number x => exact fin x rfl
  | boolean b => cases b <;> trivial
  | _ => trivial

/-- Whatever is spelled is of a legal kind. -/
lemma Spells.legal {kind : TokenKind} {chars : List Char} (h : Spells kind chars) : kind.Legal := by
  cases h with
  | field hn => simpa [TokenKind.Legal] using hn
  | @word w ne hw =>
    rcases TokenKind.ofWord_cases chars with hk | ⟨x, hx, e⟩ | e
    · exact (TokenKind.keyword?_eq_some hk).1
    · rw [e]
      exact (Option.filter_eq_some_iff.1 hx).2
    · rw [e]
      exact ⟨by simpa using ne, by simpa using hw, by simpa using e⟩
  | _ => trivial

/-! ### Words without quotes -/

/-- The words that stand for a token of their own. -/
def reservedWords : List String := ["and", "or", "not", "None", "null", "True", "False"]

/-- The reserved words are those that stand for a token of their own. -/
lemma keyword?_eq_none_iff {s : String} : keyword? s = none ↔ s ∉ reservedWords := by
  unfold keyword?
  split <;> simp_all [reservedWords]

/-- Word characters, at least one, that are no reserved word and spell no finite number. -/
structure IsBareWord (s : String) : Prop where
  ne_nil : s.toList ≠ []
  chars : ∀ c ∈ s.toList, isWordChar c = true
  not_reserved : s ∉ reservedWords
  not_finite : ∀ x, Number.read? s.toList = some x → Number.isFinite x = false

/-- A word that is no keyword and no finite number stands for itself. -/
lemma TokenKind.ofWord_eq_word_iff {s : String} :
    ofWord s.toList = word s ↔
      s ∉ reservedWords ∧ ∀ x, Number.read? s.toList = some x → Number.isFinite x = Bool.false := by
  have notFinite : Number.readFinite? s.toList = Option.none ↔
      ∀ x, Number.read? s.toList = some x → Number.isFinite x = Bool.false := by
    rw [Number.readFinite?, Option.filter_eq_none_iff]
    exact forall₂_congr fun x _ => iff_of_eq (Bool.not_eq_true _)
  rw [← keyword?_eq_none_iff, ← notFinite, ofWord, String.ofList_toList]
  cases hk : keyword? s with
  | some kind =>
    -- The kind of a keyword is never that of a word.
    unfold keyword? at hk
    split at hk <;> cases hk <;> simp
  | none => cases Number.readFinite? s.toList <;> simp

/-- A word is legal exactly if it can stand without quotes. -/
lemma TokenKind.legal_word_iff {s : String} : (word s).Legal ↔ IsBareWord s := by
  constructor
  · rintro ⟨ne, chars, self⟩
    obtain ⟨unreserved, infinite⟩ := ofWord_eq_word_iff.1 self
    exact ⟨ne, chars, unreserved, infinite⟩
  · rintro ⟨ne, chars, unreserved, infinite⟩
    exact ⟨ne, chars, ofWord_eq_word_iff.2 ⟨unreserved, infinite⟩⟩

/-! ### Spellings spell -/

/-- Escaped characters are closed by the quote that they were escaped for. -/
lemma closedBy_escape (cs : List Char) : ClosedBy '\'' (TokenKind.escape cs) := by
  induction cs with
  | nil => exact .nil
  | cons c cs ih =>
    rw [TokenKind.escape]
    split
    next => exact .escaped c ih
    next hc =>
      rw [not_or] at hc
      exact .plain hc.1 hc.2 ih

/-- Escaped characters are read back. -/
lemma unescape_escape (cs : List Char) : unescape false (TokenKind.escape cs) = cs := by
  induction cs with
  | nil => rfl
  | cons c cs ih =>
    rw [TokenKind.escape]
    split
    next => simp [unescape, ih]
    next hc =>
      rw [not_or] at hc
      simp [unescape, ih, hc.2]

/-- Digits may stand in words. -/
lemma isWordChar_digit {c : Char} (h : c.isDigit = true) : isWordChar c = true := by
  have range : 48 ≤ c.toNat ∧ c.toNat ≤ 57 := by
    simpa [Char.isDigit, Char.le_def, UInt32.le_iff_toNat_le] using h
  have ne (d : Char) (hd : d.toNat < 48 ∨ 57 < d.toNat) : c ≠ d := by
    rintro rfl
    omega
  rw [isWordChar_iff]
  constructor
  · simp only [Text.isBlank, Bool.or_eq_false_iff, Bool.and_eq_false_iff, decide_eq_false_iff_not,
      beq_eq_false_iff_ne]
    omega
  · simp only [isMark, Bool.or_eq_false_iff, beq_eq_false_iff_ne]
    refine ⟨⟨⟨⟨⟨⟨⟨⟨⟨?_, ?_⟩, ?_⟩, ?_⟩, ?_⟩, ?_⟩, ?_⟩, ?_⟩, ?_⟩, ?_⟩ <;> exact ne _ (by decide)

/-- The characters of a finite number are a word that stands for the number. -/
lemma spells_number {x : Float} (fin : Number.isFinite x = true) :
    Spells (.number x) (Number.chars x) := by
  obtain ⟨⟨c, cs, e, first⟩, all⟩ := Number.chars_chars fin
  have word : ∀ d ∈ Number.chars x, isWordChar d = true := by
    intro d hd
    rcases all d hd with digit | rfl | rfl
    · exact isWordChar_digit digit
    · decide
    · decide
  have number : TokenKind.ofWord (Number.chars x) = .number x := by
    -- Keywords start with letters, and the texts of numbers do not.
    have none : keyword? (String.ofList (Number.chars x)) = none := by
      rw [Option.eq_none_iff_forall_ne_some]
      intro kind hk
      obtain ⟨-, d, ds, e', letter⟩ := TokenKind.keyword?_eq_some hk
      rw [String.toList_ofList, e] at e'
      cases e'
      rcases first with first | rfl
      · rcases letter with rfl | rfl | rfl | rfl | rfl | rfl <;> exact absurd first (by decide)
      · exact absurd letter (by decide)
    rw [TokenKind.ofWord, none, Number.readFinite?_chars fin]
  exact number ▸ .word (by simp [e]) word

/-- A legal kind is spelled by its own spelling. -/
lemma spells_spelling {kind : TokenKind} (h : kind.Legal) : Spells kind kind.spelling := by
  cases kind with
  | openParen => exact .openParen
  | closeParen => exact .closeParen
  | compare op => exact .compare op
  | number x => exact spells_number h
  | quoted s =>
    have spelled := Spells.quoted (.inr rfl) (closedBy_escape s.toList)
    rw [unescape_escape, String.ofList_toList] at spelled
    exact spelled
  | word s =>
    have spelled := Spells.word h.1 h.2.1
    rw [h.2.2] at spelled
    exact spelled
  | field name =>
    have spelled := Spells.field h
    rw [String.ofList_toList] at spelled
    exact spelled
  | and => exact .word (w := ['a', 'n', 'd']) (by simp) (List.all_eq_true.1 rfl)
  | or => exact .word (w := ['o', 'r']) (by simp) (List.all_eq_true.1 rfl)
  | not => exact .word (w := ['n', 'o', 't']) (by simp) (List.all_eq_true.1 rfl)
  | none => exact .word (w := ['N', 'o', 'n', 'e']) (by simp) (List.all_eq_true.1 rfl)
  | true => exact .word (w := ['T', 'r', 'u', 'e']) (by simp) (List.all_eq_true.1 rfl)
  | false => exact .word (w := ['F', 'a', 'l', 's', 'e']) (by simp) (List.all_eq_true.1 rfl)

end LoanDesk
