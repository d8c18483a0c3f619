import LoanDesk.Proofs.Expr.Grammar.Complete
import LoanDesk.Proofs.Listing

/-!
# Writing field values into a source

A field of a source may be replaced by the literal of its value (`Loan.substitute`): the source is
then read as the same expression with literals in place of its fields (`Expr.fill`), and it holds of
every loan as the source holds of the one whose values were written.  What a value's text contains
does not matter, since its spelling is closed by its own quotes and by the spaces around it.
-/

namespace LoanDesk

/-! ### Parts of a text by their bytes -/

namespace Text

/-- The characters of a text up to a number of bytes. -/
def takeBytes : Nat → List Char → List Char
  | _, [] => []
  | n, c :: cs => if c.utf8Size ≤ n then c :: takeBytes (n - c.utf8Size) cs else []

/-- The characters of a text after a number of bytes. -/
def dropBytes : Nat → List Char → List Char
  | _, [] => []
  | n, c :: cs => if c.utf8Size ≤ n then dropBytes (n - c.utf8Size) cs else c :: cs

lemma takeBytes_zero (cs : List Char) : takeBytes 0 cs = [] := by
  cases cs with
  | nil => rfl
  | cons c cs => rw [takeBytes, if_neg (Nat.not_le.2 c.utf8Size_pos)]

lemma dropBytes_zero (cs : List Char) : dropBytes 0 cs = cs := by
  cases cs with
  | nil => rfl
  | cons c cs => rw [dropBytes, if_neg (Nat.not_le.2 c.utf8Size_pos)]

/-- The bytes of a text in front of another take that text. -/
lemma takeBytes_append (front back : List Char) :
    takeBytes (byteLength front) (front ++ back) = front := by
  induction front with
  | nil => rw [byteLength_nil, takeBytes_zero]
  | cons c front ih =>
    rw [byteLength_cons, List.cons_append, takeBytes, if_pos (Nat.le_add_right ..),
      Nat.add_sub_cancel_left, ih]

/-- The bytes of a text in front of another leave the other. -/
lemma dropBytes_append (front back : List Char) :
    dropBytes (byteLength front) (front ++ back) = back := by
  induction front with
  | nil => rw [byteLength_nil, dropBytes_zero, List.nil_append]
  | cons c front ih =>
    rw [byteLength_cons, List.cons_append, dropBytes, if_pos (Nat.le_add_right ..),
      Nat.add_sub_cancel_left, ih]

end Text

/-- The characters of the source that a token takes. -/
def Token.text (source : List Char) (t : Token) : List Char :=
  Text.takeBytes (t.stop - t.start) (Text.dropBytes t.start source)

/-- A token that spans some characters of a source has them as its text. -/
lemma Token.text_eq (kind : TokenKind) (front chars back : List Char) :
    Token.text (front ++ (chars ++ back))
      ⟨kind, Text.byteLength front, Text.byteLength front + Text.byteLength chars⟩ = chars := by
  rw [Token.text, Text.dropBytes_append, Nat.add_sub_cancel_left, Text.takeBytes_append]

/-! ### Literals in place of fields -/

variable (read : String → Value)

/-- The literal that spells the value of a field, or another token. -/
def TokenKind.fill : TokenKind → TokenKind
  | field name => ofValue (read name)
  | kind => kind

namespace Expr

mutual

/-- An expression with the literals of their values in place of fields. -/
def fill : Expr → Expr
  | literal v => .literal v
  | field name => .literal (read name)
  | compare op left right => .compare op left.fill right.fill
  | not inner => .not inner.fill
  | and terms => .and (fillAll terms)
  | or terms => .or (fillAll terms)

/-- The terms of a chain with literals in place of fields. -/
def fillAll : List Expr → List Expr
  | [] => []
  | term :: terms => term.fill :: fillAll terms

end

/-- Each term of a chain is filled on its own. -/
lemma fillAll_eq (terms : List Expr) : fillAll read terms = terms.map (fill read) := by
  induction terms with
  | nil => rfl
  | cons term terms ih => rw [fillAll, ih, List.map_cons]

/-- A chain is filled by filling its terms. -/
lemma fill_chain {connective : List Expr → Expr}
    (h : ∀ terms, (connective terms).fill read = connective (fillAll read terms))
    (terms : List Expr) :
    (chain connective terms).fill read = chain connective (terms.map (fill read)) := by
  match terms with
  | [] => exact h []
  | [_] => rfl
  | _ :: _ :: _ =>
    rw [← fillAll_eq]
    exact h _

/-- An induction with a hypothesis for each term of a chain. -/
@[elab_as_elim]
theorem termInduction {motive : Expr → Prop} (literal : ∀ v, motive (.literal v))
    (field : ∀ name, motive (.field name))
    (compare : ∀ op left right, motive left → motive right → motive (.compare op left right))
    (not : ∀ inner, motive inner → motive (.not inner))
    (and : ∀ terms, (∀ term ∈ terms, motive term) → motive (.and terms))
    (or : ∀ terms, (∀ term ∈ terms, motive term) → motive (.or terms)) (e : Expr) : motive e :=
  @Expr.rec motive (fun terms => ∀ term ∈ terms, motive term) literal field compare not and or
    (List.forall_mem_nil _) (fun _ _ first others => List.forall_mem_cons.2 ⟨first, others⟩) e

/-- Whether all terms hold is the same with the values filled in. -/
lemma allHold_fill {other : String → Value} {terms : List Expr}
    (h : ∀ term ∈ terms, (term.fill read).value other = term.value read) :
    allHold other (fillAll read terms) = allHold read terms := by
  induction terms with
  | nil => rfl
  | cons term terms ih =>
    rw [fillAll, allHold, allHold, h term (by simp),
      ih fun t ht => h t (List.mem_cons_of_mem _ ht)]

/-- Whether any term holds is the same with the values filled in. -/
lemma anyHolds_fill {other : String → Value} {terms : List Expr}
    (h : ∀ term ∈ terms, (term.fill read).value other = term.value read) :
    anyHolds other (fillAll read terms) = anyHolds read terms := by
  induction terms with
  | nil => rfl
  | cons term terms ih =>
    rw [fillAll, anyHolds, anyHolds, h term (by simp),
      ih fun t ht => h t (List.mem_cons_of_mem _ ht)]

/-- An expression without fields has the same value, or fails in the same way, wherever it is
evaluated. -/
theorem value_fill (other : String → Value) (e : Expr) :
    (e.fill read).value other = e.value read := by
  induction e using termInduction with
  | literal v => rfl
  | field name => rfl
  | compare op left right ihl ihr => rw [fill, value, value, ihl, ihr]
  | not inner ih => rw [fill, value, value, ih]
  | and terms ih => rw [fill, value, value, allHold_fill read ih]
  | or terms ih => rw [fill, value, value, anyHolds_fill read ih]

end Expr

/-- A token that is an operand is one with the value filled in, and for the filled expression. -/
lemma Leaf.fill {kind : TokenKind} {e : Expr} (h : Leaf kind e) :
    Leaf (kind.fill read) (e.fill read) := by
  cases h with
  | field name =>
    exact .ofValue (read name)
  | _ => constructor

/-- A phrase with literals in place of its fields stands for its expression with them. -/
theorem Derives.fill {p : Phrase} {depth : Nat} {kinds : List TokenKind} {e : Expr}
    (h : Derives p depth kinds e) :
    Derives p depth (kinds.map (TokenKind.fill read)) (e.fill read) := by
  induction h with
  | @disjunction depth terms ne _ ih =>
    have filled : ∀ term ∈ terms.map (Prod.map (List.map (TokenKind.fill read)) (Expr.fill read)),
        Derives .conjunction depth term.1 term.2 := List.forall_mem_map.2 ih
    have rule := Derives.disjunction (by simpa using ne) filled
    rw [map_intercalate, Expr.fill_chain read (fun _ => rfl)]
    simpa [TokenKind.fill, Function.comp_def] using rule
  | @conjunction depth terms ne _ ih =>
    have filled : ∀ term ∈ terms.map (Prod.map (List.map (TokenKind.fill read)) (Expr.fill read)),
        Derives .negation depth term.1 term.2 := List.forall_mem_map.2 ih
    have rule := Derives.conjunction (by simpa using ne) filled
    rw [map_intercalate, Expr.fill_chain read (fun _ => rfl)]
    simpa [TokenKind.fill, Function.comp_def] using rule
  | not _ ih => exact .not ih
  | plain _ ih => exact .plain ih
  | compare _ _ ihl ihr =>
    rw [List.map_append, List.map_cons]
    exact .compare ihl ihr
  | alone _ ih => exact .alone ih
  | group _ ih =>
    rw [List.cons_append, List.map_cons, List.map_append]
    exact .group ih
  | leaf hl => exact .leaf (hl.fill read)

/-! ### The tokens of a source with values written into it -/

/-- Parentheses, comparisons and fields are spelled in one way only. -/
def TokenKind.OneSpelling : TokenKind → Prop
  | openParen | closeParen | compare _ | field _ => True
  | _ => False

/-- What a word spells is none of the tokens that are spelled in one way only. -/
lemma TokenKind.not_oneSpelling_ofWord (w : List Char) : ¬ (ofWord w).OneSpelling := by
  rcases ofWord_cases w with hk | ⟨x, -, e⟩ | e
  · generalize ofWord w = kind at hk
    unfold keyword? at hk
    split at hk <;> cases hk <;> exact id
  · rw [e]
    exact id
  · rw [e]
    exact id

/-- A token with one spelling is spelled with it. -/
lemma Spells.eq_spelling {kind : TokenKind} {chars : List Char} (h : Spells kind chars)
    (one : kind.OneSpelling) : chars = kind.spelling := by
  cases h with
  | field hn => rw [TokenKind.spelling, String.toList_ofList]
  | quoted => exact one.elim
  | word => exact absurd one (TokenKind.not_oneSpelling_ofWord _)
  | _ => rfl

/-- A literal between spaces. -/
def TokenKind.spaced (kind : TokenKind) : List Char := ' ' :: kind.spelling ++ [' ']

namespace Token

/-- The source with a field replaced by the literal of its value, between spaces. -/
def substitute (t : Token) (source : List Char) : List Char :=
  match t.kind with
  | .field name =>
    Text.takeBytes t.start source ++ (TokenKind.ofValue (read name)).spaced ++
      Text.dropBytes t.stop source
  | _ => source

/-- A token of a source, and what stands for it where values were written: for a field the literal
of its value, and for any other token the same token, spelled with the same characters. -/
def FilledBy (source filled : List Char) (t t' : Token) : Prop :=
  match t.kind with
  | .field name =>
    t.text source = (TokenKind.field name).spelling ∧ t'.kind = .ofValue (read name) ∧
      t'.text filled = t'.kind.spelling
  | kind => t'.kind = kind ∧ t'.text filled = t.text source

variable {read}

/-- What stands for a token is of its kind with the value filled in. -/
lemma FilledBy.kind_eq {source filled : List Char} {t t' : Token}
    (h : FilledBy read source filled t t') : t'.kind = t.kind.fill read := by
  rw [FilledBy] at h
  split at h
  next name e => rw [e, h.2.1, TokenKind.fill]
  next ne =>
    rw [h.1]
    generalize t.kind = kind at ne
    cases kind with
    | field name => exact absurd rfl (ne name)
    | _ => rfl

/-- A token that is no field is stood for by one with its kind and its text. -/
lemma FilledBy.same {source filled : List Char} {t t' : Token} (ne : ∀ name, t.kind ≠ .field name)
    (kind : t'.kind = t.kind) (text : t'.text filled = t.text source) :
    FilledBy read source filled t t' := by
  rw [FilledBy]
  split
  next name e => exact absurd e (ne name)
  next => exact ⟨kind, text⟩

/-- A field between other characters gives way to the literal of its value, between spaces. -/
lemma substitute_field {name : String} (front chars back : List Char) :
    substitute read ⟨.field name, Text.byteLength front,
        Text.byteLength front + Text.byteLength chars⟩ (front ++ (chars ++ back)) =
      front ++ ((TokenKind.ofValue (read name)).spaced ++ back) := by
  show Text.takeBytes (Text.byteLength front) (front ++ (chars ++ back)) ++
      (TokenKind.ofValue (read name)).spaced ++
      Text.dropBytes (Text.byteLength front + Text.byteLength chars) (front ++ (chars ++ back)) = _
  rw [Text.takeBytes_append, ← Text.byteLength_append, ← List.append_assoc front chars,
    Text.dropBytes_append, List.append_assoc]

/-- A token that is no field leaves the source as it is. -/
lemma substitute_of_ne {t : Token} (h : ∀ name, t.kind ≠ .field name) (source : List Char) :
    substitute read t source = source := by
  rw [substitute]
  split
  next name e => exact absurd e (h name)
  next => rfl

end Token

/-- A literal between spaces is a token wherever it stands. -/
lemma Lexes.spaced {kind : TokenKind} {offset : Nat} {back : List Char} {ts : List Token}
    (legal : kind.Legal)
    (h : Lexes (offset + Text.byteLength kind.spaced) back ts) :
    Lexes offset (kind.spaced ++ back)
      (⟨kind, offset + 1, offset + 1 + Text.byteLength kind.spelling⟩ :: ts) := by
  have apart : Separates (' ' :: back) := separates_cons (by decide) back
  have parts : kind.spaced ++ back = ' ' :: (kind.spelling ++ ' ' :: back) := by
    simp [TokenKind.spaced]
  rw [parts]
  refine .blank (by decide) (.token (spells_spelling legal) (apart.ends _) (.blank (by decide) ?_))
  convert h using 1
  simp only [TokenKind.spaced, List.cons_append, Text.byteLength_cons, Text.byteLength_append,
    Text.byteLength_nil]
  omega

/-- The tokens of characters in which values were written: characters come of them whose tokens
stand for the tokens before, in whatever text the characters stand.  A token before them ends where
it did, since they start as before or with a space. -/
structure Written (offset : Nat) (cs : List Char) (ts : List Token) (written : List Char) :
    Prop where
  eq : ∀ front, Text.byteLength front = offset →
    ts.foldr (Token.substitute read) (front ++ cs) = front ++ written
  head : written.head? = cs.head? ∨ written.head? = some ' '
  lexes : ∀ front front', Text.byteLength front = offset →
    ∃ ts', Lexes (Text.byteLength front') written ts' ∧
      List.Forall₂ (Token.FilledBy read (front ++ cs) (front' ++ written)) ts ts'

variable {read}

/-- Values may be written into any characters. -/
theorem Lexes.written (fin : ∀ name x, read name = .number x → Number.isFinite x = true)
    {offset : Nat} {cs : List Char} {ts : List Token} (h : Lexes offset cs ts) :
    ∃ written, Written read offset cs ts written := by
  induction h with
  | done =>
    refine ⟨[], ?_, .inl rfl, ?_⟩
    · intro front _
      rfl
    · intro front front' _
      exact ⟨[], .done, .nil⟩
  | @blank offset c cs ts hc _ ih =>
    obtain ⟨written, eq, -, lexes⟩ := ih
    have past {front : List Char} (hf : Text.byteLength front = offset) :
        Text.byteLength (front ++ [c]) = offset + c.utf8Size := by
      simp [hf]
    refine ⟨c :: written, ?_, .inl rfl, ?_⟩
    · intro front hf
      simpa using eq (front ++ [c]) (past hf)
    · intro front front' hf
      obtain ⟨ts', hl, filled⟩ := lexes (front ++ [c]) (front' ++ [c]) (past hf)
      refine ⟨ts', .blank hc ?_, by simpa using filled⟩
      simpa using hl
  | @token offset kind chars rest ts hs hr _ ih =>
    obtain ⟨written, eq, head, lexes⟩ := ih
    have past {front : List Char} (hf : Text.byteLength front = offset) :
        Text.byteLength (front ++ chars) = offset + Text.byteLength chars := by
      simp [hf]
    by_cases field : ∃ name, kind = .field name
    · obtain ⟨name, rfl⟩ := field
      -- The literal stands between spaces, so it is a token of its own whatever its text holds.
      have legal : (TokenKind.ofValue (read name)).Legal := TokenKind.legal_ofValue (fin name)
      refine ⟨(TokenKind.ofValue (read name)).spaced ++ written, ?_, .inr rfl, ?_⟩
      · rintro front rfl
        have others := eq (front ++ chars) (past rfl)
        rw [List.append_assoc] at others
        rw [List.foldr_cons, others, List.append_assoc, Token.substitute_field]
      · rintro front front' rfl
        obtain ⟨ts', hl, filled⟩ := lexes (front ++ chars)
          (front' ++ (TokenKind.ofValue (read name)).spaced) (past rfl)
        rw [Text.byteLength_append] at hl
        rw [List.append_assoc, List.append_assoc] at filled
        refine ⟨_, .spaced legal hl, .cons ⟨?_, rfl, ?_⟩ filled⟩
        · rw [Token.text_eq]
          exact hs.eq_spelling trivial
        · have spelled := Token.text_eq (.ofValue (read name)) (front' ++ [' '])
            (TokenKind.ofValue (read name)).spelling (' ' :: written)
          simpa [TokenKind.spaced, show ' '.utf8Size = 1 from rfl] using spelled
    · have same : ∀ name, kind ≠ .field name := fun name e => field ⟨name, e⟩
      -- Any other token ends where it did: what follows starts as before, or with a space.
      have ends : Ends chars written := by
        rcases head with head | head
        · exact hr.congr head
        · refine Separates.ends ?_ chars
          intro c hc
          obtain rfl : ' ' = c := Option.some.inj (head.symm.trans hc)
          exact ⟨by decide, by decide⟩
      refine ⟨chars ++ written, ?_, .inl ?_, ?_⟩
      · rintro front rfl
        have others := eq (front ++ chars) (past rfl)
        rw [List.append_assoc] at others
        rw [List.foldr_cons, others, List.append_assoc, Token.substitute_of_ne same]
      · obtain ⟨c, w, rfl, -⟩ := hs.head
        rfl
      · rintro front front' rfl
        obtain ⟨ts', hl, filled⟩ := lexes (front ++ chars) (front' ++ chars) (past rfl)
        rw [Text.byteLength_append] at hl
        rw [List.append_assoc, List.append_assoc] at filled
        refine ⟨_, .token hs ends hl, .cons (.same same rfl ?_) filled⟩
        rw [Token.text_eq, Token.text_eq]

/-! ### Reading a source with the values of a loan written into it -/

namespace Loan

/-- The source with the text of each field replaced by the literal of its value, between spaces. -/
def substitute (loan : Loan) (source : String) : String :=
  match tokenize source with
  | .ok ts => String.ofList (ts.foldr (Token.substitute loan.get) source.toList)
  | .error _ => source

/-- The tokens of a source with the values of a loan written into it are those of the source, with
literals in place of fields. -/
lemma tokenize_substitute {loan : Loan} (fin : loan.IsFinite) {source : String} {ts : List Token}
    (h : tokenize source = .ok ts) :
    ∃ ts', tokenize (loan.substitute source) = .ok ts' ∧
      List.Forall₂ (Token.FilledBy loan.get source.toList (loan.substitute source).toList) ts
        ts' := by
  obtain ⟨written, eq, -, lexes⟩ := (tokenize_eq_ok.1 h).written fin
  have text : (loan.substitute source).toList = written := by
    rw [substitute, h]
    simp only [String.toList_ofList]
    exact eq [] rfl
  obtain ⟨ts', hl, filled⟩ := lexes [] [] rfl
  rw [text]
  exact ⟨ts', tokenize_eq_ok.2 (text ▸ hl), filled⟩

/-- Conditions do not tell a loan from one whose values were written into them. -/
lemma satisfies_fill (loan other : Loan) (e : Expr) :
    other.satisfies (e.fill loan.get) = loan.satisfies e := by
  rw [satisfies, satisfies, Expr.holds, Expr.holds, Expr.value_fill]

end Loan

/-- A source in which the fields are replaced by the literals of a loan's values has the tokens of
the source, the fields apart, with the characters that they had.  It is read as the source's
expression with those literals in place of the fields, and it holds or fails of every loan as the
source does of the loan whose values were written.  The numbers of that loan have to be finite, as
those of every loan of a listing are. -/
theorem Loan.parse_substitute :
    (∀ text loans, Listing.read text = .ok loans → ∀ loan ∈ loans, loan.IsFinite) ∧
    ∀ (loan : Loan) (source : String) (root : Expr),
      loan.IsFinite → Expr.parse source = .ok root →
      (∃ ts ts', tokenize source = .ok ts ∧ tokenize (loan.substitute source) = .ok ts' ∧
        List.Forall₂ (Token.FilledBy loan.get source.toList (loan.substitute source).toList) ts
          ts') ∧
      ∃ filled, Expr.parse (loan.substitute source) = .ok filled ∧ filled = root.fill loan.get ∧
        ∀ other : Loan, other.satisfies filled = loan.satisfies root := by
  refine ⟨fun text loans hread loan hmem => Listing.isFinite_of_read hread hmem, ?_⟩
  intro loan source root fin h
  obtain ⟨ts, tokens, derived⟩ := Expr.parse_eq_ok_iff.1 h
  obtain ⟨ts', tokens', forall₂⟩ := Loan.tokenize_substitute fin tokens
  have kinds : ts'.map Token.kind = (ts.map Token.kind).map (TokenKind.fill loan.get) := by
    clear tokens tokens' derived
    induction forall₂ with
    | nil => rfl
    | cons ht _ ih => rw [List.map_cons, List.map_cons, List.map_cons, ih, ht.kind_eq]
  have filled := derived.fill loan.get
  rw [← kinds] at filled
  exact ⟨⟨ts, ts', tokens, tokens', forall₂⟩, root.fill loan.get,
    Expr.parse_eq_ok_iff.2 ⟨ts', tokens', filled⟩, rfl,
    fun other => loan.satisfies_fill other root⟩

/-- Neither the quote nor the braces of a value's text are taken for those of the source. -/
theorem Loan.parse_substitute_quote :
    ∃ loan : Loan, loan.get "purpose" = .text "it's {a} or 1" ∧ loan.get "rate" = .number 12.5 ∧
      loan.IsFinite ∧
      loan.substitute "not {rate} or {purpose} == '{a}'" =
        "not  12.5  or  'it\\'s {a} or 1'  == '{a}'" ∧
      ∃ filled, Expr.parse (loan.substitute "not {rate} or {purpose} == '{a}'") = .ok filled ∧
        ∀ other : Loan, other.satisfies filled = .ok false := by
  let loan : Loan := .ofFields [("purpose", .text "it's {a} or 1"), ("rate", .number 12.5)]
  have fin : loan.IsFinite := by
    intro name x h
    simp only [loan, Loan.ofFields, Loan.get, Dict.ofList, List.foldl, Dict.find?_insert] at h
    split at h
    · cases h
      decide +kernel
    · split at h <;> cases h
  have parsed : Expr.parse "not {rate} or {purpose} == '{a}'" =
      .ok (.or [.not (.field "rate"),
        .compare .eq (.field "purpose") (.literal (.text "{a}"))]) := by
    have tokens : tokenize "not {rate} or {purpose} == '{a}'" = .ok [⟨.not, 0, 3⟩,
        ⟨.field "rate", 4, 10⟩, ⟨.or, 11, 13⟩, ⟨.field "purpose", 14, 23⟩, ⟨.compare .eq, 24, 26⟩,
        ⟨.quoted "{a}", 27, 32⟩] := by
      decide +kernel
    have negated : Derives .negation 1 [.not, .field "rate"] (.not (.field "rate")) :=
      .not (.plain (.alone (.leaf (.field "rate"))))
    have compared : Derives .negation 1 [.field "purpose", .compare .eq, .quoted "{a}"]
        (.compare .eq (.field "purpose") (.literal (.text "{a}"))) :=
      .plain (.compare (.leaf (.field "purpose")) (.leaf (.quoted "{a}")))
    have derived := negated.toConjunction.either compared.toConjunction
    exact Expr.parse_eq_ok_iff.2 ⟨_, tokens, derived.mono (Nat.le_of_ble_eq_true rfl)⟩
  obtain ⟨-, filled, reread, -, same⟩ := Loan.parse_substitute.2 loan _ _ fin parsed
  refine ⟨loan, by decide +kernel, by decide +kernel, fin, by decide +kernel, filled, reread, ?_⟩
  intro other
  rw [same]
  decide +kernel

end LoanDesk
