import LoanDesk.Expr.Render
import LoanDesk.Proofs.Expr.Grammar.Complete

/-!
# Reading the text of an expression

The text of a well-formed expression puts parentheses around a part exactly where the part is looser
than the phrase that the grammar has in its place (`Expr.tokensAs`).  So the grammar derives the
expression from its own tokens, save that chains directly within chains of the same connective are
spliced into them (`Expr.flatten`), and it does so at the depth to which the text nests
(`Expr.derives_iff_nesting`).  Whatever a source is read as is well formed and nests no deeper than
the source, so its text is read again.
-/

namespace LoanDesk

/-! ### Phrases by how loose they are -/

namespace Phrase

/-- Every phrase is also a phrase of each looser sort. -/
def looseness : Phrase → Nat
  | operand => 0
  | comparison => 1
  | negation => 2
  | conjunction => 3
  | disjunction => 4

end Phrase

/-- A phrase stands wherever a looser one is asked for. -/
lemma Derives.loosen {p q : Phrase} {depth : Nat} {kinds : List TokenKind} {e : Expr}
    (h : Derives p depth kinds e) (le : p.looseness ≤ q.looseness) : Derives q depth kinds e := by
  have comparison : Derives .operand depth kinds e → Derives .comparison depth kinds e := .alone
  have negation : Derives .comparison depth kinds e → Derives .negation depth kinds e := .plain
  have conjunction : Derives .negation depth kinds e → Derives .conjunction depth kinds e :=
    Derives.toConjunction
  have disjunction : Derives .conjunction depth kinds e → Derives .disjunction depth kinds e :=
    Derives.toDisjunction
  cases p <;> cases q <;> first | exact absurd le (by decide) | solve_by_elim

namespace Expr

/-- The phrase that an expression is where nothing stands around it. -/
def phrase : Expr → Phrase
  | literal _ | field _ => .operand
  | compare .. => .comparison
  | not _ => .negation
  | and _ => .conjunction
  | or _ => .disjunction

/-- An expression can stand for a phrase without parentheses around it. -/
def Fits (e : Expr) (p : Phrase) : Prop := e.phrase.looseness ≤ p.looseness

instance (e : Expr) (p : Phrase) : Decidable (e.Fits p) := inferInstanceAs (Decidable (_ ≤ _))

/-- Where a disjunction is asked for, nothing needs parentheses. -/
lemma fits_disjunction (e : Expr) : e.Fits .disjunction := by
  cases e <;> exact Nat.le_of_ble_eq_true rfl

/-- The tokens that spell an expression in the place of a phrase. -/
def tokensAs (p : Phrase) (e : Expr) : List TokenKind :=
  if e.Fits p then e.tokens else parenthesized e.tokens

mutual

/-- The greatest number of `not`s and parentheses around a leaf in the text of an expression. -/
def nesting : Expr → Nat
  | literal _ | field _ => 0
  | compare _ left right =>
    max (if left.Fits .operand then left.nesting else left.nesting + 1)
      (if right.Fits .operand then right.nesting else right.nesting + 1)
  | not inner => (if inner.Fits .negation then inner.nesting else inner.nesting + 1) + 1
  | and terms => nestingAll .conjunction terms
  | or terms => nestingAll .disjunction terms

/-- The same for terms of a chain that stand in the places of phrases. -/
def nestingAll (p : Phrase) : List Expr → Nat
  | [] => 0
  | term :: terms =>
    max (if term.Fits p then term.nesting else term.nesting + 1) (nestingAll p terms)

end

/-- The greatest number of `not`s and parentheses around a leaf in the place of a phrase. -/
def nestingAs (p : Phrase) (e : Expr) : Nat := if e.Fits p then e.nesting else e.nesting + 1

/-- Chains have two terms or more, numbers are finite, and names are field names. -/
inductive WellFormed : Expr → Prop where
  | literal {v} : (∀ x, v = .number x → Number.isFinite x = true) → WellFormed (.literal v)
  | field {name} : IsFieldName name.toList → WellFormed (.field name)
  | compare {op left right} :
    WellFormed left → WellFormed right → WellFormed (.compare op left right)
  | not {inner} : WellFormed inner → WellFormed (.not inner)
  | and {terms} : 2 ≤ terms.length → (∀ term ∈ terms, WellFormed term) → WellFormed (.and terms)
  | or {terms} : 2 ≤ terms.length → (∀ term ∈ terms, WellFormed term) → WellFormed (.or terms)

/-- The terms of a conjunction, or an expression of another form. -/
def conjuncts : Expr → List Expr
  | and terms => terms
  | e => [e]

/-- The terms of a disjunction, or an expression of another form. -/
def disjuncts : Expr → List Expr
  | or terms => terms
  | e => [e]

mutual

/-- An expression in which each conjunction that is directly a term of a conjunction, and each
disjunction that is directly a term of a disjunction, is spliced into it. -/
def flatten : Expr → Expr
  | literal v => .literal v
  | field name => .field name
  | compare op left right => .compare op left.flatten right.flatten
  | not inner => .not inner.flatten
  | and terms => .and (flattenAll conjuncts terms)
  | or terms => .or (flattenAll disjuncts terms)

/-- The terms of a chain, each in the parts that `parts` splits it into. -/
def flattenAll (parts : Expr → List Expr) : List Expr → List Expr
  | [] => []
  | term :: terms => parts term.flatten ++ flattenAll parts terms

end

/-! ### Parentheses stand where the grammar needs them -/

/-- Each side of a comparison is spelled as an operand. -/
lemma tokens_compare (op : Comparison) (left right : Expr) :
    (compare op left right).tokens =
      left.tokensAs .operand ++ .compare op :: right.tokensAs .operand := by
  have side (e : Expr) :
      (if e.isLeaf then e.tokens else parenthesized e.tokens) = e.tokensAs .operand := by
    cases e <;> rfl
  rw [tokens, side, side]

/-- What a `not` negates is spelled as a negation. -/
lemma tokens_not (inner : Expr) : (not inner).tokens = .not :: inner.tokensAs .negation := by
  cases inner <;> rfl

/-- A disjunction needs parentheses as a term of a conjunction, and nothing else does. -/
lemma tokens_and (terms : List Expr) :
    (and terms).tokens = [.and].intercalate (terms.map (tokensAs .conjunction)) := by
  induction terms with
  | nil => rfl
  | cons term terms ih =>
    cases terms with
    | nil => cases term <;> exact List.intercalate_singleton.symm
    | cons next terms =>
      rw [List.map_cons, List.map_cons, List.intercalate_cons_cons, ← List.map_cons, ← ih,
        List.append_assoc, List.singleton_append]
      cases term <;> rfl

/-- Where a disjunction is asked for, an expression is spelled without parentheses. -/
lemma tokensAs_disjunction (e : Expr) : e.tokensAs .disjunction = e.tokens :=
  if_pos e.fits_disjunction

/-- The terms of a disjunction are spelled as disjunctions, with `or` between each two. -/
lemma tokens_or (terms : List Expr) :
    (or terms).tokens = [.or].intercalate (terms.map (tokensAs .disjunction)) := by
  induction terms with
  | nil => rfl
  | cons term terms ih =>
    cases terms with
    | nil => rw [List.map_singleton, List.intercalate_singleton, tokensAs_disjunction]; rfl
    | cons next terms =>
      rw [List.map_cons, List.map_cons, List.intercalate_cons_cons, ← List.map_cons, ← ih,
        List.append_assoc, List.singleton_append, tokensAs_disjunction]
      rfl

/-- Terms nest within a bound if each of them does. -/
lemma nestingAll_le {p : Phrase} {terms : List Expr} {n : Nat} :
    nestingAll p terms ≤ n ↔ ∀ term ∈ terms, term.nestingAs p ≤ n := by
  induction terms with
  | nil => simp [nestingAll]
  | cons term terms ih => rw [nestingAll, Nat.max_le, ih, List.forall_mem_cons]; rfl

/-- Flattened terms are the parts of each, one after the other. -/
lemma flattenAll_eq (parts : Expr → List Expr) (terms : List Expr) :
    flattenAll parts terms = terms.flatMap fun term => parts term.flatten := by
  induction terms with
  | nil => rfl
  | cons term terms ih => rw [flattenAll, ih, List.flatMap_cons]

/-- Splicing does not change what an expression is, only the terms that it has. -/
lemma phrase_flatten (e : Expr) : e.flatten.phrase = e.phrase := by
  cases e <;> rfl

end Expr

/-! ### Chains within chains -/

/-- The tokens are phrases with the separator between each two, which stand for the expressions. -/
def DerivesTerms (p : Phrase) (depth : Nat) (separator : TokenKind) (kinds : List TokenKind)
    (es : List Expr) : Prop :=
  ∃ terms : List (List TokenKind × Expr), terms ≠ [] ∧
    (∀ term ∈ terms, Derives p depth term.1 term.2) ∧
    [separator].intercalate (terms.map Prod.fst) = kinds ∧ terms.map Prod.snd = es

/-- A phrase is a chain of one term. -/
lemma Derives.single {p : Phrase} {depth : Nat} {separator : TokenKind} {kinds : List TokenKind}
    {e : Expr} (h : Derives p depth kinds e) : DerivesTerms p depth separator kinds [e] :=
  ⟨[(kinds, e)], by simp, by simpa using h, by simp, rfl⟩

namespace DerivesTerms

variable {p : Phrase} {m n : Nat} {separator : TokenKind} {kinds : List TokenKind} {es : List Expr}

/-- Terms that nest within a bound nest within any greater one. -/
lemma mono (h : DerivesTerms p m separator kinds es) (le : m ≤ n) :
    DerivesTerms p n separator kinds es := by
  obtain ⟨terms, ne, ht, hk, he⟩ := h
  exact ⟨terms, ne, fun term hterm => (ht term hterm).mono le, hk, he⟩

/-- A chain has at least one term. -/
lemma ne_nil (h : DerivesTerms p n separator kinds es) : es ≠ [] := by
  obtain ⟨terms, ne, -, -, rfl⟩ := h
  simpa using ne

/-- Negations with `and` between them are a conjunction. -/
lemma conjunction (h : DerivesTerms .negation n .and kinds es) :
    Derives .conjunction n kinds (.chain .and es) := by
  obtain ⟨terms, ne, ht, rfl, rfl⟩ := h
  exact .conjunction ne ht

/-- Conjunctions with `or` between them are a disjunction. -/
lemma disjunction (h : DerivesTerms .conjunction n .or kinds es) :
    Derives .disjunction n kinds (.chain .or es) := by
  obtain ⟨terms, ne, ht, rfl, rfl⟩ := h
  exact .disjunction ne ht

/-- Chains with the separator between each two are one chain of all their terms. -/
lemma splice {ts : List Expr} {spell : Expr → List TokenKind} {parts : Expr → List Expr}
    (ne : ts ≠ []) (h : ∀ t ∈ ts, DerivesTerms p n separator (spell t) (parts t)) :
    DerivesTerms p n separator ([separator].intercalate (ts.map spell)) (ts.flatMap parts) := by
  induction ts with
  | nil => exact absurd rfl ne
  | cons t ts ih =>
    cases ts with
    | nil => simpa using h t (by simp)
    | cons next ts =>
      obtain ⟨front, hf, front_ok, front_kinds, front_es⟩ := h t (by simp)
      obtain ⟨back, hb, back_ok, back_kinds, back_es⟩ :=
        ih (by simp) fun t ht => h t (List.mem_cons_of_mem _ ht)
      refine ⟨front ++ back, by simp [hf], ?_, ?_, ?_⟩
      · intro term hterm
        rcases List.mem_append.1 hterm with hterm | hterm
        · exact front_ok term hterm
        · exact back_ok term hterm
      · rw [List.map_append, intercalate_append (by simpa using hf) (by simpa using hb),
          front_kinds, back_kinds]
        simp
      · rw [List.map_append, front_es, back_es, ← List.flatMap_cons]

end DerivesTerms

/-! ### The grammar derives an expression from its tokens -/

/-- What spells an expression spells it in the place of a phrase too, in parentheses if need be. -/
lemma Derives.inPlace {e e' : Expr} (h : Derives e.phrase e.nesting e.tokens e') (p : Phrase) :
    Derives p (e.nestingAs p) (e.tokensAs p) e' := by
  rw [Expr.nestingAs, Expr.tokensAs]
  split
  next fits => exact h.loosen fits
  next =>
    have whole : Derives .disjunction e.nesting e.tokens e' := h.loosen e.fits_disjunction
    exact (Derives.group whole).loosen (by cases p <;> decide)

namespace Expr

/-- The grammar derives an expression from its tokens, and each of the terms that it gives to a
chain around it. -/
structure Spelled (e : Expr) : Prop where
  whole : Derives e.phrase e.nesting e.tokens e.flatten
  conjuncts : DerivesTerms .negation (e.nestingAs .conjunction) .and (e.tokensAs .conjunction)
    e.flatten.conjuncts
  disjuncts : DerivesTerms .conjunction (e.nestingAs .disjunction) .or (e.tokensAs .disjunction)
    e.flatten.disjuncts

/-- An expression that is no conjunction is a single term of one. -/
lemma conjuncts_single {e : Expr} (h : Derives e.phrase e.nesting e.tokens e.flatten)
    (ne : e.phrase ≠ .conjunction) :
    DerivesTerms .negation (e.nestingAs .conjunction) .and (e.tokensAs .conjunction)
      e.flatten.conjuncts := by
  have term : DerivesTerms .negation _ .and _ _ := (h.inPlace .negation).single
  cases e with
  | and => exact absurd rfl ne
  | _ => exact term

/-- An expression that is no disjunction is a single term of one. -/
lemma disjuncts_single {e : Expr} (h : Derives e.phrase e.nesting e.tokens e.flatten)
    (ne : e.phrase ≠ .disjunction) :
    DerivesTerms .conjunction (e.nestingAs .disjunction) .or (e.tokensAs .disjunction)
      e.flatten.disjuncts := by
  have term : DerivesTerms .conjunction _ .or _ _ := (h.inPlace .conjunction).single
  cases e with
  | or => exact absurd rfl ne
  | _ => exact term

/-- Splicing leaves a chain no shorter than it was. -/
lemma length_flattenAll {parts : Expr → List Expr} {terms : List Expr}
    (h : ∀ term ∈ terms, parts term.flatten ≠ []) :
    terms.length ≤ (flattenAll parts terms).length := by
  induction terms with
  | nil => simp
  | cons term terms ih =>
    have first := List.length_pos_iff.2 (h term (by simp))
    have others := ih fun t ht => h t (List.mem_cons_of_mem _ ht)
    rw [flattenAll, List.length_append, List.length_cons]
    omega

/-- A chain of two terms or more stays the chain that it is. -/
lemma chain_of_length {connective : List Expr → Expr} {es : List Expr} (h : 2 ≤ es.length) :
    chain connective es = connective es := by
  match es with
  | [] | [_] => exact absurd h (by simp)
  | _ :: _ :: _ => rfl

/-- The literals and the fields of a well-formed expression can be spelled. -/
theorem WellFormed.spelled {e : Expr} (h : e.WellFormed) : e.Spelled := by
  -- Whatever is no chain is a single term of each chain around it.
  have single {e : Expr} (h : Derives e.phrase e.nesting e.tokens e.flatten)
      (hc : e.phrase ≠ .conjunction) (hd : e.phrase ≠ .disjunction) : e.Spelled :=
    ⟨h, conjuncts_single h hc, disjuncts_single h hd⟩
  induction h with
  | @literal v =>
    exact single (.leaf (.ofValue v)) (by simp [phrase]) (by simp [phrase])
  | @field name => exact single (.leaf (.field name)) (by simp [phrase]) (by simp [phrase])
  | @compare op left right _ _ ihl ihr =>
    refine single ?_ (by simp [phrase]) (by simp [phrase])
    rw [tokens_compare]
    exact .compare ((ihl.whole.inPlace .operand).mono (Nat.le_max_left ..))
      ((ihr.whole.inPlace .operand).mono (Nat.le_max_right ..))
  | @not inner _ ih =>
    refine single ?_ (by simp [phrase]) (by simp [phrase])
    rw [tokens_not]
    exact .not (ih.whole.inPlace .negation)
  | @and terms two _ ih =>
    have ne : terms ≠ [] := List.ne_nil_of_length_pos (by omega)
    -- Each term gives one term or more to the chain, which is thus no single term.
    have long := length_flattenAll fun t ht => (ih t ht).conjuncts.ne_nil
    have spliced : DerivesTerms .negation (Expr.and terms).nesting .and (Expr.and terms).tokens
        (flattenAll Expr.conjuncts terms) := by
      rw [tokens_and, flattenAll_eq]
      exact .splice ne fun t ht => (ih t ht).conjuncts.mono (nestingAll_le.1 (le_refl _) t ht)
    have whole := spliced.conjunction
    rw [chain_of_length (by omega)] at whole
    exact ⟨whole, spliced, disjuncts_single whole (by simp [phrase])⟩
  | @or terms two _ ih =>
    have ne : terms ≠ [] := List.ne_nil_of_length_pos (by omega)
    have long := length_flattenAll fun t ht => (ih t ht).disjuncts.ne_nil
    have spliced : DerivesTerms .conjunction (Expr.or terms).nesting .or (Expr.or terms).tokens
        (flattenAll Expr.disjuncts terms) := by
      rw [tokens_or, flattenAll_eq]
      exact .splice ne fun t ht => (ih t ht).disjuncts.mono (nestingAll_le.1 (le_refl _) t ht)
    have whole := spliced.disjunction
    rw [chain_of_length (by omega)] at whole
    exact ⟨whole, conjuncts_single whole (by simp [phrase]), spliced⟩

/-- The grammar derives a well-formed expression, spliced, from the tokens of its text. -/
theorem WellFormed.derives {e : Expr} (h : e.WellFormed) :
    Derives .disjunction e.nesting e.tokens e.flatten :=
  h.spelled.whole.loosen e.fits_disjunction

/-! ### The tokens of a well-formed expression can be spelled -/

/-- Parentheses can be spelled. -/
lemma legal_tokensAs {e : Expr} (h : ∀ kind ∈ e.tokens, kind.Legal) (p : Phrase) :
    ∀ kind ∈ e.tokensAs p, kind.Legal := by
  intro kind hk
  rw [tokensAs] at hk
  split at hk
  next => exact h kind hk
  next =>
    simp only [parenthesized, List.cons_append, List.mem_cons, List.mem_append,
      List.not_mem_nil, or_false] at hk
    obtain rfl | hk | rfl := hk
    · trivial
    · exact h kind hk
    · trivial

/-- A chain is spelled with legal tokens if its separator and its terms are. -/
lemma legal_chain {separator : TokenKind} (hs : separator.Legal) {terms : List Expr} {p : Phrase}
    (h : ∀ term ∈ terms, ∀ kind ∈ term.tokens, kind.Legal) :
    ∀ kind ∈ [separator].intercalate (terms.map (tokensAs p)), kind.Legal := by
  intro kind hk
  obtain rfl | ⟨_, hy, hk⟩ := mem_intercalate hk
  · exact hs
  · obtain ⟨term, hterm, rfl⟩ := List.mem_map.1 hy
    exact legal_tokensAs (h term hterm) p kind hk

/-- A well-formed expression is spelled with legal tokens. -/
lemma WellFormed.legal {e : Expr} (h : e.WellFormed) : ∀ kind ∈ e.tokens, kind.Legal := by
  induction h with
  | @literal v fin =>
    intro kind hk
    rw [List.mem_singleton.1 hk]
    exact TokenKind.legal_ofValue fin
  | field hn =>
    intro kind hk
    rw [List.mem_singleton.1 hk]
    exact hn
  | compare _ _ ihl ihr =>
    intro kind hk
    rw [tokens_compare, List.mem_append, List.mem_cons] at hk
    obtain hk | rfl | hk := hk
    · exact legal_tokensAs ihl _ kind hk
    · trivial
    · exact legal_tokensAs ihr _ kind hk
  | not _ ih =>
    intro kind hk
    rw [tokens_not, List.mem_cons] at hk
    obtain rfl | hk := hk
    · trivial
    · exact legal_tokensAs ih _ kind hk
  | and _ _ ih => rw [tokens_and]; exact legal_chain (by trivial) ih
  | or _ _ ih => rw [tokens_or]; exact legal_chain (by trivial) ih

/-- What is true of a single term and of chains of two or more is true of every chain. -/
lemma chain_induction {motive : Expr → Prop} {connective : List Expr → Expr} {es : List Expr}
    (ne : es ≠ []) (single : ∀ e ∈ es, motive e) (many : 2 ≤ es.length → motive (connective es)) :
    motive (chain connective es) := by
  match es, ne with
  | [e], _ => exact single e (by simp)
  | _ :: _ :: _, _ => exact many (by simp)

end Expr

/-! ### What is derived is well formed and nests no deeper -/

/-- The grammar derives nothing but well-formed expressions from tokens that can be spelled. -/
theorem Derives.wellFormed {p : Phrase} {depth : Nat} {kinds : List TokenKind} {e : Expr}
    (h : Derives p depth kinds e) (legal : ∀ kind ∈ kinds, kind.Legal) : e.WellFormed := by
  induction h with
  | @disjunction depth terms ne _ ih =>
    have all : ∀ e ∈ terms.map Prod.snd, e.WellFormed := List.forall_mem_map.2 fun term hterm =>
      ih term hterm fun kind hk =>
        legal kind (mem_intercalate_of_mem (List.mem_map_of_mem hterm) hk)
    exact Expr.chain_induction (by simpa using ne) all fun two => .or two all
  | @conjunction depth terms ne _ ih =>
    have all : ∀ e ∈ terms.map Prod.snd, e.WellFormed := List.forall_mem_map.2 fun term hterm =>
      ih term hterm fun kind hk =>
        legal kind (mem_intercalate_of_mem (List.mem_map_of_mem hterm) hk)
    exact Expr.chain_induction (by simpa using ne) all fun two => .and two all
  | not _ ih => exact .not (ih fun kind hk => legal kind (List.mem_cons_of_mem _ hk))
  | plain _ ih => exact ih legal
  | compare _ _ ihl ihr =>
    rw [List.forall_mem_append, List.forall_mem_cons] at legal
    exact .compare (ihl legal.1) (ihr legal.2.2)
  | alone _ ih => exact ih legal
  | group _ ih => exact ih fun kind hk => legal kind (by simp [hk])
  | @leaf depth kind e hl =>
    have hk : kind.Legal := legal kind (by simp)
    cases hl with
    | number x =>
      refine .literal ?_
      rintro _ ⟨⟩
      exact hk
    | field name => exact .field hk
    | _ => exact .literal (by simp)

/-- In the place of a looser phrase an expression needs no more parentheses. -/
lemma Expr.nestingAs_anti {p q : Phrase} (le : p.looseness ≤ q.looseness) (e : Expr) :
    e.nestingAs q ≤ e.nestingAs p := by
  rw [nestingAs, nestingAs]
  split <;> split
  · exact le_refl _
  · exact Nat.le_succ _
  -- What fits the tighter phrase fits the looser one.
  next hq hp => exact absurd (Nat.le_trans hp le) hq
  · exact le_refl _

/-- An expression that needs no parentheses nests as deep as where nothing stands around it. -/
lemma Expr.nestingAs_of_fits {p : Phrase} {e : Expr} (h : e.Fits p) : e.nestingAs p = e.nesting :=
  if_pos h

/-- The text of an expression nests no deeper than the tokens that it is derived from. -/
theorem Derives.nestingAs_le {p : Phrase} {depth : Nat} {kinds : List TokenKind} {e : Expr}
    (h : Derives p depth kinds e) : e.nestingAs p ≤ depth := by
  induction h with
  | @disjunction depth terms ne _ ih =>
    have all : ∀ e ∈ terms.map Prod.snd, e.nestingAs .disjunction ≤ depth :=
      List.forall_mem_map.2 fun term hterm =>
        Nat.le_trans (Expr.nestingAs_anti (by decide) _) (ih term hterm)
    exact Expr.chain_induction (by simpa using ne) all fun _ => Expr.nestingAll_le.2 all
  | @conjunction depth terms ne _ ih =>
    have all : ∀ e ∈ terms.map Prod.snd, e.nestingAs .conjunction ≤ depth :=
      List.forall_mem_map.2 fun term hterm =>
        Nat.le_trans (Expr.nestingAs_anti (by decide) _) (ih term hterm)
    exact Expr.chain_induction (by simpa using ne) all fun _ => Expr.nestingAll_le.2 all
  | not _ ih => exact Nat.succ_le_succ ih
  | plain _ ih => exact Nat.le_trans (Expr.nestingAs_anti (by decide) _) ih
  | compare _ _ ihl ihr => exact Nat.max_le.2 ⟨ihl, ihr⟩
  | alone _ ih => exact Nat.le_trans (Expr.nestingAs_anti (by decide) _) ih
  | @group depth kinds e _ ih =>
    -- The parentheses count for one even where the text of the expression has none.
    rw [Expr.nestingAs_of_fits e.fits_disjunction] at ih
    rw [Expr.nestingAs]
    split <;> omega
  | leaf hl => cases hl <;> exact Nat.zero_le _

/-! ### Splicing changes no text -/

namespace Expr

/-- The terms of an expression make up what stands for it in a conjunction. -/
lemma intercalate_conjuncts (e : Expr) :
    [.and].intercalate (e.conjuncts.map (tokensAs .conjunction)) = e.tokensAs .conjunction := by
  cases e with
  | and terms => exact (tokens_and terms).symm
  | _ => exact List.intercalate_singleton

/-- The terms of a disjunction with `or` between them spell the disjunction. -/
lemma intercalate_disjuncts (e : Expr) :
    [.or].intercalate (e.disjuncts.map (tokensAs .disjunction)) = e.tokensAs .disjunction := by
  cases e with
  | or terms => exact (tokens_or terms).symm
  | _ => exact List.intercalate_singleton

/-- Flattening does not change where an expression needs parentheses. -/
lemma fits_flatten {e : Expr} {p : Phrase} : e.flatten.Fits p ↔ e.Fits p := by
  rw [Fits, phrase_flatten, Fits]

/-- What is spelled alike after flattening is spelled alike in the place of a phrase. -/
lemma tokensAs_flatten {e : Expr} (h : e.flatten.tokens = e.tokens) (p : Phrase) :
    e.flatten.tokensAs p = e.tokensAs p := by
  simp only [tokensAs, fits_flatten, h]

/-- What nests alike after flattening nests alike in the place of a phrase. -/
lemma nestingAs_flatten {e : Expr} (h : e.flatten.nesting = e.nesting) (p : Phrase) :
    e.flatten.nestingAs p = e.nestingAs p := by
  simp only [nestingAs, fits_flatten, h]

/-- The tokens of a spliced chain are those of the chain, if they are so for each term. -/
lemma intercalate_flattenAll {separator : TokenKind} {p : Phrase} {parts : Expr → List Expr}
    {terms : List Expr} (ne : ∀ term ∈ terms, parts term.flatten ≠ [])
    (hp : ∀ e, [separator].intercalate ((parts e).map (tokensAs p)) = e.tokensAs p)
    (h : ∀ term ∈ terms, term.flatten.tokens = term.tokens) :
    [separator].intercalate ((flattenAll parts terms).map (tokensAs p)) =
      [separator].intercalate (terms.map (tokensAs p)) := by
  rw [flattenAll_eq, List.map_flatMap,
    intercalate_flatMap fun term hterm => by simpa using ne term hterm]
  congr 1
  apply List.map_congr_left
  intro term hterm
  rw [hp, tokensAs_flatten (h term hterm)]

/-- Splicing does not change the text of an expression. -/
theorem WellFormed.tokens_flatten {e : Expr} (h : e.WellFormed) : e.flatten.tokens = e.tokens := by
  induction h with
  | literal | field => rfl
  | compare _ _ ihl ihr =>
    rw [flatten, tokens_compare, tokens_compare, tokensAs_flatten ihl, tokensAs_flatten ihr]
  | not _ ih => rw [flatten, tokens_not, tokens_not, tokensAs_flatten ih]
  | and _ wf ih =>
    rw [flatten, tokens_and, tokens_and]
    exact intercalate_flattenAll (fun t ht => (wf t ht).spelled.conjuncts.ne_nil)
      intercalate_conjuncts ih
  | or _ wf ih =>
    rw [flatten, tokens_or, tokens_or]
    exact intercalate_flattenAll (fun t ht => (wf t ht).spelled.disjuncts.ne_nil)
      intercalate_disjuncts ih

/-- Terms in a row nest as deep as the deeper of their two parts. -/
lemma nestingAll_append (p : Phrase) (front back : List Expr) :
    nestingAll p (front ++ back) = max (nestingAll p front) (nestingAll p back) := by
  induction front with
  | nil => simp [nestingAll]
  | cons term front ih => rw [List.cons_append, nestingAll, nestingAll, ih, Nat.max_assoc]

/-- The terms of a conjunction nest as deep as the conjunction. -/
lemma nestingAll_conjuncts (e : Expr) :
    nestingAll .conjunction e.conjuncts = e.nestingAs .conjunction := by
  cases e with
  | and terms => rfl
  | _ => exact Nat.max_zero _

/-- The terms of a disjunction nest as deep as the disjunction. -/
lemma nestingAll_disjuncts (e : Expr) :
    nestingAll .disjunction e.disjuncts = e.nestingAs .disjunction := by
  cases e with
  | or terms => rfl
  | _ => exact Nat.max_zero _

/-- A spliced chain nests as the chain does, if each of its terms does so. -/
lemma nestingAll_flattenAll {p : Phrase} {parts : Expr → List Expr} {terms : List Expr}
    (hp : ∀ e, nestingAll p (parts e) = e.nestingAs p)
    (h : ∀ term ∈ terms, term.flatten.nesting = term.nesting) :
    nestingAll p (flattenAll parts terms) = nestingAll p terms := by
  induction terms with
  | nil => rfl
  | cons term terms ih =>
    rw [flattenAll, nestingAll_append, ih fun t ht => h t (List.mem_cons_of_mem _ ht), hp,
      nestingAs_flatten (h term (by simp)), nestingAll]
    rfl

/-- Splicing does not change how deep the text of an expression nests. -/
lemma WellFormed.nesting_flatten {e : Expr} (h : e.WellFormed) : e.flatten.nesting = e.nesting := by
  induction h with
  | literal | field => rfl
  | @compare op left right _ _ ihl ihr =>
    show max (left.flatten.nestingAs .operand) (right.flatten.nestingAs .operand) = _
    rw [nestingAs_flatten ihl, nestingAs_flatten ihr]
    rfl
  | @not inner _ ih =>
    show inner.flatten.nestingAs .negation + 1 = _
    rw [nestingAs_flatten ih]
    rfl
  | and _ _ ih => exact nestingAll_flattenAll nestingAll_conjuncts ih
  | or _ _ ih => exact nestingAll_flattenAll nestingAll_disjuncts ih

/-! ### The text of an expression is read back -/

/-- The nesting of a well-formed expression is the least depth at which the grammar derives its
text. -/
theorem WellFormed.derives_iff_nesting {e : Expr} (h : e.WellFormed) {depth : Nat} :
    Derives .disjunction depth e.tokens e.flatten ↔ e.nesting ≤ depth := by
  constructor
  · intro hd
    -- What is derived is the spliced expression, and splicing keeps the nesting.
    have le := hd.nestingAs_le
    rw [nestingAs_of_fits e.flatten.fits_disjunction, h.nesting_flatten] at le
    exact le
  · exact h.derives.mono

/-- The text of a well-formed expression has the expression's tokens. -/
lemma WellFormed.tokenize_render {e : Expr} (h : e.WellFormed) :
    ∃ ts, tokenize e.render = .ok ts ∧ ts.map Token.kind = e.tokens := by
  obtain ⟨ts, lexes, hts⟩ := lexes_layout h.legal 0
  refine ⟨ts, tokenize_eq_ok.2 ?_, hts⟩
  rw [render, String.toList_ofList]
  exact lexes

/-- The text of a well-formed expression that nests no deeper than is allowed is read as the
expression, spliced. -/
lemma WellFormed.parse_render {e : Expr} (h : e.WellFormed) (le : e.nesting ≤ maxDepth) :
    parse e.render = .ok e.flatten := by
  obtain ⟨ts, tokens, hts⟩ := h.tokenize_render
  have derived : Derives .disjunction maxDepth (ts.map Token.kind) e.flatten := by
    rw [hts]
    exact h.derives_iff_nesting.2 le
  exact parse_eq_ok_iff.2 ⟨ts, tokens, derived⟩

/-- What a source is read as is well formed and nests no deeper than the source. -/
lemma wellFormed_of_parse {source : String} {root : Expr} (h : parse source = .ok root) :
    root.WellFormed ∧ root.nesting ≤ maxDepth ∧
      ∃ ts, tokenize source = .ok ts ∧
        ∀ depth, Derives .disjunction depth (ts.map Token.kind) root → root.nesting ≤ depth := by
  obtain ⟨ts, tokens, derived⟩ := parse_eq_ok_iff.1 h
  have legal : ∀ kind ∈ ts.map Token.kind, kind.Legal :=
    List.forall_mem_map.2 (tokenize_eq_ok.1 tokens).legal
  have shallow {depth : Nat} (hd : Derives .disjunction depth (ts.map Token.kind) root) :
      root.nesting ≤ depth := by
    have le := hd.nestingAs_le
    rwa [nestingAs_of_fits root.fits_disjunction] at le
  exact ⟨derived.wellFormed legal, shallow derived, ts, tokens, fun _ hd => shallow hd⟩

/-- The text of a well-formed expression that nests at most 64 deep is read back as the expression,
up to splicing chains into chains of the same connective.  Whatever a source is read as is well
formed and nests no deeper than the source, and its text is read back and written the same again. -/
theorem parse_render_flatten :
    (∀ e : Expr, e.WellFormed →
      (∀ depth, Derives .disjunction depth e.tokens e.flatten ↔ e.nesting ≤ depth) ∧
      (e.nesting ≤ 64 → parse e.render = .ok e.flatten)) ∧
    (∀ source root, parse source = .ok root →
      root.WellFormed ∧
      (∃ ts, tokenize source = .ok ts ∧
        ∀ depth, Derives .disjunction depth (ts.map Token.kind) root → root.nesting ≤ depth) ∧
      ∃ again, parse root.render = .ok again ∧ again = root.flatten ∧
        again.render = root.render) := by
  refine ⟨fun e h => ⟨fun depth => h.derives_iff_nesting, h.parse_render⟩, ?_⟩
  intro source root h
  obtain ⟨wf, le, nests⟩ := wellFormed_of_parse h
  refine ⟨wf, nests, root.flatten, wf.parse_render le, rfl, ?_⟩
  rw [render, wf.tokens_flatten, render]

/-- A conjunction in parentheses is kept as a term, and its text has none and is read without it. -/
theorem parse_render_flatten_nested :
    (and [and [field "a", field "b"], field "c"]).WellFormed ∧
    parse (and [and [field "a", field "b"], field "c"]).render =
      .ok (and [field "a", field "b", field "c"]) ∧
    parse "({a} and {b}) and {c}" = .ok (and [and [field "a", field "b"], field "c"]) ∧
    ∃ again, parse (and [and [field "a", field "b"], field "c"]).render = .ok again ∧
      again.render = "{a} and {b} and {c}" := by
  have nested : parse "({a} and {b}) and {c}" =
      .ok (and [and [field "a", field "b"], field "c"]) := by
    have tokens : tokenize "({a} and {b}) and {c}" = .ok [⟨.openParen, 0, 1⟩, ⟨.field "a", 1, 4⟩,
        ⟨.and, 5, 8⟩, ⟨.field "b", 9, 12⟩, ⟨.closeParen, 12, 13⟩, ⟨.and, 14, 17⟩,
        ⟨.field "c", 18, 21⟩] := by
      decide +kernel
    have name (depth : Nat) (s : String) : Derives .negation depth [.field s] (.field s) :=
      .plain (.alone (.leaf (.field s)))
    have inner : Derives .negation 1 [.openParen, .field "a", .and, .field "b", .closeParen]
        (.and [.field "a", .field "b"]) :=
      .plain (.alone (.group ((name 0 "a").both (name 0 "b")).toDisjunction))
    exact parse_eq_ok_iff.2
      ⟨_, tokens, (inner.both (name 1 "c")).toDisjunction.mono (Nat.le_of_ble_eq_true rfl)⟩
  obtain ⟨wf, -, again, reread, -, same⟩ := parse_render_flatten.2 _ _ nested
  refine ⟨wf, (parse_render_flatten.1 _ wf).2 (by decide), nested, again, reread, ?_⟩
  rw [same]
  decide +kernel

end Expr

end LoanDesk
