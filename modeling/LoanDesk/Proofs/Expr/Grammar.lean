import LoanDesk.Expr.Parse
import LoanDesk.Proofs.Separated

/-!
# The grammar of filter expressions

`Derives` is the grammar as a relation between token kinds and expressions, one rule for each way to
form a phrase.  Its depth bounds the `not`s and parentheses around any token.

Main statement: reading is sound for the grammar (`Phrase.reader_sound`), whatever a reader takes
off the front of the tokens is derived.
-/

namespace LoanDesk

/-- The phrases of the grammar, from the loosest to the tightest. -/
inductive Phrase where
  | disjunction
  | conjunction
  | negation
  | comparison
  | operand
deriving DecidableEq

/-- The tokens that are an operand by themselves; a word and a text between quotes are both text. -/
inductive Leaf : TokenKind → Expr → Prop where
  | number (x : Float) : Leaf (.number x) (.literal (.number x))
  | quoted (s : String) : Leaf (.quoted s) (.literal (.text s))
  | word (s : String) : Leaf (.word s) (.literal (.text s))
  | none : Leaf .none (.literal .null)
  | true : Leaf .true (.literal (.boolean Bool.true))
  | false : Leaf .false (.literal (.boolean Bool.false))
  | field (name : String) : Leaf (.field name) (.field name)

/-- The tokens are a phrase that stands for the expression, with at most `depth` `not`s and
parentheses around any of them. -/
inductive Derives : Phrase → Nat → List TokenKind → Expr → Prop where
  | disjunction {depth} {terms : List (List TokenKind × Expr)} :
    terms ≠ [] →
    (∀ term ∈ terms, Derives .conjunction depth term.1 term.2) →
    Derives .disjunction depth
      ([.or].intercalate (terms.map Prod.fst)) (.chain .or (terms.map Prod.snd))
  | conjunction {depth} {terms : List (List TokenKind × Expr)} :
    terms ≠ [] →
    (∀ term ∈ terms, Derives .negation depth term.1 term.2) →
    Derives .conjunction depth
      ([.and].intercalate (terms.map Prod.fst)) (.chain .and (terms.map Prod.snd))
  | not {depth kinds e} :
    Derives .negation depth kinds e →
    Derives .negation (depth + 1) (.not :: kinds) (.not e)
  | plain {depth kinds e} :
    Derives .comparison depth kinds e →
    Derives .negation depth kinds e
  | compare {depth op left right a b} :
    Derives .operand depth left a →
    Derives .operand depth right b →
    Derives .comparison depth (left ++ .compare op :: right) (.compare op a b)
  | alone {depth kinds e} :
    Derives .operand depth kinds e →
    Derives .comparison depth kinds e
  | group {depth kinds e} :
    Derives .disjunction depth kinds e →
    Derives .operand (depth + 1) (.openParen :: kinds ++ [.closeParen]) e
  | leaf {depth kind e} :
    Leaf kind e →
    Derives .operand depth [kind] e

/-- A phrase that fits a depth fits every greater one. -/
lemma Derives.mono {p : Phrase} {m n : Nat} {kinds : List TokenKind} {e : Expr}
    (h : Derives p m kinds e) (le : m ≤ n) : Derives p n kinds e := by
  induction h generalizing n with
  | disjunction ne _ ih => exact .disjunction ne fun term hterm => ih term hterm le
  | conjunction ne _ ih => exact .conjunction ne fun term hterm => ih term hterm le
  | not _ ih =>
    obtain ⟨n, rfl⟩ := Nat.exists_eq_add_of_le' (Nat.le_trans (Nat.succ_le_succ (Nat.zero_le _)) le)
    exact .not (ih (Nat.le_of_succ_le_succ le))
  | plain _ ih => exact .plain (ih le)
  | compare _ _ ihl ihr => exact .compare (ihl le) (ihr le)
  | alone _ ih => exact .alone (ih le)
  | group _ ih =>
    obtain ⟨n, rfl⟩ := Nat.exists_eq_add_of_le' (Nat.le_trans (Nat.succ_le_succ (Nat.zero_le _)) le)
    exact .group (ih (Nat.le_of_succ_le_succ le))
  | leaf hl => exact .leaf hl

namespace Phrase

/-- What reads an expression between parentheses. -/
def grouped : Nat → Reader
  | 0 => .tooDeep
  | depth + 1 => .expression depth

/-- What reads a phrase. -/
def reader : Phrase → Nat → Reader
  | disjunction, depth => .expression depth
  | conjunction, depth => .chain .and .and (.term depth)
  | negation, depth => .term depth
  | comparison, depth => .comparison (.operand (grouped depth))
  | operand, depth => .operand (grouped depth)

end Phrase

/-- The reader takes the tokens that are an operand by themselves. -/
lemma leaf?_eq_some {kind : TokenKind} {e : Expr} : Reader.leaf? kind = some e ↔ Leaf kind e := by
  constructor
  · intro h
    cases kind <;> cases h <;> constructor
  · intro h
    cases h <;> rfl

/-- The token that spells a literal is a leaf. -/
lemma Leaf.ofValue (v : Value) : Leaf (.ofValue v) (.literal v) := by
  cases v with
  | boolean b => cases b <;> constructor
  | _ => constructor

/-! ### Whatever is read is derived -/

/-- What a reader takes off the front of a list is a phrase. -/
def Reader.Sound (r : Reader) (p : Phrase) (depth : Nat) : Prop :=
  ∀ ⦃ts e rest⦄, r.read ts = .ok (e, rest) →
    ∃ used, ts = used ++ rest ∧ Derives p depth (used.map Token.kind) e

namespace Reader

/-- What is read as an operand is one, if what is read between parentheses is an expression. -/
lemma operand_sound {grouped : Reader} {depth : Nat}
    (h : ∀ inner, depth = inner + 1 → grouped.Sound .disjunction inner)
    (shallow : depth = 0 → grouped = tooDeep) : (operand grouped).Sound .operand depth := by
  intro ts e rest hread
  cases ts with
  | nil => cases hread
  | cons t ts =>
    change operandOf grouped (t :: ts) = _ at hread
    rw [operandOf] at hread
    split at hread
    next ho =>
      split at hread
      next => cases hread
      next e' rest' hg =>
        cases depth with
        | zero =>
          -- At depth zero nothing is read between parentheses.
          rw [shallow rfl] at hg
          cases hg
        | succ inner =>
          obtain ⟨used, rfl, hd⟩ := h inner rfl hg
          cases rest' with
          | nil => cases hread
          | cons close rest' =>
            rw [Reader.close] at hread
            split at hread
            next hc =>
              cases hread
              refine ⟨t :: used ++ [close], by simp, ?_⟩
              simp only [List.map_cons, List.map_append, List.map_nil, ho, hc, List.cons_append]
              exact .group hd
            next => cases hread
    next =>
      split at hread
      next e' hl =>
        cases hread
        exact ⟨[t], rfl, .leaf (leaf?_eq_some.1 hl)⟩
      next => cases hread

/-- What is read as a comparison is one, if what is read as its sides are operands. -/
lemma comparison_sound {side : Reader} {depth : Nat} (h : side.Sound .operand depth) :
    (comparison side).Sound .comparison depth := by
  intro ts e rest hread
  change comparisonOf side ts = _ at hread
  rw [comparisonOf] at hread
  split at hread
  next => cases hread
  next left after hl =>
    obtain ⟨used, rfl, hd⟩ := h hl
    split at hread
    next =>
      cases hread
      exact ⟨used, rfl, .alone hd⟩
    next t after =>
      split at hread
      next op hop =>
        split at hread
        next => cases hread
        next right after' hr =>
          cases hread
          obtain ⟨used', rfl, hd'⟩ := h hr
          refine ⟨used ++ t :: used', by simp, ?_⟩
          simp only [List.map_append, List.map_cons, hop]
          exact .compare hd hd'
      next =>
        -- The next token is no comparison and is left over.
        cases hread
        exact ⟨used, rfl, .alone hd⟩

/-- What is read as a negation is one, if what it negates is. -/
lemma negation_sound {negated plain : Reader} {depth : Nat}
    (h : ∀ inner, depth = inner + 1 → negated.Sound .negation inner)
    (shallow : depth = 0 → negated = tooDeep) (hp : plain.Sound .comparison depth) :
    (negation negated plain).Sound .negation depth := by
  have bare : ∀ {ts e rest}, plain.read ts = .ok (e, rest) →
      ∃ used, ts = used ++ rest ∧ Derives .negation depth (used.map Token.kind) e := by
    intro ts e rest hread
    obtain ⟨used, rfl, hd⟩ := hp hread
    exact ⟨used, rfl, .plain hd⟩
  intro ts e rest hread
  change negationOf negated plain ts = _ at hread
  cases ts with
  | nil => exact bare hread
  | cons t ts =>
    rw [negationOf] at hread
    split at hread
    next hn =>
      split at hread
      next => cases hread
      next e' rest' hi =>
        cases hread
        cases depth with
        | zero =>
          rw [shallow rfl] at hi
          cases hi
        | succ inner =>
          obtain ⟨used, rfl, hd⟩ := h inner rfl hi
          refine ⟨t :: used, rfl, ?_⟩
          rw [List.map_cons, hn]
          exact .not hd
    next => exact bare hread

/-- Further terms are read with a separator before each of them. -/
lemma chainFrom_sound {separator : TokenKind} {item : Reader} {p : Phrase} {depth : Nat}
    (h : item.Sound p depth) {done es : List Expr} {ts rest : List Token}
    (hread : chainFrom separator item done ts = .ok (es, rest)) :
    ∃ (terms : List (List TokenKind × Expr)) (used : List Token),
      ts = used ++ rest ∧ used.map Token.kind = terms.flatMap (separator :: ·.1) ∧
      es = done.reverse ++ terms.map Prod.snd ∧ ∀ term ∈ terms, Derives p depth term.1 term.2 := by
  fun_induction chainFrom separator item done ts with
  | case1 done =>
    cases hread
    exact ⟨[], [], rfl, rfl, (List.append_nil _).symm, by simp⟩
  | case2 => cases hread
  | case3 done t ts ht e after hi ih =>
    obtain ⟨first, rfl, hd⟩ := h hi
    obtain ⟨terms, used, rfl, hused, rfl, hterms⟩ := ih hread
    refine ⟨(first.map Token.kind, e) :: terms, t :: first ++ used, by simp, ?_, by simp, ?_⟩
    · simp [ht, hused]
    · intro term hterm
      rcases List.mem_cons.1 hterm with rfl | hterm
      · exact hd
      · exact hterms term hterm
  | case4 done t ts ht =>
    cases hread
    exact ⟨[], [], rfl, rfl, (List.append_nil _).symm, by simp⟩

/-- What is read as a chain is one, if what is read as its terms are terms. -/
lemma chain_sound {separator : TokenKind} {connective : List Expr → Expr} {item : Reader}
    {p q : Phrase} {depth : Nat} (h : item.Sound p depth)
    (rule : ∀ {terms : List (List TokenKind × Expr)}, terms ≠ [] →
      (∀ term ∈ terms, Derives p depth term.1 term.2) →
      Derives q depth ([separator].intercalate (terms.map Prod.fst))
        (.chain connective (terms.map Prod.snd))) :
    (chain separator connective item).Sound q depth := by
  intro ts e rest hread
  change chainOf separator connective item ts = _ at hread
  rw [chainOf] at hread
  split at hread
  next => cases hread
  next first after hf =>
    obtain ⟨used, rfl, hd⟩ := h hf
    split at hread
    next => cases hread
    next es rest' hc =>
      cases hread
      obtain ⟨terms, used', rfl, hused, rfl, hterms⟩ := chainFrom_sound h hc
      refine ⟨used ++ used', by simp, ?_⟩
      have all : ∀ term ∈ (used.map Token.kind, first) :: terms,
          Derives p depth term.1 term.2 := by
        intro term hterm
        rcases List.mem_cons.1 hterm with rfl | hterm
        · exact hd
        · exact hterms term hterm
      have derived := rule (List.cons_ne_nil _ _) all
      rw [List.map_cons, intercalate_cons, List.flatMap_map] at derived
      rw [List.map_append, hused]
      exact derived

end Reader

/-- Whatever is read is derived: what is taken off the front of the tokens is the phrase asked for,
and it stands for the expression given. -/
theorem Phrase.reader_sound (p : Phrase) (depth : Nat) : (p.reader depth).Sound p depth := by
  -- Whatever nests in a term is a term or an expression of the next depth, so terms come first.
  have term : ∀ depth, (Reader.term depth).Sound .negation depth := by
    intro depth
    induction depth with
    | zero =>
      exact Reader.negation_sound (fun _ h => nomatch h) (fun _ => rfl)
        (Reader.comparison_sound (Reader.operand_sound (fun _ h => nomatch h) fun _ => rfl))
    | succ depth ih =>
      have inner : (Reader.expression depth).Sound .disjunction depth :=
        Reader.chain_sound (Reader.chain_sound ih .conjunction) .disjunction
      refine Reader.negation_sound ?_ (by simp)
        (Reader.comparison_sound (Reader.operand_sound ?_ (by simp)))
      · rintro _ ⟨⟩
        exact ih
      · rintro _ ⟨⟩
        exact inner
  have conjunction : ∀ depth, (Reader.chain .and .and (.term depth)).Sound .conjunction depth :=
    fun depth => Reader.chain_sound (term depth) .conjunction
  have expression : ∀ depth, (Reader.expression depth).Sound .disjunction depth :=
    fun depth => Reader.chain_sound (conjunction depth) .disjunction
  have operand : (Reader.operand (grouped depth)).Sound .operand depth := by
    apply Reader.operand_sound
    · rintro inner rfl
      exact expression inner
    · rintro rfl
      rfl
  cases p with
  | disjunction => exact expression depth
  | conjunction => exact conjunction depth
  | negation => exact term depth
  | comparison => exact Reader.comparison_sound operand
  | operand => exact operand

end LoanDesk
