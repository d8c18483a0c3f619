import LoanDesk.Proofs.Expr.Canonical

/-!
# Sources put together

A source between parentheses is an operand, whatever it is made of: no token of it runs on into the
text around it, and what is inside is read up to the closing parenthesis.  So an operator between
such sources makes up its expression from what they are read as (`Phrase.Written`), for chains of
any length and one level deeper than the sources.

Main statement: `Expr.parse_composed`.
-/

namespace LoanDesk

/-- The source is an expression, with at most `depth` `not`s and parentheses around any token. -/
def Expr.NestsWithin (depth : Nat) (source : String) : Prop :=
  ∃ ts e, tokenize source = .ok ts ∧ Derives .disjunction depth (ts.map Token.kind) e

/-- A source that is an expression of no more levels than are read is read. -/
lemma Expr.NestsWithin.parse {depth : Nat} {source : String} (h : NestsWithin depth source)
    (le : depth ≤ maxDepth) : ∃ e, Expr.parse source = .ok e := by
  obtain ⟨ts, e, tokens, derived⟩ := h
  exact ⟨e, parse_eq_ok_iff.2 ⟨ts, tokens, derived.mono le⟩⟩

/-- A comparison of two leaves nests nothing. -/
lemma Expr.NestsWithin.compare {depth : Nat} {source : String} {ts : List Token} {op : Comparison}
    {left right : TokenKind} {a b : Expr} (tokens : tokenize source = .ok ts)
    (kinds : ts.map Token.kind = [left, .compare op, right]) (ha : Leaf left a)
    (hb : Leaf right b) : NestsWithin depth source := by
  have derived : Derives .comparison depth [left, .compare op, right] (.compare op a b) :=
    .compare (.leaf ha) (.leaf hb)
  rw [← kinds] at derived
  exact ⟨ts, _, tokens, derived.plain.toConjunction.toDisjunction⟩

/-- The source is read as the expression, with at most `depth` `not`s and parentheses around any
token. -/
structure Expr.IsReadAs (depth : Nat) (source : String) (e : Expr) : Prop where
  nests : NestsWithin depth source
  parsed : parse source = .ok e

/-- What the grammar derives from the tokens of a source is what the source is read as. -/
lemma Expr.IsReadAs.of_derives {depth : Nat} {source : String} {ts : List Token} {e : Expr}
    (tokens : tokenize source = .ok ts) (derived : Derives .disjunction depth (ts.map Token.kind) e)
    (le : depth ≤ maxDepth) : IsReadAs depth source e :=
  ⟨⟨ts, e, tokens, derived⟩, parse_eq_ok_iff.2 ⟨ts, tokens, derived.mono le⟩⟩

/-- A source that nests within a bound nests within any greater one. -/
lemma Expr.IsReadAs.mono {m n : Nat} {source : String} {e : Expr} (h : IsReadAs m source e)
    (le : m ≤ n) : IsReadAs n source e := by
  obtain ⟨⟨ts, e', tokens, derived⟩, parsed⟩ := h
  exact ⟨⟨ts, e', tokens, derived.mono le⟩, parsed⟩

/-! ### Phrases as they are written -/

/-- The characters are a phrase for the expression, wherever they stand. -/
def Phrase.Written (p : Phrase) (depth : Nat) (text : List Char) (e : Expr) : Prop :=
  ∃ kinds, LexesAs text kinds ∧ Derives p depth kinds e

namespace Phrase.Written

variable {p q : Phrase} {depth : Nat} {text left right : List Char} {e a b : Expr}

/-- A source that is read as an expression is written as a disjunction. -/
lemma ofSource {source : String} (h : Expr.IsReadAs depth source e) (le : depth ≤ maxDepth) :
    disjunction.Written depth source.toList e := by
  obtain ⟨⟨ts, e', tokens, derived⟩, parsed⟩ := h
  have parsed' := Expr.parse_eq_ok_iff.2 ⟨ts, tokens, derived.mono le⟩
  obtain rfl : e' = e := Except.ok.inj (parsed'.symm.trans parsed)
  exact ⟨_, (tokenize_eq_ok.1 tokens).lexesAs, derived⟩

/-- A source that is written as a disjunction is read as its expression. -/
lemma parse {source : String} (h : disjunction.Written depth text e) (le : depth ≤ maxDepth)
    (spelled : source.toList = text) : Expr.parse source = .ok e := by
  obtain ⟨kinds, lexed, derived⟩ := h
  obtain ⟨ts, lexes, rfl⟩ := lexed 0
  rw [← spelled] at lexes
  exact Expr.parse_eq_ok_iff.2 ⟨ts, tokenize_eq_ok.2 lexes, derived.mono le⟩

/-- A disjunction between parentheses is an operand, one level deeper. -/
lemma group (h : disjunction.Written depth text e) :
    operand.Written (depth + 1) ('(' :: text ++ [')']) e := by
  obtain ⟨kinds, lexed, derived⟩ := h
  exact ⟨_, lexed.parenthesized, .group derived⟩

/-- A phrase is written wherever a looser one is asked for. -/
lemma loosen (h : p.Written depth text e) (le : p.looseness ≤ q.looseness) :
    q.Written depth text e := by
  obtain ⟨kinds, lexed, derived⟩ := h
  exact ⟨kinds, lexed, derived.loosen le⟩

/-- Two operands with a comparison between them are a comparison. -/
lemma compare (op : Comparison) (ha : operand.Written depth left a)
    (hb : operand.Written depth right b) :
    comparison.Written depth (left ++ ' ' :: (op.symbol.toList ++ ' ' :: right))
      (.compare op a b) := by
  obtain ⟨front, lexed, derived⟩ := ha
  obtain ⟨back, lexed', derived'⟩ := hb
  -- The spaces keep the operator from running on, and the sides from running into it.
  have operator : LexesAs (op.symbol.toList ++ ' ' :: right) (.compare op :: back) :=
    .token (.compare op) ((separates_cons (by decide) right).ends _) (lexed'.blank (by decide))
  exact ⟨_, lexed.append (separates_cons (by decide) _) (operator.blank (by decide)),
    .compare derived derived'⟩

/-- A negation behind `not` is a negation, one level deeper. -/
lemma not (h : negation.Written depth text e) :
    negation.Written (depth + 1) (['n', 'o', 't'] ++ ' ' :: text) (.not e) := by
  obtain ⟨kinds, lexed, derived⟩ := h
  exact ⟨.not :: kinds, lexed.word (by simp) (List.all_eq_true.1 rfl), .not derived⟩

section

variable {α : Type} {xs : List α} {chars : α → List Char} {expr : α → Expr}

/-- Phrases with a connective's word between each two are a chain of that connective. -/
lemma chain {w : List Char} {connective : List Expr → Expr} (ne : w ≠ [])
    (hw : ∀ c ∈ w, isWordChar c = true)
    (rule : ∀ {terms : List (List TokenKind × Expr)}, terms ≠ [] →
      (∀ term ∈ terms, Derives p depth term.1 term.2) →
      Derives q depth ([.ofWord w].intercalate (terms.map Prod.fst))
        (.chain connective (terms.map Prod.snd)))
    (two : 2 ≤ xs.length) (h : ∀ x ∈ xs, p.Written depth (chars x) (expr x)) :
    q.Written depth ((' ' :: w ++ [' ']).intercalate (xs.map chars))
      (connective (xs.map expr)) := by
  choose! kinds lexed derived using h
  have some : xs.map (fun x => (kinds x, expr x)) ≠ [] := by
    rintro none
    rw [List.map_eq_nil_iff.1 none] at two
    cases two
  have chained := rule some (List.forall_mem_map.2 derived)
  rw [List.map_map, List.map_map] at chained
  have long : Expr.chain connective (xs.map expr) = connective (xs.map expr) :=
    Expr.chain_of_length (by simpa using two)
  rw [← long]
  exact ⟨_, .intercalate ne hw lexed, chained⟩

/-- Negations with the word `and` between them are a conjunction. -/
lemma and (two : 2 ≤ xs.length) (h : ∀ x ∈ xs, negation.Written depth (chars x) (expr x)) :
    conjunction.Written depth ([' ', 'a', 'n', 'd', ' '].intercalate (xs.map chars))
      (.and (xs.map expr)) :=
  chain (w := ['a', 'n', 'd']) (by simp) (List.all_eq_true.1 rfl) .conjunction two h

/-- Conjunctions with the word `or` between them are a disjunction. -/
lemma or (two : 2 ≤ xs.length) (h : ∀ x ∈ xs, conjunction.Written depth (chars x) (expr x)) :
    disjunction.Written depth ([' ', 'o', 'r', ' '].intercalate (xs.map chars))
      (.or (xs.map expr)) :=
  chain (w := ['o', 'r']) (by simp) (List.all_eq_true.1 rfl) .disjunction two h

end

end Phrase.Written

/-! ### Operators between sources in parentheses -/

namespace Expr

/-- The source in parentheses. -/
def enclose (source : String) : String := "(" ++ source ++ ")"

namespace IsReadAs

variable {depth : Nat} {source source' : String} {e e' : Expr}

/-- A source in parentheses is an operand, one level deeper. -/
lemma enclosed (h : IsReadAs depth source e) (le : depth ≤ maxDepth) :
    Phrase.operand.Written (depth + 1) (enclose source).toList e := by
  have inside := (Phrase.Written.ofSource h le).group
  simpa [enclose] using inside

/-- A source in parentheses is read as the source is. -/
lemma parse_enclose (h : IsReadAs 63 source e) : parse (enclose source) = .ok e :=
  ((h.enclosed (by decide)).loosen (by decide)).parse (le_refl maxDepth) rfl

/-- Two sources in parentheses are read as compared by the comparison between them. -/
lemma parse_compare (op : Comparison) (h : IsReadAs 63 source e) (h' : IsReadAs 63 source' e') :
    parse (enclose source ++ " " ++ op.symbol ++ " " ++ enclose source') =
      .ok (.compare op e e') := by
  have whole := Phrase.Written.compare op (h.enclosed (by decide)) (h'.enclosed (by decide))
  exact (whole.loosen (by decide)).parse (le_refl maxDepth) (by simp)

/-- A source in parentheses behind `not` is read as its negation. -/
lemma parse_not (h : IsReadAs 62 source e) : parse ("not " ++ enclose source) = .ok (.not e) := by
  have whole := ((h.enclosed (by decide)).loosen (by decide)).not
  exact (whole.loosen (by decide)).parse (le_refl maxDepth) (by simp)

end IsReadAs

variable {parts : List (String × Expr)}

/-- Sources in parentheses with `and` between them are read as their conjunction. -/
lemma parse_and (two : 2 ≤ parts.length) (h : ∀ part ∈ parts, IsReadAs 63 part.1 part.2) :
    parse (" and ".intercalate (parts.map fun part => enclose part.1)) =
      .ok (.and (parts.map Prod.snd)) := by
  have terms : ∀ part ∈ parts, Phrase.negation.Written 64 (enclose part.1).toList part.2 :=
    fun part hpart => ((h part hpart).enclosed (by decide)).loosen (by decide)
  refine ((Phrase.Written.and two terms).loosen (by decide)).parse (le_refl maxDepth) ?_
  rw [String.toList_intercalate, List.map_map]
  rfl

/-- Sources in parentheses with `or` between them are read as their disjunction. -/
lemma parse_or (two : 2 ≤ parts.length) (h : ∀ part ∈ parts, IsReadAs 63 part.1 part.2) :
    parse (" or ".intercalate (parts.map fun part => enclose part.1)) =
      .ok (.or (parts.map Prod.snd)) := by
  have terms : ∀ part ∈ parts, Phrase.conjunction.Written 64 (enclose part.1).toList part.2 :=
    fun part hpart => ((h part hpart).enclosed (by decide)).loosen (by decide)
  refine (Phrase.Written.or two terms).parse (le_refl maxDepth) ?_
  rw [String.toList_intercalate, List.map_map]
  rfl

/-- A source in parentheses is read as what the source is read as.  An operator with such sources
around it, or a `not` in front of one, is read as that operator's expression of theirs, and any
number of them with one connective between each two as one flat chain, in their order.  The sources
have to leave room for the levels that stand around them. -/
theorem parse_composed :
    (∀ {a x}, IsReadAs 63 a x → parse (enclose a) = .ok x) ∧
    (∀ {a b x y}, IsReadAs 63 a x → IsReadAs 63 b y →
      parse (enclose a ++ " and " ++ enclose b) = .ok (.and [x, y]) ∧
      parse (enclose a ++ " or " ++ enclose b) = .ok (.or [x, y]) ∧
      ∀ op : Comparison, parse (enclose a ++ " " ++ op.symbol ++ " " ++ enclose b) =
        .ok (.compare op x y)) ∧
    (∀ {a x}, IsReadAs 62 a x → parse ("not " ++ enclose a) = .ok (.not x)) ∧
    ∀ parts : List (String × Expr), 2 ≤ parts.length →
      (∀ part ∈ parts, IsReadAs 63 part.1 part.2) →
      parse (" and ".intercalate (parts.map fun part => enclose part.1)) =
        .ok (.and (parts.map Prod.snd)) ∧
      parse (" or ".intercalate (parts.map fun part => enclose part.1)) =
        .ok (.or (parts.map Prod.snd)) := by
  refine ⟨IsReadAs.parse_enclose, ?_, IsReadAs.parse_not,
    fun parts two h => ⟨parse_and two h, parse_or two h⟩⟩
  intro a b x y ha hb
  have both : ∀ part ∈ [(a, x), (b, y)], IsReadAs 63 part.1 part.2 := by
    simpa using ⟨ha, hb⟩
  refine ⟨?_, ?_, fun op => ha.parse_compare op hb⟩
  · simpa using parse_and (by simp) both
  · simpa using parse_or (by simp) both

/-- A disjunction, and a text that looks like the middle of an expression. -/
theorem parse_composed_quoted :
    let choice : Expr := .or [.field "a", .field "b"]
    let text : Expr := .literal (.text ") and (")
    parse "({a} or {b}) and (') and (')" = .ok (.and [choice, text]) ∧
      parse "({a} or {b}) != (') and (')" = .ok (.compare .ne choice text) ∧
      parse "not ({a} or {b})" = .ok (.not choice) ∧
      parse "(') and (') or ({a} or {b}) or (') and (')" = .ok (.or [text, choice, text]) := by
  intro choice text
  have leaf {kind : TokenKind} {e : Expr} (h : Leaf kind e) : Derives .conjunction 62 [kind] e :=
    (Derives.leaf h).alone.plain.toConjunction
  have ha : IsReadAs 62 "{a} or {b}" choice := by
    have tokens : tokenize "{a} or {b}" =
        .ok [⟨.field "a", 0, 3⟩, ⟨.or, 4, 6⟩, ⟨.field "b", 7, 10⟩] := by
      decide +kernel
    exact .of_derives tokens ((leaf (.field "a")).either (leaf (.field "b"))) (by decide)
  have hb : IsReadAs 62 "') and ('" text := by
    have tokens : tokenize "') and ('" = .ok [⟨.quoted ") and (", 0, 9⟩] := by
      decide +kernel
    exact .of_derives tokens (leaf (.quoted _)).toDisjunction (by decide)
  have ha' := ha.mono (Nat.le_succ 62)
  have hb' := hb.mono (Nat.le_succ 62)
  obtain ⟨-, pairs, negated, chains⟩ := parse_composed
  have chained := (chains [("') and ('", text), ("{a} or {b}", choice), ("') and ('", text)]
    (by decide) (by simpa using ⟨hb', ha', hb'⟩)).2
  exact ⟨(pairs ha' hb').1, (pairs ha' hb').2.2 .ne, negated ha, chained⟩

end Expr

end LoanDesk
