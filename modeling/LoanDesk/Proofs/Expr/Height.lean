import LoanDesk.Proofs.Expr.Composition
import LoanDesk.Proofs.Expr.Fields
import LoanDesk.Proofs.Expr.Levels
import LoanDesk.Proofs.Expr.Parts

/-!
# How high an expression can be

A level holds a disjunction, a conjunction and a comparison one below the other, and nothing more
before the next `not` or parenthesis; a chain is one node however many terms it has.  So the height
of what is read is bounded by the levels of its source (`Derives.heightAtMost`), and so is how deep
evaluating it, writing it and collecting its fields recur.

Main statement: `Expr.parse_height`.
-/

namespace LoanDesk

/-- The greatest height of what a phrase stands for that nests `depth` levels. -/
def Phrase.height : Phrase → Nat → Nat
  | operand, depth => 3 * depth + 1
  | comparison, depth | negation, depth => 3 * depth + 2
  | conjunction, depth => 3 * depth + 3
  | disjunction, depth => 3 * depth + 4

/-- The induction follows the grammar: `not` and parentheses raise the depth and so the bound by
three, which pays for the node of a `not` and for the chains in parentheses. -/
theorem Derives.heightAtMost {p : Phrase} {depth : Nat} {kinds : List TokenKind} {e : Expr}
    (h : Derives p depth kinds e) : e.HeightAtMost (p.height depth) := by
  induction h with
  | disjunction ne _ ih =>
    exact .chain (fun _ => rfl) (by simpa using ne) (List.forall_mem_map.2 ih)
  | conjunction ne _ ih =>
    exact .chain (fun _ => rfl) (by simpa using ne) (List.forall_mem_map.2 ih)
  | @not depth kinds e _ ih =>
    have inner : e.HeightAtMost (3 * depth + 4) := ih.mono (by rw [Phrase.height]; omega)
    exact .intro (List.forall_mem_singleton.2 inner)
  | plain _ ih => exact ih
  | compare _ _ ihl ihr =>
    exact .intro (List.forall_mem_cons.2 ⟨ihl, List.forall_mem_singleton.2 ihr⟩)
  | alone _ ih => exact ih.mono (Nat.le_succ _)
  | group _ ih => exact ih
  | leaf hl => cases hl <;> exact .intro (List.forall_mem_nil _)

namespace Expr

/-! ### One step of a recursion -/

section

variable (read : String → Value) (ask : Expr → Except EvalError Value) (stop : Bool)

/-- What the terms come to that are asked in order up to the first one whose truth is `stop`. -/
def askTerms : List Expr → Except EvalError Bool
  | [] => .ok !stop
  | term :: terms =>
    match (ask term).map Value.truthy with
    | .error e => .error e
    | .ok held => if held = stop then .ok stop else askTerms terms

/-- One step of evaluation. -/
def valueStep : Expr → Except EvalError Value
  | literal v => .ok v
  | field name => .ok (read name)
  | compare op left right =>
    match ask left, ask right with
    | .error e, _ => .error e
    | .ok _, .error e => .error e
    | .ok a, .ok b => (Value.compare op a b).map .boolean
  | not inner => (ask inner).map fun v => .boolean !v.truthy
  | and terms => (askTerms ask false terms).map .boolean
  | or terms => (askTerms ask true terms).map .boolean

variable {read ask stop}

/-- Terms that are asked alike come to the same. -/
lemma askTerms_congr {ask' : Expr → Except EvalError Value} {terms : List Expr}
    (h : ∀ term ∈ terms, ask term = ask' term) :
    askTerms ask stop terms = askTerms ask' stop terms := by
  induction terms with
  | nil => rfl
  | cons term terms ih =>
    rw [askTerms, askTerms, h term (by simp), ih fun t ht => h t (List.mem_cons_of_mem _ ht)]

/-- Terms that are asked for their values are asked until one decides. -/
lemma askTerms_value (terms : List Expr) :
    askTerms (value read) stop terms = askUntil read stop terms := by
  induction terms with
  | nil => rfl
  | cons term terms ih =>
    rw [askTerms, askUntil, ih]
    rfl

/-- Evaluation is a step on the parts of an expression. -/
lemma valueStep_value : IsStepOf (valueStep read) (value read) where
  asks {ask ask' e} same := by
    cases e with
    | literal | field => rfl
    | compare op left right =>
      rw [valueStep, valueStep, same left (by simp [children]), same right (by simp [children])]
    | not inner => rw [valueStep, valueStep, same inner (by simp [children])]
    | and terms | or terms =>
      have same : ∀ term ∈ terms, ask term = ask' term := same
      rw [valueStep, valueStep, askTerms_congr same]
  fixed e := by
    cases e with
    | literal | field | compare | not => rfl
    | and terms => rw [valueStep, value, askTerms_value, allHold_eq]
    | or terms => rw [valueStep, value, askTerms_value, anyHolds_eq]

end

section

variable (spell : Expr → List TokenKind)

/-- The tokens of an expression in the place of a phrase. -/
def place (p : Phrase) (e : Expr) : List TokenKind :=
  if e.Fits p then spell e else parenthesized (spell e)

/-- One step of writing. -/
def tokensStep : Expr → List TokenKind
  | literal v => [.ofValue v]
  | field name => [.field name]
  | compare op left right =>
    place spell .operand left ++ .compare op :: place spell .operand right
  | not inner => .not :: place spell .negation inner
  | and terms => [.and].intercalate (terms.map (place spell .conjunction))
  | or terms => [.or].intercalate (terms.map (place spell .disjunction))

/-- Writing is a step on the parts of an expression. -/
lemma tokensStep_tokens : IsStepOf tokensStep tokens where
  asks {spell spell' e} same := by
    have placed {p : Phrase} {child : Expr} (mem : child ∈ e.children) :
        place spell p child = place spell' p child := by
      rw [place, place, same child mem]
    cases e with
    | literal | field => rfl
    | compare op left right =>
      rw [tokensStep, tokensStep, placed (by simp [children]), placed (by simp [children])]
    | not inner => rw [tokensStep, tokensStep, placed (by simp [children])]
    | and terms | or terms =>
      have placed {p : Phrase} : terms.map (place spell p) = terms.map (place spell' p) :=
        List.map_congr_left fun _ mem => placed mem
      rw [tokensStep, tokensStep, placed]
  fixed e := by
    cases e with
    | literal | field => rfl
    | compare => exact (tokens_compare ..).symm
    | not => exact (tokens_not _).symm
    | and => exact (tokens_and _).symm
    | or => exact (tokens_or _).symm

variable (names : Expr → List String)

/-- One step of collecting field names. -/
def fieldNamesStep : Expr → List String
  | literal _ => []
  | field name => [name]
  | compare _ left right => names left ++ names right
  | not inner => names inner
  | and terms | or terms => terms.flatMap names

/-- Collecting field names is a step on the parts of an expression. -/
lemma fieldNamesStep_fieldNames : IsStepOf fieldNamesStep fieldNames where
  asks {names names' e} same := by
    cases e with
    | literal | field => rfl
    | compare op left right =>
      rw [fieldNamesStep, fieldNamesStep, same left (by simp [children]),
        same right (by simp [children])]
    | not inner => exact same inner (by simp [children])
    | and terms | or terms => exact List.flatMap_congr same
  fixed e := by
    cases e with
    | literal | field | compare | not => rfl
    | and terms | or terms => rw [fieldNamesStep, fieldNames, fieldNamesAll_eq]

end

/-! ### What is read -/

/-- A source that nests within `depth` is read as an expression no higher than `3 * depth + 4`. -/
lemma heightAtMost_of_parse {depth : Nat} {source : String} {root : Expr}
    (h : parse source = .ok root) (nests : NestsWithin depth source) :
    root.HeightAtMost (3 * depth + 4) := by
  obtain ⟨ts, tokens, derived⟩ := parse_eq_ok_iff.1 h
  obtain ⟨ts', e, tokens', derived'⟩ := nests
  obtain rfl : ts = ts' := Except.ok.inj (tokens.symm.trans tokens')
  obtain rfl : root = e := derived.unique derived'
  exact derived'.heightAtMost

/-- A source that is read nests within the greatest depth. -/
lemma nestsWithin_of_parse {source : String} {root : Expr} (h : parse source = .ok root) :
    NestsWithin maxDepth source := by
  obtain ⟨ts, tokens, derived⟩ := parse_eq_ok_iff.1 h
  exact ⟨ts, root, tokens, derived⟩

/-- A chain in what is read has two terms or more. -/
lemma two_le_of_parse {source : String} {root : Expr} {terms : List Expr}
    (h : parse source = .ok root) (chain : Within (.and terms) root ∨ Within (.or terms) root) :
    2 ≤ terms.length := by
  have wf := (wellFormed_of_parse h).1
  rcases chain with inside | inside
  · cases wf.within inside with
    | and two _ => exact two
  · cases wf.within inside with
    | or two _ => exact two

/-- Wherever a phrase is read, the count of levels is the same after it as before, no level is left
that was not entered, and what is read is what the levels left allow.  In whatever a source is read
as, each chain has two terms or more, and a path down to a leaf has at most `3 * depth + 4` nodes if
the source nests `depth` levels, so never more than 196.  Evaluating it, writing its tokens and
collecting its fields thus recur at most 196 deep, whatever would stand further down. -/
theorem parse_height :
    (∀ (p : Phrase) {bound : Nat} {c : Cursor}, c.tokens.length ≤ bound →
      p.counting bound c = c.keep ((p.reader (maxDepth - c.level)).read c.tokens) ∧
      (∀ {e c'}, p.counting bound c = .ok (e, c') → c'.level = c.level) ∧
      p.counting bound c ≠ .error .underflow) ∧
    ∀ {source root}, parse source = .ok root →
      (∀ {terms}, Within (.and terms) root ∨ Within (.or terms) root → 2 ≤ terms.length) ∧
      (∀ {depth nodes}, NestsWithin depth source → Path root nodes →
        nodes.length ≤ 3 * depth + 4) ∧
      (∀ {nodes}, Path root nodes → nodes.length ≤ 196) ∧
      (∀ read rest, (valueStep read)^[196] rest root = root.value read) ∧
      (∀ rest, tokensStep^[196] rest root = root.tokens) ∧
      ∀ rest, fieldNamesStep^[196] rest root = root.fieldNames := by
  constructor
  · intro p bound c hc
    have kept := p.counting_eq hc
    refine ⟨kept, ?_, ?_⟩
    · intro e c' h
      exact Cursor.level_of_keep (kept.symm.trans h)
    · rw [kept]
      exact Cursor.keep_ne_underflow
  · intro source root h
    have height : root.HeightAtMost 196 := heightAtMost_of_parse h (nestsWithin_of_parse h)
    exact ⟨two_le_of_parse h, fun nests => (heightAtMost_of_parse h nests).length_le,
      height.length_le, fun read => height.iterate_eq valueStep_value,
      height.iterate_eq tokensStep_tokens, height.iterate_eq fieldNamesStep_fieldNames⟩

/-- One level with chains and comparisons in it and around it is as high as one level can be, and a
parenthesis is read at the last level there is, and refused beyond it. -/
theorem parse_height_seven :
    let lowest : Expr := .compare .lt (.field "a") (.field "b")
    let inner : Expr := .or [.and [lowest, .field "c"], .field "d"]
    let outer : Expr := .and [.compare .eq inner (.field "e"), .field "f"]
    let root : Expr := .or [outer, .field "g"]
    let source := "({a} < {b} and {c} or {d}) == {e} and {f} or {g}"
    let group : List Token := [⟨.openParen, 0, 1⟩, ⟨.field "a", 1, 4⟩, ⟨.closeParen, 4, 5⟩]
    IsReadAs 1 source root ∧
      Path root [root, outer, .compare .eq inner (.field "e"), inner, .and [lowest, .field "c"],
        lowest, .field "a"] ∧
      (∀ {nodes}, Path root nodes → nodes.length ≤ 7) ∧
      (∃ c, Phrase.operand.counting 3 ⟨group, 63⟩ = .ok (.field "a", c) ∧ c.level = 63) ∧
      Phrase.operand.counting 3 ⟨group, 64⟩ = .error (.refused .tooDeep) := by
  intro lowest inner outer root source group
  have name (depth : Nat) (s : String) : Derives .operand depth [.field s] (.field s) :=
    .leaf (.field s)
  have read : IsReadAs 1 source root := by
    have tokens : tokenize source = .ok [⟨.openParen, 0, 1⟩, ⟨.field "a", 1, 4⟩,
        ⟨.compare .lt, 5, 6⟩, ⟨.field "b", 7, 10⟩, ⟨.and, 11, 14⟩, ⟨.field "c", 15, 18⟩,
        ⟨.or, 19, 21⟩, ⟨.field "d", 22, 25⟩, ⟨.closeParen, 25, 26⟩, ⟨.compare .eq, 27, 29⟩,
        ⟨.field "e", 30, 33⟩, ⟨.and, 34, 37⟩, ⟨.field "f", 38, 41⟩, ⟨.or, 42, 44⟩,
        ⟨.field "g", 45, 48⟩] := by
      decide +kernel
    have compared : Derives .negation 0 _ lowest := .plain (.compare (name 0 "a") (name 0 "b"))
    have inside : Derives .disjunction 0 _ inner :=
      (compared.both (.plain (.alone (name 0 "c")))).either
        (Derives.plain (.alone (name 0 "d"))).toConjunction
    have compared : Derives .negation 1 _ (.compare .eq inner (.field "e")) :=
      .plain (.compare (.group inside) (name 1 "e"))
    have whole : Derives .disjunction 1 _ root :=
      (compared.both (.plain (.alone (name 1 "f")))).either
        (Derives.plain (.alone (name 1 "g"))).toConjunction
    exact .of_derives tokens whole (by decide)
  obtain ⟨levels, heights⟩ := parse_height
  have short (level : Nat) : (Cursor.mk group level).tokens.length ≤ 3 := Nat.le_refl 3
  have answer : Phrase.operand.counting 3 ⟨group, 63⟩ = .ok (.field "a", ⟨[], 63⟩) := rfl
  refine ⟨read, ?_, (heights read.parsed).2.1 read.nests,
    ⟨_, answer, (levels .operand (short 63)).2.1 answer⟩, ?_⟩
  · iterate 6 refine .step (.head _) ?_
    exact .leaf rfl
  · exact (levels .operand (short 64)).1

end Expr

end LoanDesk
