import LoanDesk.Filter.Set
import LoanDesk.Proofs.Expr.Composition
import LoanDesk.Proofs.Expr.Splicing

/-!
# A set of filters as one filter

The sources of a set's filters, each in parentheses and with a `not` before those of the exclusions,
make up one condition with `and` between each two (`FilterSet.conjunction`).  It is read as the
conjunction of what the sources are read as (`FilterSet.parse_conjunction`), so a filter with that
source makes of a loan what the first filter of the set does that does not pass it:
`FilterSet.screen_eq_conjunction`.
-/

namespace LoanDesk

/-! ### The condition that a filter puts to a loan -/

namespace Polarity

/-- The text of the condition that loans have to meet to pass. -/
def text : Polarity → String → String
  | inclusion, source => "(" ++ source ++ ")"
  | exclusion, source => "not (" ++ source ++ ")"

/-- The tokens of that text. -/
def kinds : Polarity → List TokenKind → List TokenKind
  | inclusion, kinds => Expr.parenthesized kinds
  | exclusion, kinds => .not :: Expr.parenthesized kinds

/-- The condition that loans have to meet to pass. -/
def condition : Polarity → Expr → Expr
  | inclusion, e => e
  | exclusion, e => .not e

/-- The condition holds of the loans that pass, and fails of a loan as the expression does. -/
lemma holds_condition (p : Polarity) (read : String → Value) (e : Expr) :
    (p.condition e).holds read = (e.holds read).map p.passes := by
  cases p with
  | inclusion =>
    cases h : e.holds read with
    | error => rw [condition, h]; rfl
    | ok held => rw [condition, h]; rfl
  | exclusion => exact Expr.holds_not read e

/-- The text has its tokens wherever it stands. -/
lemma lexesAs_text (p : Polarity) {source : String} {ks : List TokenKind}
    (h : LexesAs source.toList ks) : LexesAs (p.text source).toList (p.kinds ks) := by
  have inside : LexesAs ('(' :: source.toList ++ [')']) (Expr.parenthesized ks) := h.parenthesized
  cases p with
  | inclusion => simpa [text, kinds] using inside
  | exclusion =>
    have negated : LexesAs (['n', 'o', 't'] ++ ' ' :: ('(' :: source.toList ++ [')']))
        (.not :: Expr.parenthesized ks) := .word (by simp) (List.all_eq_true.1 rfl) inside
    simpa [text, kinds] using negated

/-- The text nests two levels deeper than the source. -/
lemma derives_condition (p : Polarity) {depth : Nat} {ks : List TokenKind} {e : Expr}
    (h : Derives .disjunction depth ks e) :
    Derives .negation (depth + 2) (p.kinds ks) (p.condition e) := by
  have inside : Derives .negation (depth + 1) (Expr.parenthesized ks) e :=
    .plain (.alone (.group h))
  cases p with
  | inclusion => exact inside.mono (Nat.le_succ _)
  | exclusion => exact .not inside

end Polarity

namespace Rule

/-- The text of the condition that a loan has to meet to pass the rule. -/
def text (r : Rule) : String := r.polarity.text r.source

/-- The tokens of that text. -/
def kinds (r : Rule) : List TokenKind :=
  match tokenize r.source with
  | .ok ts => r.polarity.kinds (ts.map Token.kind)
  | .error _ => []

/-- The condition that a loan has to meet to pass the rule; none does if the source is no
expression. -/
def condition (r : Rule) : Expr :=
  match r.expr with
  | .ok e => r.polarity.condition e
  | .error _ => .literal (.boolean false)

variable {r : Rule} {depth : Nat}

/-- The text of a rule has the tokens of its condition. -/
lemma lexesAs_text (h : Expr.NestsWithin depth r.source) : LexesAs r.text.toList r.kinds := by
  obtain ⟨ts, e, tokens, -⟩ := h
  rw [kinds, tokens]
  exact r.polarity.lexesAs_text (tokenize_eq_ok.1 tokens).lexesAs

/-- The tokens of a rule are a negation for its condition. -/
lemma derives_condition (h : Expr.NestsWithin depth r.source) (le : depth ≤ maxDepth) :
    Derives .negation (depth + 2) r.kinds r.condition := by
  obtain ⟨ts, e, tokens, derived⟩ := h
  have parsed : r.expr = .ok e :=
    r.expr_eq.trans (Expr.parse_eq_ok_iff.2 ⟨ts, tokens, derived.mono le⟩)
  rw [kinds, tokens, condition, parsed]
  exact r.polarity.derives_condition derived

/-- What a rule with an expression makes of a loan is what its condition comes to. -/
lemma evaluate_eq {e : Expr} (h : r.expr = .ok e) (loan : Loan) :
    r.evaluate loan = (loan.satisfies r.condition).mapError .eval := by
  rw [evaluate, condition, h]
  simp only [Loan.satisfies, Polarity.holds_condition]
  cases e.holds loan.get <;> rfl

/-- A rule with an expression has no verdict on a loan only if its expression fails there. -/
lemma exists_eval_of_broken {e : Expr} (h : r.expr = .ok e) {loan : Loan} {err : FilterError}
    (broken : r.outcome loan = .broken err) : ∃ e, err = .eval e := by
  rw [outcome_eq_broken, evaluate_eq h] at broken
  cases hs : loan.satisfies r.condition with
  | ok held => rw [hs] at broken; cases broken
  | error e => rw [hs] at broken; cases broken; exact ⟨e, rfl⟩

end Rule

/-- Only the want of a verdict counts as an error. -/
lemma Counts.errors_record (c : Counts) (o : Outcome) :
    (c.record o).errors = c.errors + 1 ↔ ∃ e, o = .broken e := by
  cases o <;> simp [record]

/-! ### The conditions of a set in one text -/

namespace FilterSet

/-- The conditions of all filters with `and` between each two. -/
def conjunction (filters : List Filter) : String :=
  " and ".intercalate (filters.map fun f => f.rule.text)

/-- The conditions of a set are read as their conjunction. -/
theorem parse_conjunction {filters : List Filter} (ne : filters ≠ [])
    (h : ∀ f ∈ filters, Expr.NestsWithin 62 f.rule.source) :
    Expr.parse (conjunction filters) =
      .ok (.chain .and (filters.map fun f => f.rule.condition)) := by
  have lexed : LexesAs (conjunction filters).toList
      ([.and].intercalate (filters.map fun f => f.rule.kinds)) := by
    rw [conjunction, String.toList_intercalate, List.map_map]
    exact LexesAs.intercalate (w := ['a', 'n', 'd']) (by simp) (List.all_eq_true.1 rfl)
      fun f hf => Rule.lexesAs_text (h f hf)
  obtain ⟨ts, lexes, hts⟩ := lexed 0
  have terms : ∀ term ∈ filters.map fun f => (f.rule.kinds, f.rule.condition),
      Derives .negation maxDepth term.1 term.2 := by
    refine List.forall_mem_map.2 fun f hf => ?_
    exact Rule.derives_condition (h f hf) (by decide)
  have derived := (Derives.conjunction (by simpa using ne) terms).toDisjunction
  rw [List.map_map, List.map_map] at derived
  exact Expr.parse_eq_ok_iff.2 ⟨ts, tokenize_eq_ok.2 lexes, hts ▸ derived⟩

/-! ### What one filter for the set makes of a loan -/

/-- The first filter that does not keep the loan. -/
def firstRejecting? (filters : List Filter) (loan : Loan) : Option Filter :=
  filters.find? fun f => !f.rule.keeps loan

/-- Asking the conditions in order comes to what the first filter says that does not keep the
loan. -/
lemma askUntil_conditions {filters : List Filter} (h : ∀ f ∈ filters, ∃ e, f.rule.expr = .ok e)
    (loan : Loan) :
    (Expr.askUntil loan.get false (filters.map fun f => f.rule.condition)).mapError .eval =
      match firstRejecting? filters loan with
      | none => .ok true
      | some f => f.rule.evaluate loan := by
  induction filters with
  | nil => rfl
  | cons f fs ih =>
    obtain ⟨e, he⟩ := h f (by simp)
    have eval := Rule.evaluate_eq he loan
    rw [Loan.satisfies] at eval
    have others := ih fun g hg => h g (List.mem_cons_of_mem _ hg)
    rw [List.map_cons, Expr.askUntil, firstRejecting?, List.find?_cons, Rule.keeps, Rule.outcome]
    cases hc : f.rule.condition.holds loan.get with
    | error e => rw [hc] at eval; simp [eval, Except.mapError, Outcome.keeps]
    | ok held =>
      rw [hc] at eval
      cases held with
      | false => simp [eval, Except.mapError, Outcome.keeps]
      | true =>
        rw [firstRejecting?] at others
        simpa [eval, Except.mapError, Outcome.keeps] using others

/-- A loan is kept exactly if no filter is the first to reject it. -/
lemma screen_value_eq (filters : List Filter) (loan : Loan) :
    (screen loan filters).value = (firstRejecting? filters loan).isNone := by
  rw [screen_value, keeps, firstRejecting?, Bool.eq_iff_iff]
  simp

variable {filters : List Filter}

/-- A filter for the whole set makes of a loan what the first filter of the set does that does not
keep it. -/
lemma outcome_conjunction (ne : filters ≠ [])
    (h : ∀ f ∈ filters, Expr.NestsWithin 62 f.rule.source) (loan : Loan) :
    (Rule.ofSource (conjunction filters) .inclusion).outcome loan =
      match firstRejecting? filters loan with
      | none => .passed
      | some f => f.rule.outcome loan := by
  have parsed : (Rule.ofSource (conjunction filters) .inclusion).expr = _ := parse_conjunction ne h
  have exprs : ∀ f ∈ filters, ∃ e, f.rule.expr = .ok e := by
    intro f hf
    obtain ⟨e, he⟩ := (h f hf).parse (by decide)
    exact ⟨e, f.rule.expr_eq.trans he⟩
  rw [Rule.outcome, Rule.evaluate_eq parsed, Rule.condition, parsed]
  simp only [Rule.ofSource, Polarity.condition, Loan.satisfies, Expr.holds_chain_and,
    askUntil_conditions exprs]
  cases firstRejecting? filters loan <;> rfl

/-- The conditions of a set are one expression, and a filter with their text as its source passes
the loans that the set passes.  It counts an error on a loan if the first filter of the set that
does not keep the loan has no verdict on it, and on no other loan. -/
theorem screen_eq_conjunction (ne : filters ≠ [])
    (h : ∀ f ∈ filters, Expr.NestsWithin 62 f.rule.source) :
    (∃ e, Expr.parse (conjunction filters) = .ok e) ∧
      ∀ (loan : Loan) (counts : Counts),
        let whole : Filter := ⟨Rule.ofSource (conjunction filters) .inclusion, counts⟩
        (screen loan filters).value = whole.rule.keeps loan ∧
          ((whole.apply loan).counts.errors = counts.errors + 1 ↔
            ∃ f e, firstRejecting? filters loan = some f ∧
              f.rule.outcome loan = .broken (.eval e)) := by
  refine ⟨⟨_, parse_conjunction ne h⟩, fun loan counts => ?_⟩
  have parsed : (Rule.ofSource (conjunction filters) .inclusion).expr = _ := parse_conjunction ne h
  intro whole
  have outcome : whole.rule.outcome loan = _ := outcome_conjunction ne h loan
  rw [screen_value_eq, Rule.keeps, Filter.apply, Filter.count, Counts.errors_record]
  cases first : firstRejecting? filters loan with
  | none =>
    rw [first] at outcome
    simp [outcome, Outcome.keeps]
  | some f =>
    rw [first] at outcome
    have rejects : f.rule.keeps loan = false := by simpa using List.find?_some first
    refine ⟨(congrArg Outcome.keeps outcome).trans rejects |>.symm, ?_, ?_⟩
    · rintro ⟨err, broken⟩
      obtain ⟨e, rfl⟩ := Rule.exists_eval_of_broken parsed broken
      exact ⟨f, e, rfl, outcome.symm.trans broken⟩
    · rintro ⟨g, e, hg, broken⟩
      cases hg
      exact ⟨.eval e, outcome.trans broken⟩

/-- The second of two filters has no verdict on a loan without a term. -/
theorem screen_eq_conjunction_without_term :
    conjunction [.ofSource "{grade} == A" .inclusion, .ofSource "{term} < 12" .exclusion] =
        "({grade} == A) and not ({term} < 12)" ∧
      ((Filter.ofSource "({grade} == A) and not ({term} < 12)" .inclusion).apply
        (.ofFields [("grade", .text "A")])).counts.errors = 1 := by
  have grade : Expr.NestsWithin 62 "{grade} == A" := by
    have tokens : tokenize "{grade} == A" =
        .ok [⟨.field "grade", 0, 7⟩, ⟨.compare .eq, 8, 10⟩, ⟨.word "A", 11, 12⟩] := by
      decide +kernel
    exact .compare tokens rfl (.field "grade") (.word "A")
  have term : Expr.NestsWithin 62 "{term} < 12" := by
    have tokens : tokenize "{term} < 12" =
        .ok [⟨.field "term", 0, 6⟩, ⟨.compare .lt, 7, 8⟩, ⟨.number (12 : Float), 9, 11⟩] := by
      decide +kernel
    exact .compare tokens rfl (.field "term") (.number 12)
  have text : conjunction
      [.ofSource "{grade} == A" .inclusion, .ofSource "{term} < 12" .exclusion] =
        "({grade} == A) and not ({term} < 12)" := by
    decide +kernel
  refine ⟨text, ?_⟩
  have all : ∀ f ∈ [Filter.ofSource "{grade} == A" .inclusion,
      .ofSource "{term} < 12" .exclusion], Expr.NestsWithin 62 f.rule.source := by
    simp only [List.forall_mem_cons]
    exact ⟨grade, term, by simp⟩
  have counted := (screen_eq_conjunction (by simp) all).2
    (.ofFields [("grade", .text "A")]) .zero
  rw [text] at counted
  refine counted.2.2 ⟨.ofSource "{term} < 12" .exclusion, .orderAgainstNull .lt "None" "12", ?_, ?_⟩
  · have keeps : (Rule.ofSource "{grade} == A" .inclusion).keeps
        (.ofFields [("grade", .text "A")]) = true := by
      decide +kernel
    have drops : (Rule.ofSource "{term} < 12" .exclusion).keeps
        (.ofFields [("grade", .text "A")]) = false := by
      decide +kernel
    simp [firstRejecting?, Filter.ofSource, keeps, drops]
  · decide +kernel

end FilterSet

end LoanDesk
