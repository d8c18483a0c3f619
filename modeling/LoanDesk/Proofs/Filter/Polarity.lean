import LoanDesk.Proofs.Filter.Conjunction
import LoanDesk.Proofs.Purchase

/-!
# The two polarities of a source

A basic filter and an exclusion with the same source disagree on every loan of which the source has
a verdict, and both drop the loans of which it has none (`Loan.LacksVerdict`): the polarity turns
verdicts round and not the want of one.  A dropped loan of that kind is counted and reported by each
filter (`Filter.FailsClosed`).  An exclusion is also the basic filter whose source is the same one
in parentheses after a `not` (`Rule.evaluate_text`).

Main statement: `Filter.keeps_of_polarities`.
-/

namespace LoanDesk

/-- The source is no expression, or evaluating it on the loan fails. -/
def Loan.LacksVerdict (loan : Loan) (source : String) : Prop :=
  (∃ fault, Expr.parse source = .error fault) ∨
    ∃ e fault, Expr.parse source = .ok e ∧ loan.satisfies e = .error fault

/-- A source lacks a verdict on a loan exactly if it gives none. -/
lemma Loan.lacksVerdict_iff {loan : Loan} {source : String} :
    loan.LacksVerdict source ↔ ¬ ∃ verdict, loan.Gives source verdict := by
  constructor
  · rintro (⟨fault, failed⟩ | ⟨e, fault, parsed, failed⟩) ⟨verdict, e', parsed', held⟩
    · rw [failed] at parsed'
      cases parsed'
    · rw [parsed] at parsed'
      cases parsed'
      rw [failed] at held
      cases held
  · intro silent
    cases parsed : Expr.parse source with
    | error fault => exact .inl ⟨fault, parsed⟩
    | ok e =>
      cases held : loan.satisfies e with
      | error fault => exact .inr ⟨e, fault, parsed, held⟩
      | ok verdict => exact absurd ⟨verdict, e, parsed, held⟩ silent

/-- The filter drops the loan, counts it as failed and as an error, and warns of it once. -/
structure Filter.FailsClosed (f : Filter) (loan : Loan) : Prop where
  dropped : f.rule.keeps loan = false
  counted : f.apply loan =
    ⟨f.rule, ⟨f.counts.passed, f.counts.failed + 1, f.counts.errors + 1⟩⟩
  warned : ∃ e : FilterError, f.rule.log loan (f.rule.outcome loan) =
    [.warning ("Filter (" ++ f.rule.source ++ ") could not be evaluated for loan " ++
      loan.displayId ++ ": " ++ e.message)]

/-! ### What a rule makes of a verdict, and of the want of one -/

namespace Rule

variable {r : Rule} {loan : Loan}

/-- A filter turns the verdict of its source as its polarity says. -/
lemma evaluate_of_gives {verdict : Bool} (h : loan.Gives r.source verdict) :
    r.evaluate loan = .ok (r.polarity.passes verdict) := by
  obtain ⟨e, parsed, held⟩ := h
  rw [evaluate, r.expr_eq, parsed]
  simp only [held]

/-- A filter breaks on a loan that its source has no verdict on. -/
lemma outcome_of_lacksVerdict (h : loan.LacksVerdict r.source) :
    ∃ e, r.outcome loan = .broken e := by
  simp only [outcome_eq_broken, evaluate, r.expr_eq]
  rcases h with ⟨fault, failed⟩ | ⟨e, fault, parsed, failed⟩
  · rw [failed]
    exact ⟨.parse fault, rfl⟩
  · rw [parsed]
    simp only [failed]
    exact ⟨.eval fault, rfl⟩

/-- A filter keeps a loan if the verdict on it is the one to pass. -/
lemma keeps_of_gives {verdict : Bool} (h : loan.Gives r.source verdict) :
    r.keeps loan = r.polarity.passes verdict := by
  rw [Bool.eq_iff_iff, keeps_iff, evaluate_of_gives h, Except.ok.injEq]

/-- A filter keeps no loan that its source has no verdict on. -/
lemma keeps_of_lacksVerdict (h : loan.LacksVerdict r.source) : r.keeps loan = false := by
  obtain ⟨e, broken⟩ := outcome_of_lacksVerdict h
  rw [keeps, broken]
  rfl

/-- A basic rule whose source is the condition of a rule makes of every loan what the rule does. -/
theorem evaluate_text (h : Expr.NestsWithin 62 r.source) (loan : Loan) :
    (ofSource r.text .inclusion).evaluate loan = r.evaluate loan := by
  obtain ⟨ts, lexes, kinds⟩ := lexesAs_text h 0
  have derived := (derives_condition h (by decide)).toConjunction.toDisjunction
  rw [← kinds] at derived
  have parsed : (ofSource r.text .inclusion).expr = .ok r.condition :=
    Expr.parse_eq_ok_iff.2 ⟨ts, tokenize_eq_ok.2 lexes, derived⟩
  obtain ⟨e, he⟩ := h.parse (by decide)
  rw [evaluate_eq parsed, evaluate_eq (r.expr_eq.trans he), condition, parsed]
  rfl

end Rule

/-- A filter fails closed for want of a verdict, and only then: a verdict counts no error. -/
lemma Filter.failsClosed_iff {f : Filter} {loan : Loan} :
    f.FailsClosed loan ↔ loan.LacksVerdict f.rule.source := by
  constructor
  · intro h
    rw [Loan.lacksVerdict_iff]
    rintro ⟨verdict, gives⟩
    obtain ⟨e, broken⟩ := (Counts.errors_record f.counts (f.rule.outcome loan)).1
      (congrArg (fun g : Filter => g.counts.errors) h.counted)
    rw [Rule.outcome_eq_broken, Rule.evaluate_of_gives gives] at broken
    cases broken
  · intro h
    obtain ⟨e, broken⟩ := Rule.outcome_of_lacksVerdict h
    refine ⟨Rule.keeps_of_lacksVerdict h, ?_, e, ?_⟩
    · rw [apply, broken, count, Counts.record]
    · rw [broken, Rule.log]

/-- A basic filter and an exclusion with one source never both keep a loan.  One of them keeps it
exactly if the source is an expression and has a verdict on the loan.  Both drop it exactly if it is
no expression or fails on the loan, and then, and only then, each of them counts a failure and an
error and warns once.  If the source leaves room for two more levels, the exclusion is the basic
filter whose source has a `not` and parentheses around it. -/
theorem Filter.keeps_of_polarities :
    (∀ (source : String) (loan : Loan) (counts counts' : Counts),
      let basic : Filter := ⟨.ofSource source .inclusion, counts⟩
      let exclusion : Filter := ⟨.ofSource source .exclusion, counts'⟩
      ¬ (basic.rule.keeps loan = true ∧ exclusion.rule.keeps loan = true) ∧
      (basic.rule.keeps loan ≠ exclusion.rule.keeps loan ↔ ∃ verdict, loan.Gives source verdict) ∧
      (basic.rule.keeps loan = false ∧ exclusion.rule.keeps loan = false ↔
        loan.LacksVerdict source) ∧
      (basic.FailsClosed loan ∧ exclusion.FailsClosed loan ↔ loan.LacksVerdict source)) ∧
    ∀ source, Expr.NestsWithin 62 source → ∀ loan : Loan,
      (Rule.ofSource source .exclusion).evaluate loan =
        (Rule.ofSource ("not (" ++ source ++ ")") .inclusion).evaluate loan := by
  refine ⟨?_, ?_⟩
  · intro source loan counts counts' basic exclusion
    have closed : basic.FailsClosed loan ∧ exclusion.FailsClosed loan ↔ loan.LacksVerdict source :=
      and_congr Filter.failsClosed_iff Filter.failsClosed_iff |>.trans and_self_iff
    by_cases gives : ∃ verdict, loan.Gives source verdict
    · have verdicts : ¬ loan.LacksVerdict source := fun h => Loan.lacksVerdict_iff.1 h gives
      obtain ⟨verdict, given⟩ := gives
      have kept : basic.rule.keeps loan = verdict := Rule.keeps_of_gives given
      have kept' : exclusion.rule.keeps loan = !verdict := Rule.keeps_of_gives given
      rw [closed, kept, kept']
      refine ⟨by simp, ⟨fun _ => ⟨verdict, given⟩, by simp⟩, ?_, .rfl⟩
      simp [verdicts]
    · have lacks : loan.LacksVerdict source := Loan.lacksVerdict_iff.2 gives
      have dropped : basic.rule.keeps loan = false := Rule.keeps_of_lacksVerdict lacks
      have dropped' : exclusion.rule.keeps loan = false := Rule.keeps_of_lacksVerdict lacks
      rw [closed, dropped, dropped']
      exact ⟨by simp, by simp [gives], by simp [lacks], .rfl⟩
  · intro source h loan
    exact (Rule.evaluate_text (r := .ofSource source .exclusion) h loan).symm

/-- The comparison fails on a loan without a term, under a `not` as well. -/
theorem Filter.keeps_of_polarities_without_term :
    (Filter.ofSource "{term} < 12" .inclusion).FailsClosed (.ofFields []) ∧
      (Filter.ofSource "{term} < 12" .exclusion).FailsClosed (.ofFields []) ∧
      (Rule.ofSource "not ({term} < 12)" .inclusion).outcome (.ofFields []) =
        .broken (.eval (.orderAgainstNull .lt "None" "12")) := by
  have lacks : (Loan.ofFields []).LacksVerdict "{term} < 12" := by
    rw [Loan.lacksVerdict_iff]
    rintro ⟨verdict, gives⟩
    revert gives
    cases verdict <;> decide +kernel
  have shallow : Expr.NestsWithin 62 "{term} < 12" := by
    have tokens : tokenize "{term} < 12" =
        .ok [⟨.field "term", 0, 6⟩, ⟨.compare .lt, 7, 8⟩, ⟨.number (12 : Float), 9, 11⟩] := by
      decide +kernel
    exact .compare tokens rfl (.field "term") (.number 12)
  obtain ⟨-, -, -, closed⟩ := keeps_of_polarities.1 "{term} < 12" (.ofFields []) .zero .zero
  refine ⟨(closed.2 lacks).1, (closed.2 lacks).2, ?_⟩
  have negated := keeps_of_polarities.2 "{term} < 12" shallow (.ofFields [])
  rw [Rule.outcome_eq_broken]
  refine negated.symm.trans (Rule.outcome_eq_broken.1 ?_)
  decide +kernel

end LoanDesk
