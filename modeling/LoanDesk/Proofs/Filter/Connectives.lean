import LoanDesk.Filter
import LoanDesk.Proofs.Expr.Splicing

/-!
# Laws of the connectives

A term holds, does not hold or fails, and a chain is decided by the first of its terms that decides
it or fails.  A `not` in front of a chain may be moved to its terms, since it turns the truths round
and leaves the failures alone.  Terms may not change places: another one may then fail first, or
none.  But a filter keeps a loan only if no term decides the chain and none fails, if it includes
the loans of a conjunction or excludes those of a disjunction, and there the order does not matter
(`Polarity.keeps_chain`).

Main statement: `Loan.satisfies_connectives`.
-/

namespace LoanDesk

namespace Expr

variable {read : String → Value} {stop : Bool}

/-- Negated terms come to the opposite of what the terms come to. -/
lemma askUntil_map_not (terms : List Expr) :
    askUntil read stop (terms.map .not) = (askUntil read (!stop) terms).map fun held => !held := by
  induction terms with
  | nil => cases stop <;> rfl
  | cons term terms ih =>
    rw [List.map_cons, askUntil, askUntil, holds_not]
    cases term.holds read with
    | error => rfl
    | ok held =>
      -- A term decides its chain exactly if its negation decides the other one.
      by_cases decides : held = !stop
      · simp [decides, Except.map]
      · have goesOn : held = stop := by simpa using decides
        simpa [goesOn, Except.map] using ih

/-- A conjunction is negated by the disjunction of its negated terms. -/
theorem holds_not_and (terms : List Expr) :
    (not (and terms)).holds read = (or (terms.map not)).holds read := by
  rw [holds_not, holds_and, holds_or, allHold_eq, anyHolds_eq, askUntil_map_not, Bool.not_true]

/-- A disjunction is negated by the conjunction of its negated terms. -/
theorem holds_not_or (terms : List Expr) :
    (not (or terms)).holds read = (and (terms.map not)).holds read := by
  rw [holds_not, holds_and, holds_or, allHold_eq, anyHolds_eq, askUntil_map_not, Bool.not_false]

/-- Terms are all asked, and none of them decides, exactly if each comes to the other truth. -/
lemma askUntil_eq_ok_not_iff {terms : List Expr} :
    askUntil read stop terms = .ok (!stop) ↔ ∀ term ∈ terms, term.holds read = .ok (!stop) := by
  induction terms with
  | nil => simp [askUntil]
  | cons term terms ih =>
    rw [askUntil, List.forall_mem_cons, ← ih]
    cases term.holds read with
    | error => simp
    | ok held => cases held <;> cases stop <;> simp

end Expr

/-! ### What a filter keeps of a chain -/

namespace Polarity

/-- Whether a filter of the polarity with the expression keeps a loan. -/
def keeps (p : Polarity) (e : Expr) (loan : Loan) : Bool :=
  match loan.satisfies e with
  | .ok held => p.passes held
  | .error _ => false

/-- The chain that rejects a loan if one of its terms does: a conjunction that loans have to meet,
or a disjunction that they must not meet. -/
def chain : Polarity → List Expr → Expr
  | inclusion => .and
  | exclusion => .or

variable (p : Polarity) {e : Expr} {loan : Loan} {terms : List Expr}

/-- A loan is kept exactly if the expression has the verdict that the polarity passes. -/
lemma keeps_iff : p.keeps e loan = true ↔ loan.satisfies e = .ok (p.passes true) := by
  rw [keeps]
  cases loan.satisfies e with
  | error => simp
  | ok held => cases p <;> cases held <;> simp [passes]

/-- The chain of a polarity is decided by the first term that rejects the loan. -/
lemma satisfies_chain :
    loan.satisfies (p.chain terms) = Expr.askUntil loan.get (!p.passes true) terms := by
  cases p with
  | inclusion => exact (Expr.holds_and ..).trans (Expr.allHold_eq terms)
  | exclusion => exact (Expr.holds_or ..).trans (Expr.anyHolds_eq terms)

/-- A filter keeps a loan of a chain exactly if a filter with each of its terms would. -/
theorem keeps_chain :
    p.keeps (p.chain terms) loan = true ↔
      ∀ term ∈ terms, loan.satisfies term = .ok (p.passes true) := by
  have asked : Expr.askUntil loan.get (!p.passes true) terms = .ok (!!p.passes true) ↔ _ :=
    Expr.askUntil_eq_ok_not_iff
  rw [Bool.not_not] at asked
  rw [keeps_iff, satisfies_chain]
  exact asked

/-- The order of the terms plays no part in what a chain keeps. -/
lemma keeps_chain_perm {terms' : List Expr} (h : terms.Perm terms') :
    p.keeps (p.chain terms) loan = p.keeps (p.chain terms') loan := by
  rw [Bool.eq_iff_iff, keeps_chain, keeps_chain]
  simp only [h.mem_iff]

end Polarity

/-- A rule with an expression keeps what its polarity keeps with it. -/
lemma Rule.keeps_of_expr {r : Rule} {e : Expr} (h : r.expr = .ok e) (loan : Loan) :
    r.keeps loan = r.polarity.keeps e loan := by
  rw [Bool.eq_iff_iff, Rule.keeps_iff, evaluate, h, Polarity.keeps]
  dsimp only
  cases loan.satisfies e with
  | error => simp
  | ok held => simp

/-- A `not` in front of a chain comes to the same as the other chain of the negated terms, with the
same failure if there is one.  A filter that asks for a conjunction keeps the loans of which each
term holds, and one that excludes a disjunction those of which each term has a verdict and none
holds, so their verdicts do not depend on the order of the terms.  The failures do: of two terms
that fail the first is reported, and a term that decides the chain hides a failure behind it. -/
theorem Loan.satisfies_connectives :
    (∀ (loan : Loan) (terms : List Expr),
      loan.satisfies (.not (.and terms)) = loan.satisfies (.or (terms.map .not)) ∧
      loan.satisfies (.not (.or terms)) = loan.satisfies (.and (terms.map .not))) ∧
    (∀ (loan : Loan) (terms : List Expr),
      (Polarity.inclusion.keeps (.and terms) loan = true ↔
        ∀ term ∈ terms, loan.satisfies term = .ok true) ∧
      (Polarity.exclusion.keeps (.or terms) loan = true ↔
        ∀ term ∈ terms, loan.satisfies term = .ok false)) ∧
    (∀ (loan : Loan) (terms terms' : List Expr), terms.Perm terms' →
      Polarity.inclusion.keeps (.and terms) loan = Polarity.inclusion.keeps (.and terms') loan ∧
      Polarity.exclusion.keeps (.or terms) loan = Polarity.exclusion.keeps (.or terms') loan) ∧
    (∀ (r : Rule) (e : Expr), r.expr = .ok e →
      ∀ loan, r.keeps loan = r.polarity.keeps e loan) ∧
    ∃ (loan : Loan) (a b c : Expr) (fault fault' : EvalError), fault ≠ fault' ∧
      loan.satisfies (.and [a, b]) = .error fault ∧
      loan.satisfies (.and [b, a]) = .error fault' ∧
      loan.satisfies (.and [a, c]) = .error fault ∧
      loan.satisfies (.and [c, a]) = .ok false := by
  refine ⟨fun loan terms => ⟨Expr.holds_not_and terms, Expr.holds_not_or terms⟩, ?_, ?_, ?_, ?_⟩
  · intro loan terms
    exact ⟨Polarity.keeps_chain .inclusion, Polarity.keeps_chain .exclusion⟩
  · intro loan terms terms' perm
    exact ⟨Polarity.keeps_chain_perm .inclusion perm, Polarity.keeps_chain_perm .exclusion perm⟩
  · intro r e parsed loan
    exact Rule.keeps_of_expr parsed loan
  · -- Two orders of a missing field, and a term that does not hold.
    exact ⟨.ofFields [], .compare .lt (.field "term") (.literal .null),
      .compare .gt (.field "term") (.literal .null), .literal (.boolean false),
      .orderAgainstNull .lt "None" "None", .orderAgainstNull .gt "None" "None",
      by decide, by decide +kernel, by decide +kernel, by decide +kernel, by decide +kernel⟩

/-- The order of the terms decides whether a loan without a term is dropped for want of a verdict,
and it is dropped either way. -/
theorem Loan.satisfies_connectives_swapped :
    let loan := Loan.ofFields [("grade", .text "B")]
    let front := Rule.ofSource "{term} < 12 and {grade} == A" .inclusion
    let back := Rule.ofSource "{grade} == A and {term} < 12" .inclusion
    front.outcome loan = .broken (.eval (.orderAgainstNull .lt "None" "12")) ∧
      back.outcome loan = .rejected ∧ front.keeps loan = back.keeps loan := by
  intro loan front back
  refine ⟨by decide +kernel, by decide +kernel, ?_⟩
  have term : Derives .negation maxDepth [.field "term", .compare .lt, .number (12 : Float)]
      (.compare .lt (.field "term") (.literal (.number 12))) :=
    .plain (.compare (.leaf (.field _)) (.leaf (.number _)))
  have grade : Derives .negation maxDepth [.field "grade", .compare .eq, .word "A"]
      (.compare .eq (.field "grade") (.literal (.text "A"))) :=
    .plain (.compare (.leaf (.field _)) (.leaf (.word _)))
  have parsed : front.expr = .ok _ := Expr.parse_eq_ok_iff.2
    ⟨[⟨.field "term", 0, 6⟩, ⟨.compare .lt, 7, 8⟩, ⟨.number (12 : Float), 9, 11⟩, ⟨.and, 12, 15⟩,
      ⟨.field "grade", 16, 23⟩, ⟨.compare .eq, 24, 26⟩, ⟨.word "A", 27, 28⟩], by decide +kernel,
      (term.both grade).toDisjunction⟩
  have parsed' : back.expr = .ok _ := Expr.parse_eq_ok_iff.2
    ⟨[⟨.field "grade", 0, 7⟩, ⟨.compare .eq, 8, 10⟩, ⟨.word "A", 11, 12⟩, ⟨.and, 13, 16⟩,
      ⟨.field "term", 17, 23⟩, ⟨.compare .lt, 24, 25⟩, ⟨.number (12 : Float), 26, 28⟩],
      by decide +kernel, (grade.both term).toDisjunction⟩
  obtain ⟨-, -, reordered, verdict, -⟩ := Loan.satisfies_connectives
  rw [verdict front _ parsed loan, verdict back _ parsed' loan]
  exact (reordered loan _ _ (.swap ..)).1

end LoanDesk
