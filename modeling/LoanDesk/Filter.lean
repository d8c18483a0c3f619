import LoanDesk.Expr.Parse
import LoanDesk.Loan

/-!
# Filters

A filter is a condition that loans have to meet, or one that they must not meet.  A source that is
no expression, and an expression that cannot be evaluated on a loan, reject the loan under either
polarity.  A filter counts the loans that it passed, those that it rejected, and those among them
that it rejected for such an error.

Main statements: `Rule.outcome_eq_passed` and `Rule.outcome_eq_broken`, what a loan's outcome says
about the expression.
-/

namespace LoanDesk

/-- A line that a run leaves for its operator. -/
inductive LogLine where
  | warning (text : String)
  | error (text : String)
deriving DecidableEq, Repr

/-- Whether loans that meet the condition are kept or dropped. -/
inductive Polarity where
  | inclusion
  | exclusion
deriving DecidableEq, Repr

namespace Polarity

/-- How reports name a polarity. -/
def label : Polarity → String
  | inclusion => "basic"
  | exclusion => "exclusion"

/-- How JSON names a polarity. -/
def tag : Polarity → String
  | inclusion => "inclusion"
  | exclusion => "exclusion"

/-- Whether a loan passes that meets the condition or does not. -/
def passes : Polarity → Bool → Bool
  | inclusion, held => held
  | exclusion, held => !held

end Polarity

/-- Why a filter has no verdict on a loan. -/
inductive FilterError where
  | parse (e : ParseError)
  | eval (e : EvalError)
deriving DecidableEq

/-- The message of an error. -/
def FilterError.message : FilterError → String
  | parse e => "parse error: " ++ e.message
  | eval e => "evaluation error: " ++ e.message

/-- What a filter made of a loan. -/
inductive Outcome where
  | passed
  | rejected
  /-- Rejected for want of a verdict. -/
  | broken (e : FilterError)
deriving DecidableEq

/-- Whether an outcome keeps the loan. -/
def Outcome.keeps : Outcome → Bool
  | passed => true
  | _ => false

/-- A condition on loans with its polarity; the expression is the one that the source spells. -/
structure Rule where
  source : String
  polarity : Polarity
  expr : Except ParseError Expr
  expr_eq : expr = Expr.parse source

namespace Rule

/-- The rule of a source. -/
def ofSource (source : String) (polarity : Polarity) : Rule :=
  ⟨source, polarity, Expr.parse source, rfl⟩

/-- The rule of a source that is an expression. -/
def ofSource? (source : String) (polarity : Polarity) : Except ParseError Rule :=
  (Expr.parse source).map fun _ => ofSource source polarity

/-- Why the source is no expression. -/
def parseError? (r : Rule) : Option ParseError :=
  match r.expr with
  | .ok _ => none
  | .error e => some e

/-- The verdict on a loan. -/
def evaluate (r : Rule) (loan : Loan) : Except FilterError Bool :=
  match r.expr with
  | .error e => .error (.parse e)
  | .ok expr =>
    match loan.satisfies expr with
    | .error e => .error (.eval e)
    | .ok held => .ok (r.polarity.passes held)

/-- What the rule makes of a loan. -/
def outcome (r : Rule) (loan : Loan) : Outcome :=
  match r.evaluate loan with
  | .ok true => .passed
  | .ok false => .rejected
  | .error e => .broken e

/-- Whether the rule keeps a loan. -/
def keeps (r : Rule) (loan : Loan) : Bool := (r.outcome loan).keeps

/-- What an outcome leaves in the log. -/
def log (r : Rule) (loan : Loan) : Outcome → List LogLine
  | .broken e =>
    [.warning ("Filter (" ++ r.source ++ ") could not be evaluated for loan " ++ loan.displayId ++
      ": " ++ e.message)]
  | _ => []

/-- A loan is passed if the filter is true of it. -/
theorem outcome_eq_passed {r : Rule} {loan : Loan} :
    r.outcome loan = .passed ↔ r.evaluate loan = .ok true := by
  unfold outcome
  split <;> simp_all

/-- A loan is rejected if the filter is false of it. -/
theorem outcome_eq_rejected {r : Rule} {loan : Loan} :
    r.outcome loan = .rejected ↔ r.evaluate loan = .ok false := by
  unfold outcome
  split <;> simp_all

/-- A filter breaks on a loan with the error that stands for its verdict. -/
theorem outcome_eq_broken {r : Rule} {loan : Loan} {e : FilterError} :
    r.outcome loan = .broken e ↔ r.evaluate loan = .error e := by
  unfold outcome
  split <;> simp_all

/-- A filter keeps the loans that it is true of. -/
theorem keeps_iff {r : Rule} {loan : Loan} :
    r.keeps loan = true ↔ r.evaluate loan = .ok true := by
  rw [← outcome_eq_passed, keeps]
  cases r.outcome loan <;> simp [Outcome.keeps]

end Rule

/-- How many loans a filter passed and rejected, and how many of these for an error; the counts
start over at `2 ^ 64`. -/
structure Counts where
  passed : UInt64
  failed : UInt64
  errors : UInt64
deriving DecidableEq, Repr

namespace Counts

/-- Nothing is counted. -/
def zero : Counts := ⟨0, 0, 0⟩

/-- The counts with one more outcome. -/
def record (c : Counts) : Outcome → Counts
  | .passed => { c with passed := c.passed + 1 }
  | .rejected => { c with failed := c.failed + 1 }
  | .broken _ => { c with failed := c.failed + 1, errors := c.errors + 1 }

end Counts

/-- A rule with the counts of what it made of loans. -/
structure Filter where
  rule : Rule
  counts : Counts

namespace Filter

/-- The filter of a source that has seen no loan. -/
def ofSource (source : String) (polarity : Polarity) : Filter :=
  ⟨Rule.ofSource source polarity, Counts.zero⟩

/-- The filter with one more outcome counted. -/
def count (f : Filter) (o : Outcome) : Filter := { f with counts := f.counts.record o }

/-- The filter after a loan. -/
def apply (f : Filter) (loan : Loan) : Filter := f.count (f.rule.outcome loan)

/-- The filter with nothing counted. -/
def reset (f : Filter) : Filter := { f with counts := Counts.zero }

end Filter

end LoanDesk
