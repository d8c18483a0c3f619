import LoanDesk.Expr.Basic

/-!
# Evaluating expressions

An expression has a value wherever each field name has one.  Chains are evaluated from the left and
stop at the first term that decides them, so a term after it cannot fail.
-/

namespace LoanDesk.Expr

variable (read : String → Value)

mutual

/-- The value of an expression whose fields are read by `read`. -/
def value : Expr → Except EvalError Value
  | literal v => .ok v
  | field name => .ok (read name)
  | compare op left right =>
    match left.value, right.value with
    | .error e, _ => .error e
    | .ok _, .error e => .error e
    | .ok a, .ok b => (Value.compare op a b).map .boolean
  | not inner => inner.value.map fun v => .boolean !v.truthy
  | and terms => (allHold terms).map .boolean
  | or terms => (anyHolds terms).map .boolean

/-- Whether all terms hold; the first one that does not, or that fails, decides. -/
def allHold : List Expr → Except EvalError Bool
  | [] => .ok true
  | term :: terms =>
    match term.value with
    | .error e => .error e
    | .ok v => if v.truthy then allHold terms else .ok false

/-- Whether any term holds; the first one that does, or that fails, decides. -/
def anyHolds : List Expr → Except EvalError Bool
  | [] => .ok false
  | term :: terms =>
    match term.value with
    | .error e => .error e
    | .ok v => if v.truthy then .ok true else anyHolds terms

end

/-- Whether an expression holds where its fields are read by `read`. -/
def holds (e : Expr) : Except EvalError Bool := (e.value read).map Value.truthy

/-- A conjunction holds if all of its terms do. -/
theorem holds_and (terms : List Expr) : (and terms).holds read = allHold read terms := by
  rw [holds, value]
  cases allHold read terms <;> rfl

/-- A disjunction holds if any of its terms does. -/
theorem holds_or (terms : List Expr) : (or terms).holds read = anyHolds read terms := by
  rw [holds, value]
  cases anyHolds read terms <;> rfl

/-- A negation holds if what it negates does not. -/
theorem holds_not (inner : Expr) :
    (not inner).holds read = (inner.holds read).map fun b => !b := by
  rw [holds, holds, value]
  cases inner.value read <;> rfl

end LoanDesk.Expr
