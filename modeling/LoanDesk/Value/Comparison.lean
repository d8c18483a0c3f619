import LoanDesk.Value

/-!
# Comparing values

Equality against nothing asks whether both sides are nothing, and an order against nothing is an
error.  Two values that count as numbers compare as numbers; any others, and the undefined number,
compare by their texts.

Main statement: `compare_eq_error_iff`, comparing fails exactly for an order against nothing.
-/

namespace LoanDesk

/-- The comparisons of the filter language. -/
inductive Comparison where
  | lt
  | le
  | gt
  | ge
  | eq
  | ne
deriving DecidableEq, Repr

namespace Comparison

/-- How a comparison is written. -/
def symbol : Comparison → String
  | lt => "<"
  | le => "<="
  | gt => ">"
  | ge => ">="
  | eq => "=="
  | ne => "!="

/-- The comparisons that ask for an order. -/
def isOrdering : Comparison → Bool
  | eq | ne => false
  | _ => true

/-- The comparison with its sides exchanged. -/
def swapped : Comparison → Comparison
  | lt => gt
  | le => ge
  | gt => lt
  | ge => le
  | eq => eq
  | ne => ne

/-- Whether a comparison holds of two sides in the given order. -/
def holds : Comparison → Ordering → Bool
  | lt, o => o == .lt
  | le, o => o != .gt
  | gt, o => o == .gt
  | ge, o => o != .lt
  | eq, o => o == .eq
  | ne, o => o != .eq

end Comparison

/-- The cause of a failed evaluation. -/
inductive EvalError where
  /-- An order was asked for and one side is nothing; the sides are given by their texts. -/
  | orderAgainstNull (op : Comparison) (left right : String)
deriving DecidableEq, Repr

/-- The message of a failed evaluation. -/
def EvalError.message : EvalError → String
  | orderAgainstNull op left right =>
    "cannot compare " ++ left ++ " " ++ op.symbol ++ " " ++ right ++
      ": ordering against None is undefined"

namespace Value

/-- The order of two values as numbers, if both count as numbers and neither is undefined. -/
def numericOrder? (left right : Value) : Option Ordering :=
  match left.asNumber?, right.asNumber? with
  | some x, some y => Number.compare? x y
  | _, _ => none

/-- The order of two values that are not nothing. -/
def order (left right : Value) : Ordering :=
  (numericOrder? left right).getD (Ord.compare left.display right.display)

/-- Whether a comparison holds between two values. -/
def compare (op : Comparison) (left right : Value) : Except EvalError Bool :=
  if left.isNull || right.isNull then
    match op with
    | .eq => .ok (left.isNull && right.isNull)
    | .ne => .ok !(left.isNull && right.isNull)
    | op => .error (.orderAgainstNull op left.display right.display)
  else .ok (op.holds (order left right))

/-- A comparison fails exactly if it asks for the order of an absent value, and shows both
values. -/
theorem compare_eq_error_iff {op : Comparison} {left right : Value} {e : EvalError} :
    compare op left right = .error e ↔
      op.isOrdering = true ∧ (left.isNull = true ∨ right.isNull = true) ∧
        e = .orderAgainstNull op left.display right.display := by
  unfold compare
  split
  next h =>
    rw [Bool.or_eq_true] at h
    cases op <;> simp [Comparison.isOrdering, h] <;> exact eq_comm
  next h =>
    simp only [Bool.or_eq_true, not_or] at h
    simp [h]

end Value

end LoanDesk
