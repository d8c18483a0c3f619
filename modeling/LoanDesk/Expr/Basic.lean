import LoanDesk.Value.Comparison

/-!
# Filter expressions

An expression is a condition on a loan.  Chains of `and` and of `or` are flat lists, and a leaf is a
literal or the name of a loan field.
-/

namespace LoanDesk

/-- A condition on a loan. -/
inductive Expr where
  | literal (v : Value)
  | field (name : String)
  | compare (op : Comparison) (left right : Expr)
  | not (inner : Expr)
  | and (terms : List Expr)
  | or (terms : List Expr)

namespace Expr

/-- Leaves need no parentheses as sides of a comparison. -/
def isLeaf : Expr → Bool
  | literal _ | field _ => true
  | _ => false

/-- The chain of one term is the term itself. -/
def chain (connective : List Expr → Expr) : List Expr → Expr
  | [term] => term
  | terms => connective terms

mutual

/-- The names of the fields that an expression reads, in the order of its leaves. -/
def fieldNames : Expr → List String
  | literal _ => []
  | field name => [name]
  | compare _ left right => left.fieldNames ++ right.fieldNames
  | not inner => inner.fieldNames
  | and terms => fieldNamesAll terms
  | or terms => fieldNamesAll terms

/-- The names of the fields that the terms of a chain read. -/
def fieldNamesAll : List Expr → List String
  | [] => []
  | term :: terms => term.fieldNames ++ fieldNamesAll terms

end

/-- The names of the fields that an expression reads, each once and in order. -/
def fields (e : Expr) : List String :=
  (e.fieldNames.mergeSort fun a b => !decide (b < a)).eraseDups

mutual

/-- Expressions of the same shape with the same leaves. -/
def same : Expr → Expr → Bool
  | literal v, literal w => v.same w
  | field a, field b => a == b
  | compare op left right, compare op' left' right' =>
    op == op' && left.same left' && right.same right'
  | not inner, not inner' => inner.same inner'
  | and terms, and terms' => sameAll terms terms'
  | or terms, or terms' => sameAll terms terms'
  | _, _ => false

/-- Chains whose terms are the same one by one. -/
def sameAll : List Expr → List Expr → Bool
  | [], [] => true
  | term :: terms, term' :: terms' => term.same term' && sameAll terms terms'
  | _, _ => false

end

end Expr

end LoanDesk
