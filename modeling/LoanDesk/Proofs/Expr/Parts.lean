import LoanDesk.Proofs.Expr.Canonical
import Mathlib.Logic.Function.Iterate

/-!
# The parts of an expression

What a function asks of the expressions right below one it asks of theirs in turn, so it goes as
many levels down as there are nodes on the longest path to a leaf.  A function that is put together
from one step at a time (`IsStepOf`) therefore needs no more steps than that, whatever stands at the
end of them (`HeightAtMost.iterate_eq`).
-/

namespace LoanDesk.Expr

/-- The expressions right below one. -/
def children : Expr → List Expr
  | literal _ | field _ => []
  | compare _ left right => [left, right]
  | not inner => [inner]
  | and terms | or terms => terms

/-- The expression stands somewhere in the other, or is that expression. -/
inductive Within (sub : Expr) : Expr → Prop where
  | here : Within sub sub
  | left {op left right} : Within sub left → Within sub (.compare op left right)
  | right {op left right} : Within sub right → Within sub (.compare op left right)
  | not {inner} : Within sub inner → Within sub (.not inner)
  | and {terms term} : term ∈ terms → Within sub term → Within sub (.and terms)
  | or {terms term} : term ∈ terms → Within sub term → Within sub (.or terms)

/-- The nodes from an expression down to one without children, each right below the one before. -/
inductive Path : Expr → List Expr → Prop where
  | leaf {e} : e.children = [] → Path e [e]
  | step {e child nodes} : child ∈ e.children → Path child nodes → Path e (e :: nodes)

/-- No path down from the expression has more than `n` nodes. -/
inductive HeightAtMost : Nat → Expr → Prop where
  | intro {n e} : (∀ child ∈ e.children, HeightAtMost n child) → HeightAtMost (n + 1) e

/-- The parts of a well-formed expression are well formed. -/
lemma WellFormed.within {sub e : Expr} (h : e.WellFormed) (inside : Within sub e) :
    sub.WellFormed := by
  induction inside with
  | here => exact h
  | left _ ih =>
    cases h with
    | compare left _ => exact ih left
  | right _ ih =>
    cases h with
    | compare _ right => exact ih right
  | not _ ih =>
    cases h with
    | not inner => exact ih inner
  | and mem _ ih =>
    cases h with
    | and _ terms => exact ih (terms _ mem)
  | or mem _ ih =>
    cases h with
    | or _ terms => exact ih (terms _ mem)

namespace HeightAtMost

variable {m n : Nat} {e : Expr}

/-- A bound on the height holds with any greater one. -/
lemma mono (h : HeightAtMost m e) (le : m ≤ n) : HeightAtMost n e := by
  induction h generalizing n with
  | intro _ ih =>
    obtain ⟨n, rfl⟩ := Nat.exists_eq_add_of_le' (Nat.le_trans (Nat.succ_le_succ (Nat.zero_le _)) le)
    exact .intro fun child mem => ih child mem (Nat.le_of_succ_le_succ le)

/-- A chain is one node above its terms, however many they are. -/
lemma chain {connective : List Expr → Expr} (below : ∀ es, (connective es).children = es)
    {es : List Expr} (ne : es ≠ []) (h : ∀ e ∈ es, HeightAtMost n e) :
    HeightAtMost (n + 1) (Expr.chain connective es) := by
  apply chain_induction ne
  · intro e mem
    exact (h e mem).mono (Nat.le_succ n)
  · intro _
    rw [← below es] at h
    exact .intro h

/-- A path into an expression is no longer than its height. -/
lemma length_le (h : HeightAtMost n e) {nodes : List Expr} (path : Path e nodes) :
    nodes.length ≤ n := by
  induction h generalizing nodes with
  | intro _ ih =>
    cases path with
    | leaf => exact Nat.succ_le_succ (Nat.zero_le _)
    | step mem below => exact Nat.succ_le_succ (ih _ mem below)

end HeightAtMost

section

variable {β : Type}

/-- `step` puts the answer for an expression together from those for its children, as `answer`
does. -/
structure IsStepOf (step : (Expr → β) → Expr → β) (answer : Expr → β) : Prop where
  asks : ∀ {f g e}, (∀ child ∈ e.children, f child = g child) → step f e = step g e
  fixed : ∀ e, step answer e = answer e

/-- A recursion that is cut off below the height of an expression does not show in its answer. -/
theorem HeightAtMost.iterate_eq {n : Nat} {e : Expr} {step : (Expr → β) → Expr → β}
    {answer : Expr → β} (h : HeightAtMost n e) (hs : IsStepOf step answer) (rest : Expr → β) :
    step^[n] rest e = answer e := by
  induction h with
  | @intro n e _ ih =>
    rw [Function.iterate_succ_apply']
    exact (hs.asks ih).trans (hs.fixed e)

end

end LoanDesk.Expr
