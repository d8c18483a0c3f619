import LoanDesk.Filter
import LoanDesk.Listing

/-!
# Filter sets

The filters of a set are applied in order, and the first that does not pass a loan ends the matter,
so the filters after it do not count the loan.  A loan is selected if it is not owned and all
filters pass it.

Main statements: `screen_value` and `filter_value`, which loans are kept.
-/

namespace LoanDesk

/-- A result together with the filters after it and what was logged on the way. -/
structure Screening (α : Type) where
  value : α
  filters : List Filter
  log : List LogLine

namespace FilterSet

/-- Whether all filters pass a loan. -/
def screen (loan : Loan) : List Filter → Screening Bool
  | [] => ⟨true, [], []⟩
  | f :: fs =>
    match f.rule.outcome loan with
    | .passed =>
      let others := screen loan fs
      ⟨others.value, f.count .passed :: others.filters, others.log⟩
    | o => ⟨false, f.count o :: fs, f.rule.log loan o⟩

/-- The loans that all filters pass, in their order. -/
def filter (filters : List Filter) : List Loan → Screening (List Loan)
  | [] => ⟨[], filters, []⟩
  | loan :: loans =>
    let first := screen loan filters
    let others := filter first.filters loans
    ⟨if first.value then loan :: others.value else others.value, others.filters,
      first.log ++ others.log⟩

/-- The loans whose id is not among the owned ones, and those without an id. -/
def dropOwned (owned : IdSet) (loans : List Loan) : List Loan :=
  loans.filter fun loan =>
    match loan.id? with
    | none => true
    | some id => !owned.contains id

/-- The loans that are not owned and that all filters pass, in their order. -/
def select (filters : List Filter) (loans : List Loan) (owned : IdSet) : Screening (List Loan) :=
  filter filters (dropOwned owned loans)

/-- Whether the rules of all filters keep a loan. -/
def keeps (filters : List Filter) (loan : Loan) : Bool := filters.all fun f => f.rule.keeps loan

/-- Screening a loan answers whether the filters keep it. -/
theorem screen_value (loan : Loan) (filters : List Filter) :
    (screen loan filters).value = keeps filters loan := by
  induction filters with
  | nil => rfl
  | cons f fs ih =>
    rw [screen, keeps, List.all_cons, Rule.keeps]
    split
    next h => simp [h, Outcome.keeps, ih, keeps]
    next o h =>
      have : (f.rule.outcome loan).keeps = false := by
        cases ho : f.rule.outcome loan with
        | passed => exact absurd ho h
        | _ => rfl
      simp [this]

/-- Applying a set changes the counts of its filters alone. -/
theorem screen_rules (loan : Loan) (filters : List Filter) :
    (screen loan filters).filters.map Filter.rule = filters.map Filter.rule := by
  induction filters with
  | nil => rfl
  | cons f fs ih =>
    rw [screen]
    split
    · simp only [List.map_cons, ih]
      rfl
    · rfl

/-- What filters keep depends on their rules alone, not on their counts. -/
theorem keeps_eq_of_rules {fs gs : List Filter} (h : fs.map Filter.rule = gs.map Filter.rule)
    (loan : Loan) : keeps fs loan = keeps gs loan := by
  have all_map (fs : List Filter) : keeps fs loan = (fs.map Filter.rule).all (·.keeps loan) := by
    rw [List.all_map]
    rfl
  rw [all_map, all_map, h]

/-- Filtering a list leaves the loans that the filters keep. -/
theorem filter_value (filters : List Filter) (loans : List Loan) :
    (filter filters loans).value = loans.filter (keeps filters) := by
  induction loans generalizing filters with
  | nil => rfl
  | cons loan loans ih =>
    rw [filter, List.filter_cons, ← screen_value, ih,
      funext (keeps_eq_of_rules (screen_rules loan filters))]

end FilterSet

end LoanDesk
