import Mathlib.Data.Rat.Floor
import LoanDesk.Proofs.Amount
import LoanDesk.Proofs.Purchase

/-!
# As far as the cash reaches

Read with exact fractions, a plan orders as many loans as whole amounts are in the cash, as long as
there are loans to order.  So it never costs more than the cash, it leaves loans over only if
another order would, and more cash adds orders behind those that there were.  A loan without an id
is reported if it stands in front of the last loan ordered, or anywhere if the loans run out first
(`Plan.SplitsAt`).

Main statement: `Plan.ofCandidates_exact`.
-/

namespace LoanDesk.Plan

/-- The loans that have an id. -/
def orderable (loans : List Loan) : List Loan := loans.filter fun loan => loan.id?.isSome

/-- The loans are split in front of the `count`-th of them that has an id, or at the end if fewer
have one; the zeroth stands in front of all of them. -/
inductive SplitsAt (count : Nat) : List Loan → List Loan → Prop where
  | start {back} : count = 0 → SplitsAt count [] back
  | before {front loan back} :
    loan.id?.isSome = true → (orderable front).length + 1 = count →
    SplitsAt count front (loan :: back)
  | atEnd {front} : (orderable front).length < count → SplitsAt count front []

namespace SplitsAt

variable {count : Nat} {front back : List Loan} {loan : Loan}

/-- One more loan with an id in front moves the split by one. -/
lemma cons_orderable (h : SplitsAt (count + 1) front back) (hid : loan.id?.isSome = true) :
    SplitsAt (count + 2) (loan :: front) back := by
  have more : (orderable (loan :: front)).length = (orderable front).length + 1 := by
    simp [orderable, hid]
  cases h with
  | start zero => cases zero
  | before last position => exact .before last (by omega)
  | atEnd few => exact .atEnd (by omega)

/-- One more loan without an id in front leaves the split where it is. -/
lemma cons_skipped (h : SplitsAt (count + 1) front back) (hid : loan.id? = none) :
    SplitsAt (count + 1) (loan :: front) back := by
  have same : orderable (loan :: front) = orderable front := by simp [orderable, hid]
  cases h with
  | start zero => cases zero
  | before last position => exact .before last (by rw [same, position])
  | atEnd few => exact .atEnd (by rwa [same])

end SplitsAt

/-- What is logged are the loans without an id in front of the last one taken, or all of them if
the loans run out. -/
lemma take_log (count : Nat) (loans : List Loan) :
    ∃ front back, loans = front ++ back ∧ SplitsAt count front back ∧
      (take count loans).2 = (front.filter fun loan => loan.id?.isNone).map skipWarning := by
  induction loans generalizing count with
  | nil =>
    cases count with
    | zero => exact ⟨[], [], rfl, .start rfl, rfl⟩
    | succ count => exact ⟨[], [], rfl, .atEnd (Nat.succ_pos count), rfl⟩
  | cons loan loans ih =>
    cases count with
    | zero => exact ⟨[], loan :: loans, rfl, .start rfl, rfl⟩
    | succ count =>
      cases hid : loan.id? with
      | none =>
        obtain ⟨front, back, rfl, split, log⟩ := ih (count + 1)
        refine ⟨loan :: front, back, rfl, split.cons_skipped hid, ?_⟩
        rw [take, hid]
        simp [hid, log]
      | some id =>
        have named : loan.id?.isSome = true := by rw [hid]; rfl
        rw [take, hid]
        cases count with
        | zero =>
          -- The loan is the last one taken, and nothing stands in front of it.
          exact ⟨[], loan :: loans, rfl, .before named rfl, by simp [take]⟩
        | succ count =>
          obtain ⟨front, back, rfl, split, log⟩ := ih (count + 1)
          exact ⟨loan :: front, back, rfl, split.cons_orderable named, by simp [hid, log]⟩

/-- The loans with an id and the ids go in step. -/
lemma forall₂_orderable (loans : List Loan) :
    List.Forall₂ (fun loan id => loan.id? = some id) (orderable loans)
      (loans.filterMap Loan.id?) := by
  induction loans with
  | nil => exact .nil
  | cons loan loans ih =>
    cases hid : loan.id? with
    | none => simpa [orderable, hid] using ih
    | some id => simpa [orderable, hid] using ih

/-! ### What the orders cost -/

section

variable {cash amount : Rat} {candidates : List Loan} {portfolioId accountId : Option String}

/-- As many orders are affordable as the amount goes into the cash, and none without both. -/
lemma affordable_eq_floor (cash amount : Rat) :
    affordable cash amount = if 0 < cash ∧ 0 < amount then ⌊cash / amount⌋₊ else 0 := by
  have units : (cash / amount).floor.toNat = ⌊cash / amount⌋₊ := by
    rw [← Int.floor_toNat]
    rfl
  simp only [affordable, Amount.isPositive, Amount.unitCount, Bool.and_eq_true, decide_eq_true_iff,
    units, and_comm]

/-- More cash affords no fewer orders. -/
lemma affordable_mono {cash' : Rat} (le : cash ≤ cash') :
    affordable cash amount ≤ affordable cash' amount := by
  rw [affordable_eq_floor, affordable_eq_floor]
  split
  next positive =>
    obtain ⟨cashPos, amountPos⟩ := positive
    rw [if_pos ⟨cashPos.trans_le le, amountPos⟩]
    exact Nat.floor_mono (div_le_div_of_nonneg_right le amountPos.le)
  next => exact Nat.zero_le _

/-- The affordable orders cost no more than the cash. -/
lemma affordable_mul_le (nonneg : 0 ≤ cash) : affordable cash amount * amount ≤ cash := by
  rw [affordable_eq_floor]
  split
  next positive =>
    have := Nat.floor_le (div_nonneg nonneg positive.2.le)
    exact (le_div_iff₀ positive.2).1 this
  next => simpa using nonneg

/-- One order more than is affordable costs more than the cash. -/
lemma lt_affordable_succ_mul (positive : 0 < amount) :
    cash < (affordable cash amount + 1) * amount := by
  rw [affordable_eq_floor]
  split
  next => exact (div_lt_iff₀ positive).1 (Nat.lt_floor_add_one _)
  next h =>
    have : cash ≤ 0 := by
      by_contra gt
      exact h ⟨not_le.1 gt, positive⟩
    simp
    linarith

/-- The total is the amount for each order. -/
lemma total_ofCandidates :
    (ofCandidates candidates cash amount portfolioId accountId).1.total =
      (ofCandidates candidates cash amount portfolioId accountId).1.orders.length * amount := by
  rw [total, Amount.sum_eq, ofCandidates_orders, List.map_map, List.length_map]
  have same : Order.amount ∘ (fun id => (⟨id, amount, portfolioId⟩ : Order Rat)) =
      Function.const _ amount := rfl
  rw [same, List.map_const, List.sum_replicate, nsmul_eq_mul]

/-- There are as many orders as are affordable, or as loans have an id if these are fewer. -/
lemma length_orders :
    (ofCandidates candidates cash amount portfolioId accountId).1.orders.length =
      min (affordable cash amount) (orderable candidates).length := by
  rw [ofCandidates_orders, List.length_map, List.length_take, (forall₂_orderable _).length_eq]

/-- The orders are for the first loans with an id, each over the amount. -/
lemma forall₂_orders :
    List.Forall₂ (fun loan order => loan.id? = some order.loanId ∧ order.amount = amount ∧
        order.portfolioId = portfolioId)
      ((orderable candidates).take (min (affordable cash amount) (orderable candidates).length))
      (ofCandidates candidates cash amount portfolioId accountId).1.orders := by
  rw [ofCandidates_orders, List.forall₂_map_right_iff, ← List.take_eq_take_min]
  simp only [and_true]
  exact List.forall₂_take _ (forall₂_orderable candidates)

end

/-- Let `count` be how many whole amounts are in the cash, if both are positive, and zero otherwise.
The orders are for the first `count` of the candidates that have an id, or for all of them if there
are fewer, in their order, each with the amount and the portfolio given.  They cost no more than the
cash, unless that is a debt, and if a candidate with an id is left over one more order would cost
more than the cash.  A warning is logged of each candidate without an id that stands in front of the
`count`-th with one, or of all of them if there are fewer.  With more cash the same orders stand in
front of what is ordered besides. -/
theorem ofCandidates_exact {candidates : List Loan} {cash amount : Rat}
    {portfolioId accountId : Option String} {plan : Plan Rat} {log : List LogLine}
    (h : ofCandidates candidates cash amount portfolioId accountId = (plan, log)) :
    let count := if 0 < cash ∧ 0 < amount then ⌊cash / amount⌋₊ else 0
    List.Forall₂ (fun loan order => loan.id? = some order.loanId ∧ order.amount = amount ∧
        order.portfolioId = portfolioId)
      ((orderable candidates).take (min count (orderable candidates).length)) plan.orders ∧
    (0 ≤ cash → plan.total ≤ cash) ∧
    (0 < amount → plan.orders.length < (orderable candidates).length →
      cash < plan.total + amount) ∧
    (∃ front back, candidates = front ++ back ∧ SplitsAt count front back ∧
      log = (front.filter fun loan => loan.id?.isNone).map skipWarning) ∧
    ∀ cash' plan' log', cash ≤ cash' →
      ofCandidates candidates cash' amount portfolioId accountId = (plan', log') →
      plan.orders <+: plan'.orders := by
  obtain rfl : plan = (ofCandidates candidates cash amount portfolioId accountId).1 := by rw [h]
  obtain rfl : log = (ofCandidates candidates cash amount portfolioId accountId).2 := by rw [h]
  intro count
  have afford : affordable cash amount = count := affordable_eq_floor cash amount
  rw [total_ofCandidates, length_orders]
  refine ⟨afford ▸ forall₂_orders, ?_, ?_, afford ▸ take_log _ candidates, ?_⟩
  · intro nonneg
    rcases lt_or_ge 0 amount with positive | nonpos
    · have fewer : ((min (affordable cash amount) (orderable candidates).length : ℕ) : Rat) ≤
          affordable cash amount := Nat.cast_le.2 (Nat.min_le_left ..)
      calc _ ≤ affordable cash amount * amount := mul_le_mul_of_nonneg_right fewer positive.le
        _ ≤ cash := affordable_mul_le nonneg
    · exact (mul_nonpos_of_nonneg_of_nonpos (Nat.cast_nonneg _) nonpos).trans nonneg
  · intro positive left
    have all : min (affordable cash amount) (orderable candidates).length =
        affordable cash amount := by omega
    have more : cash < (affordable cash amount + 1) * amount := lt_affordable_succ_mul positive
    rw [all]
    linarith
  · intro cash' plan' log' le h'
    obtain rfl : plan' = (ofCandidates candidates cash' amount portfolioId accountId).1 := by
      rw [h']
    rw [ofCandidates_orders, ofCandidates_orders]
    exact (List.take_prefix_take_left (affordable_mono le)).map _

/-- The second of four loans has no id, and the cash pays for two orders and a part of a third. -/
theorem ofCandidates_exact_two :
    let candidates : List Loan := [.ofFields [("id", .number 1)], .ofFields [("term", .number 36)],
      .ofFields [("id", .number 2)], .ofFields [("id", .number 3)]]
    let two : Plan Rat := ⟨none, [⟨"1", 25, none⟩, ⟨"2", 25, none⟩]⟩
    let three : Plan Rat := ⟨none, [⟨"1", 25, none⟩, ⟨"2", 25, none⟩, ⟨"3", 25, none⟩]⟩
    let warnings := [skipWarning (.ofFields [("term", .number 36)])]
    ofCandidates candidates 60 25 none none = (two, warnings) ∧
      ofCandidates candidates 75 25 none none = (three, warnings) ∧
      two.total ≤ 60 ∧ 60 < two.total + 25 ∧ two.orders <+: three.orders := by
  intro candidates two three warnings
  have planned : ofCandidates candidates 60 25 none none = (two, warnings) := by decide +kernel
  have planned' : ofCandidates candidates 75 25 none none = (three, warnings) := by decide +kernel
  obtain ⟨-, within, left, -, grows⟩ := ofCandidates_exact planned
  exact ⟨planned, planned', within (by norm_num), left (by norm_num) (by decide +kernel),
    grows 75 three warnings (by norm_num) planned'⟩

end LoanDesk.Plan
