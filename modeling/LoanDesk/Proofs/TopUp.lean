import Mathlib.Data.Rat.Floor
import Mathlib.Order.Bounds.Basic
import Mathlib.Tactic.Linarith
import LoanDesk.TopUp

/-!
# How far a top-up reaches

Read with exact fractions, a shortfall is raised to the greatest multiple that lies at least a cent
below the shortfall and one more multiple: `isGreatest_raiseToMultiple`.  So the amount is less than
a cent short of the shortfall and does not pass it by a whole multiple (`topUp?_bounds`), and it is
short exactly if some multiple lies less than a cent below the shortfall (`topUp?_reaches_iff`).
Where all amounts are whole numbers of cents there is no such multiple, and the amount is the least
one that reaches the balance.
-/

namespace LoanDesk

/-- The amount is a whole number of steps. -/
def IsMultipleOf (step amount : Rat) : Prop := ∃ count : Int, amount = count * step

namespace IsMultipleOf

variable {step x y z : Rat}

lemma zero : IsMultipleOf step 0 := ⟨0, by simp⟩

/-- One step more is a multiple again. -/
lemma add_step (hx : IsMultipleOf step x) : IsMultipleOf step (x + step) := by
  obtain ⟨count, rfl⟩ := hx
  refine ⟨count + 1, ?_⟩
  push_cast
  ring

/-- A multiple of a multiple is a multiple of the first step. -/
lemma trans (hy : IsMultipleOf x y) (hz : IsMultipleOf y z) : IsMultipleOf x z := by
  obtain ⟨j, rfl⟩ := hy
  obtain ⟨k, rfl⟩ := hz
  refine ⟨k * j, ?_⟩
  push_cast
  ring

/-- Different multiples lie at least a step apart. -/
lemma add_step_le (positive : 0 < step) (hx : IsMultipleOf step x) (hy : IsMultipleOf step y)
    (lt : x < y) : x + step ≤ y := by
  obtain ⟨j, rfl⟩ := hx
  obtain ⟨k, rfl⟩ := hy
  have lt : (j : Rat) < k := lt_of_mul_lt_mul_right lt positive.le
  have succ : ((j + 1 : Int) : Rat) ≤ k := Int.cast_le.2 (Int.cast_lt.1 lt)
  calc (j : Rat) * step + step = ((j + 1 : Int) : Rat) * step := by push_cast; ring
    _ ≤ k * step := mul_le_mul_of_nonneg_right succ positive.le

end IsMultipleOf

/-! ### Raising an amount to a multiple -/

section

variable (shortfall : Rat) {multiple : Rat}

/-- Without a positive multiple the shortfall is left as it is. -/
lemma raiseToMultiple_of_nonpos (nonpos : multiple ≤ 0) :
    raiseToMultiple shortfall multiple = shortfall :=
  if_neg fun positive => absurd (of_decide_eq_true positive) (not_lt.2 nonpos)

/-- A positive multiple is taken as often as it fits into the shortfall and a multiple less a
cent. -/
lemma raiseToMultiple_of_pos (positive : 0 < multiple) :
    raiseToMultiple shortfall multiple =
      ⌊(shortfall + (multiple - 1 / 100)) / multiple⌋ * multiple :=
  if_pos (decide_eq_true positive)

/-- The amount raised is the greatest multiple up to a multiple less a cent above the shortfall. -/
theorem isGreatest_raiseToMultiple (positive : 0 < multiple) :
    IsGreatest {x | IsMultipleOf multiple x ∧ x ≤ shortfall + multiple - 1 / 100}
      (raiseToMultiple shortfall multiple) := by
  rw [raiseToMultiple_of_pos _ positive, ← add_sub_assoc]
  refine ⟨⟨⟨_, rfl⟩, ?_⟩, ?_⟩
  · exact (le_div_iff₀ positive).1 (Int.floor_le _)
  · rintro x ⟨⟨count, rfl⟩, le⟩
    have below : (count : Rat) ≤ (shortfall + multiple - 1 / 100) / multiple :=
      (le_div_iff₀ positive).2 le
    exact mul_le_mul_of_nonneg_right (Int.cast_le.2 (Int.le_floor.2 below)) positive.le

/-- The amount raised is a multiple. -/
lemma isMultipleOf_raiseToMultiple (positive : 0 < multiple) :
    IsMultipleOf multiple (raiseToMultiple shortfall multiple) :=
  (isGreatest_raiseToMultiple shortfall positive).1.1

/-- The amount raised is above the shortfall by a multiple less a cent at most. -/
lemma raiseToMultiple_le (positive : 0 < multiple) :
    raiseToMultiple shortfall multiple ≤ shortfall + multiple - 1 / 100 :=
  (isGreatest_raiseToMultiple shortfall positive).1.2

/-- The amount raised is less than a cent short. -/
lemma lt_raiseToMultiple (positive : 0 < multiple) :
    shortfall - 1 / 100 < raiseToMultiple shortfall multiple := by
  by_contra low
  -- Otherwise the next multiple would still be low enough.
  have next := (isMultipleOf_raiseToMultiple shortfall positive).add_step
  have := (isGreatest_raiseToMultiple shortfall positive).2 ⟨next, by linarith⟩
  linarith

/-- Something is raised exactly if a cent or more is missing. -/
lemma raiseToMultiple_pos_iff (positive : 0 < multiple) :
    0 < raiseToMultiple shortfall multiple ↔ 1 / 100 ≤ shortfall := by
  constructor
  · intro pos
    have raised := isMultipleOf_raiseToMultiple shortfall positive
    have first := IsMultipleOf.zero.add_step_le positive raised pos
    have := raiseToMultiple_le shortfall positive
    linarith
  · intro cent
    have first : IsMultipleOf multiple multiple := ⟨1, by simp⟩
    have := (isGreatest_raiseToMultiple shortfall positive).2 ⟨first, by linarith⟩
    linarith

/-- The amount raised reaches the shortfall unless a multiple lies less than a cent below it. -/
lemma le_raiseToMultiple_iff (positive : 0 < multiple) :
    shortfall ≤ raiseToMultiple shortfall multiple ↔
      ∀ x, IsMultipleOf multiple x → x < shortfall → x + 1 / 100 ≤ shortfall := by
  have raised := isMultipleOf_raiseToMultiple shortfall positive
  constructor
  · intro reached x hx below
    have apart := hx.add_step_le positive raised (below.trans_le reached)
    have := raiseToMultiple_le shortfall positive
    linarith
  · intro clear
    by_contra short
    have := clear _ raised (not_le.1 short)
    have := lt_raiseToMultiple shortfall positive
    linarith

variable {shortfall} in
/-- No multiple that reaches the shortfall is below the amount raised. -/
lemma raiseToMultiple_le_of_reaches (positive : 0 < multiple) {x : Rat}
    (hx : IsMultipleOf multiple x) (reaches : shortfall ≤ x) :
    raiseToMultiple shortfall multiple ≤ x := by
  by_contra above
  have apart := hx.add_step_le positive (isMultipleOf_raiseToMultiple _ positive) (not_le.1 above)
  have := raiseToMultiple_le shortfall positive
  linarith

variable {shortfall} in
/-- On whole cents the amount raised reaches the shortfall. -/
lemma le_raiseToMultiple_of_cents (positive : 0 < multiple)
    (cents : IsMultipleOf (1 / 100) shortfall) (wholeCents : IsMultipleOf (1 / 100) multiple) :
    shortfall ≤ raiseToMultiple shortfall multiple :=
  (le_raiseToMultiple_iff _ positive).2 fun _ hx below =>
    (wholeCents.trans hx).add_step_le (by norm_num) cents below

end

/-! ### The amount of a top-up -/

variable {cash pending minBalance multiple amount : Rat}

/-- A top-up is due exactly if the cash is below the balance and stays there with the pending
transfers; it is the shortfall, raised to a multiple. -/
lemma topUp?_eq_some_iff :
    topUp? cash pending minBalance multiple = some amount ↔
      (cash < minBalance ∧ 0 < minBalance - (cash + pending)) ∧
        amount = raiseToMultiple (minBalance - (cash + pending)) multiple := by
  simp only [topUp?, Amount.atMost, decide_eq_true_eq]
  split
  next enough => simp [not_lt.2 enough]
  next low =>
    split
    next enough => simp [not_lt.2 enough]
    next short =>
      have needed : cash < minBalance ∧ 0 < minBalance - (cash + pending) :=
        ⟨not_le.1 low, sub_pos.2 (not_le.1 short)⟩
      rw [Option.some_inj, and_iff_right needed, eq_comm]

/-- A top-up is made exactly if the cash is below the least balance and there is a shortfall.  With
a positive multiple its amount is a whole number of multiples, more than the shortfall less a cent,
and at least a cent below the shortfall and one more multiple.  If the shortfall and the multiple
are whole numbers of cents, it is the least positive multiple that covers the shortfall.  Without a
positive multiple it is the shortfall. -/
theorem topUp?_bounds (cash pending minBalance multiple : Rat) :
    let shortfall := minBalance - (cash + pending)
    (topUp? cash pending minBalance multiple = none ↔ minBalance ≤ cash ∨ shortfall ≤ 0) ∧
    (¬(minBalance ≤ cash ∨ shortfall ≤ 0) →
      ∃ amount, topUp? cash pending minBalance multiple = some amount ∧
        (0 < multiple →
          IsMultipleOf multiple amount ∧
          shortfall - 1 / 100 < amount ∧ amount ≤ shortfall + multiple - 1 / 100 ∧
          amount < shortfall + multiple ∧
          (IsMultipleOf (1 / 100) shortfall → IsMultipleOf (1 / 100) multiple →
            IsLeast {x | 0 < x ∧ IsMultipleOf multiple x ∧ shortfall ≤ x} amount)) ∧
        (multiple ≤ 0 → amount = shortfall)) := by
  intro shortfall
  have made (needed : ¬(minBalance ≤ cash ∨ shortfall ≤ 0)) :
      topUp? cash pending minBalance multiple = some (raiseToMultiple shortfall multiple) := by
    rw [not_or, not_le, not_le] at needed
    exact topUp?_eq_some_iff.2 ⟨needed, rfl⟩
  refine ⟨⟨fun unmade => ?_, fun enough => ?_⟩, fun needed => ⟨_, made needed, ?_, ?_⟩⟩
  · by_contra needed
    rw [made needed] at unmade
    cases unmade
  · rw [Option.eq_none_iff_forall_ne_some]
    intro amount h
    obtain ⟨⟨low, short⟩, -⟩ := topUp?_eq_some_iff.1 h
    exact enough.elim low.not_ge short.not_ge
  · intro positive
    have bound := raiseToMultiple_le shortfall positive
    refine ⟨isMultipleOf_raiseToMultiple _ positive, lt_raiseToMultiple _ positive, bound,
      by linarith, fun cents wholeCents => ?_⟩
    have reaches := le_raiseToMultiple_of_cents positive cents wholeCents
    have short : 0 < shortfall := not_le.1 fun covered => needed (.inr covered)
    refine ⟨⟨short.trans_le reaches, isMultipleOf_raiseToMultiple _ positive, reaches⟩, ?_⟩
    rintro x ⟨-, hx, covers⟩
    exact raiseToMultiple_le_of_reaches positive hx covers
  · exact raiseToMultiple_of_nonpos _

/-- A shortfall five cents above a multiple is raised to the next one. -/
theorem topUp?_bounds_cents :
    topUp? (75 : Rat) (1 / 4) 100 (247 / 20) = some (741 / 20) ∧
      IsLeast {x | 0 < x ∧ IsMultipleOf (247 / 20) x ∧ 99 / 4 ≤ x} (741 / 20) := by
  have made : topUp? (75 : Rat) (1 / 4) 100 (247 / 20) = some (741 / 20) := by decide +kernel
  obtain ⟨-, needed⟩ := topUp?_bounds 75 (1 / 4) 100 (247 / 20)
  obtain ⟨amount, same, raised, -⟩ := needed (by norm_num)
  obtain rfl : 741 / 20 = amount := Option.some_inj.1 (made.symm.trans same)
  obtain ⟨-, -, -, -, least⟩ := raised (by norm_num)
  refine ⟨made, ?_⟩
  have shortfall : (100 : Rat) - (75 + 1 / 4) = 99 / 4 := by norm_num
  rw [shortfall] at least
  exact least ⟨2475, by norm_num⟩ ⟨1235, by norm_num⟩

/-- Let the multiple be positive.  With the amount transferred the balance is reached exactly if no
multiple lies below the shortfall by less than a cent, and it is never missed by a cent; the amount
is positive exactly if a cent or more falls short.  If the shortfall and the multiple are whole
numbers of cents, the amount is positive and the balance is reached. -/
theorem topUp?_reaches_iff (positive : 0 < multiple)
    (h : topUp? cash pending minBalance multiple = some amount) :
    let shortfall := minBalance - (cash + pending)
    (minBalance ≤ cash + pending + amount ↔
      ∀ x, IsMultipleOf multiple x → x < shortfall → x + 1 / 100 ≤ shortfall) ∧
    minBalance - 1 / 100 < cash + pending + amount ∧
    (0 < amount ↔ 1 / 100 ≤ shortfall) ∧
    (IsMultipleOf (1 / 100) shortfall → IsMultipleOf (1 / 100) multiple →
      0 < amount ∧ minBalance ≤ cash + pending + amount) := by
  intro shortfall
  obtain ⟨⟨-, short⟩, rfl⟩ := topUp?_eq_some_iff.1 h
  have reaches : minBalance ≤ cash + pending + raiseToMultiple shortfall multiple ↔
      shortfall ≤ raiseToMultiple shortfall multiple := sub_le_iff_le_add'.symm
  rw [reaches]
  refine ⟨le_raiseToMultiple_iff _ positive, ?_, raiseToMultiple_pos_iff _ positive, ?_⟩
  · have : shortfall - 1 / 100 < raiseToMultiple shortfall multiple := lt_raiseToMultiple _ positive
    have : shortfall = minBalance - (cash + pending) := rfl
    linarith
  · intro cents wholeCents
    have covered := le_raiseToMultiple_of_cents positive cents wholeCents
    exact ⟨short.trans_le covered, covered⟩

/-- A shortfall one cent above a multiple is covered. -/
theorem topUp?_reaches_iff_cent :
    (0 : Rat) < 25 ∧ topUp? (0 : Rat) 0 (2501 / 100) 25 = some 50 ∧
      (2501 / 100 : Rat) ≤ 0 + 0 + 50 ∧ (0 : Rat) < 50 := by
  have made : topUp? (0 : Rat) 0 (2501 / 100) 25 = some 50 := by decide +kernel
  obtain ⟨-, -, -, reaches⟩ := topUp?_reaches_iff (by norm_num) made
  obtain ⟨positive, reached⟩ := reaches ⟨2501, by norm_num⟩ ⟨2500, by norm_num⟩
  exact ⟨by norm_num, made, reached, positive⟩

/-- A shortfall less than a cent above a multiple is not covered: the amount stays at the multiple,
also if that is nothing, and with a multiple of less than a cent it may be negative.  All of these
are binary numbers, and exact fractions make no difference. -/
theorem topUp?_short_of_balance :
    topUp? (0 : Float) 0 (6401 / 256) 25 = some 25 ∧ topUp? (0 : Float) 0 (1 / 256) 25 = some 0 ∧
      topUp? (0 : Float) 0 (1 / 1024) (1 / 1024) = some (-9 / 1024) ∧
      ¬∀ cash pending minBalance multiple amount : Rat, 0 < multiple →
        topUp? cash pending minBalance multiple = some amount →
        0 < amount ∧ minBalance ≤ cash + pending + amount := by
  refine ⟨by decide +kernel, by decide +kernel, by decide +kernel, fun promise => ?_⟩
  have made : topUp? (0 : Rat) 0 (6401 / 256) 25 = some 25 := by decide +kernel
  obtain ⟨-, reached⟩ := promise 0 0 (6401 / 256) 25 25 (by norm_num) made
  norm_num at reached

end LoanDesk
