import LoanDesk.Filter
import Mathlib.Data.List.Perm.Basic

/-!
# How many loans a rule passes

A filter that is applied to loans, one after the other, adds to its counts how many of them its rule
passes, how many it does not pass, and how many of these it has no verdict on
(`Filter.foldl_apply`).  A tally holds these three numbers however large they are; the counts take
them modulo `2 ^ 64`.
-/

namespace LoanDesk

/-- How many loans were passed and how many were not, and on how many of these there was no
verdict. -/
structure Tally where
  passed : Nat
  failed : Nat
  errors : Nat
deriving DecidableEq, Repr

/-- The tally with one more outcome. -/
def Tally.record (t : Tally) : Outcome → Tally
  | .passed => { t with passed := t.passed + 1 }
  | .rejected => { t with failed := t.failed + 1 }
  | .broken _ => { t with failed := t.failed + 1, errors := t.errors + 1 }

namespace Counts

/-- The counts after the loans of a tally. -/
def add (c : Counts) (t : Tally) : Counts :=
  ⟨c.passed + .ofNat t.passed, c.failed + .ofNat t.failed, c.errors + .ofNat t.errors⟩

lemma add_none (c : Counts) : c.add ⟨0, 0, 0⟩ = c := by
  simp [add]

/-- An outcome may be recorded before the others or after them. -/
lemma add_record (c : Counts) (t : Tally) (o : Outcome) :
    (c.record o).add t = c.add (t.record o) := by
  have one_more (c : UInt64) (n : Nat) : c + 1 + .ofNat n = c + .ofNat (n + 1) := by
    rw [UInt64.ofNat_add, UInt64.add_comm (.ofNat n), ← UInt64.add_assoc]
    rfl
  cases o with
  | passed => rw [record, Tally.record, add, add, one_more]
  | rejected => rw [record, Tally.record, add, add, one_more]
  | broken e => rw [record, Tally.record, add, add, one_more, one_more]

end Counts

namespace Rule

/-- What the rule makes of some loans, in numbers. -/
def tally (r : Rule) (loans : List Loan) : Tally where
  passed := loans.countP fun loan => r.evaluate loan = .ok true
  failed := loans.countP fun loan => r.evaluate loan ≠ .ok true
  errors := loans.countP fun loan => !(r.evaluate loan).isOk

/-- The warnings about some loans, one for each loan that the rule has no verdict on. -/
def warnings (r : Rule) (loans : List Loan) : List LogLine :=
  loans.filterMap fun loan =>
    match r.evaluate loan with
    | .ok _ => none
    | .error e =>
      some (.warning ("Filter (" ++ r.source ++ ") could not be evaluated for loan " ++
        loan.displayId ++ ": " ++ e.message))

variable (r : Rule) (loan : Loan) (loans : List Loan)

/-- One more loan adds its outcome to the tally. -/
lemma tally_cons : r.tally (loan :: loans) = (r.tally loans).record (r.outcome loan) := by
  cases h : r.outcome loan with
  | passed =>
    rw [outcome_eq_passed] at h
    simp [tally, Tally.record, h, Except.isOk, Except.toBool]
  | rejected =>
    rw [outcome_eq_rejected] at h
    simp [tally, Tally.record, h, Except.isOk, Except.toBool]
  | broken e =>
    rw [outcome_eq_broken] at h
    simp [tally, Tally.record, h, Except.isOk, Except.toBool]

/-- Each loan is either passed or failed. -/
lemma passed_add_failed : (r.tally loans).passed + (r.tally loans).failed = loans.length := by
  rw [List.length_eq_countP_add_countP fun loan => decide (r.evaluate loan = .ok true)]
  simp only [tally, decide_eq_true_eq]

/-- Want of a verdict is one way not to pass. -/
lemma errors_le_failed : (r.tally loans).errors ≤ (r.tally loans).failed := by
  refine List.countP_mono_left fun loan _ silent => decide_eq_true fun passed => ?_
  rw [passed] at silent
  cases silent

/-- The loans that are passed are those that the rule keeps. -/
lemma passed_eq_length : (r.tally loans).passed = (loans.filter r.keeps).length := by
  rw [tally, ← List.countP_eq_length_filter]
  refine List.countP_congr fun loan _ => ?_
  rw [decide_eq_true_iff, keeps_iff]

/-- The warnings about two lists are those about the one and then the other. -/
lemma warnings_append (as bs : List Loan) :
    r.warnings (as ++ bs) = r.warnings as ++ r.warnings bs :=
  List.filterMap_append

/-- Applying the rule to loans, one after the other, leaves these warnings. -/
lemma flatMap_log :
    (loans.flatMap fun loan => r.log loan (r.outcome loan)) = r.warnings loans := by
  induction loans with
  | nil => rfl
  | cons loan loans ih =>
    rw [List.flatMap_cons, ih, warnings, warnings, List.filterMap_cons, outcome]
    split
    next h => rw [h]; rfl
    next h => rw [h]; rfl
    next e h => rw [h]; rfl

end Rule

/-- What a filter makes of loans is added to its counts. -/
theorem Filter.foldl_apply (f : Filter) (loans : List Loan) :
    loans.foldl apply f = ⟨f.rule, f.counts.add (f.rule.tally loans)⟩ := by
  induction loans generalizing f with
  | nil => exact congrArg (Filter.mk f.rule) f.counts.add_none.symm
  | cons loan loans ih =>
    rw [List.foldl_cons, ih, Rule.tally_cons, ← Counts.add_record]
    rfl

end LoanDesk
