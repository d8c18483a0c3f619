import LoanDesk.Filter.Set
import LoanDesk.Proofs.Filter.Tally
import Mathlib.Data.List.Chain

/-!
# The filters of a set as a funnel

Filtering with a set is filtering with its first filter, and then filtering what that one passes
with the others (`FilterSet.filter_cons`).  So the counts of the filters make a funnel: the first
filter counts all loans, each other one the loans that the one before it passed, and what the last
one passes is kept (`FilterSet.funnel`).  Which loans are kept does not depend on the order of the
filters, though the counts do.

Main statement: `FilterSet.filter_funnel`.
-/

namespace LoanDesk

namespace FilterSet

/-! ### The first filter and the others -/

variable (loans : List Loan)

/-- The first filter of a set is applied to all loans, and the others filter what it passes.  What
is logged is the same up to its order: a set is done with one loan before it takes the next. -/
theorem filter_cons (f : Filter) (fs : List Filter) :
    (filter (f :: fs) loans).filters =
        loans.foldl Filter.apply f :: (filter fs (loans.filter f.rule.keeps)).filters ∧
      (filter (f :: fs) loans).log.Perm
        (f.rule.warnings loans ++ (filter fs (loans.filter f.rule.keeps)).log) := by
  induction loans generalizing f fs with
  | nil => exact ⟨rfl, .refl _⟩
  | cons loan loans ih =>
    have same : (f.apply loan).rule = f.rule := rfl
    have logged : f.rule.warnings (loan :: loans) =
        f.rule.log loan (f.rule.outcome loan) ++ f.rule.warnings loans := by
      rw [← Rule.flatMap_log, List.flatMap_cons, Rule.flatMap_log]
    rw [List.foldl_cons, List.filter_cons, filter, screen, Rule.keeps, logged]
    cases h : f.rule.outcome loan with
    | passed =>
      obtain ⟨counted, lines⟩ := ih (f.apply loan) (screen loan fs).filters
      rw [same] at counted lines
      rw [Filter.apply, h] at counted lines
      refine ⟨?_, ?_⟩
      · rw [Filter.apply, h]
        exact counted
      · -- The others warn of this loan before the first filter sees the next one.
        refine (lines.append_left _).trans ?_
        rw [← List.append_assoc]
        exact (List.perm_append_comm.append_right _).trans (.of_eq (List.append_assoc ..))
    | rejected =>
      obtain ⟨counted, lines⟩ := ih (f.apply loan) fs
      rw [same] at counted lines
      rw [Filter.apply, h] at counted lines ⊢
      exact ⟨counted, lines⟩
    | broken e =>
      obtain ⟨counted, lines⟩ := ih (f.apply loan) fs
      rw [same] at counted lines
      rw [Filter.apply, h] at counted lines ⊢
      refine ⟨counted, ?_⟩
      rw [List.append_assoc]
      exact lines.append_left _

/-! ### The tally of each filter -/

/-- What rules make of loans, in numbers, each of the loans that the rules before it keep. -/
def tallies : List Rule → List Loan → List Tally
  | [], _ => []
  | r :: rs, loans => r.tally loans :: tallies rs (loans.filter r.keeps)

/-- The warnings of rules about loans, each about the loans that the rules before it keep. -/
def warnings : List Rule → List Loan → List LogLine
  | [], _ => []
  | r :: rs, loans => r.warnings loans ++ warnings rs (loans.filter r.keeps)

/-- There is one tally for each rule. -/
lemma length_tallies (rules : List Rule) : (tallies rules loans).length = rules.length := by
  induction rules generalizing loans with
  | nil => rfl
  | cons r rs ih => exact congrArg (· + 1) (ih _)

/-- Filtering adds to the counts of each filter what it makes of the loans that reach it. -/
lemma filter_filters (filters : List Filter) :
    (filter filters loans).filters =
      filters.zipWith (fun f t => ⟨f.rule, f.counts.add t⟩)
        (tallies (filters.map Filter.rule) loans) := by
  induction filters generalizing loans with
  | nil =>
    induction loans with
    | nil => rfl
    | cons loan loans ih => exact ih
  | cons f fs ih =>
    rw [(filter_cons loans f fs).1, ih, Filter.foldl_apply]
    rfl

/-- Filtering logs the warnings of each filter about the loans that reach it, in some order. -/
lemma filter_log (filters : List Filter) :
    (filter filters loans).log.Perm (warnings (filters.map Filter.rule) loans) := by
  induction filters generalizing loans with
  | nil =>
    induction loans with
    | nil => exact .refl _
    | cons loan loans ih => exact ih
  | cons f fs ih => exact (filter_cons loans f fs).2.trans ((ih _).append_left _)

/-! ### The funnel -/

/-- From one list of filters to another the counts have grown by tallies that make a funnel: the
first filter saw all loans, each other one saw those that the one before it passed, those that the
last one passed are kept, and no filter erred more often than it failed. -/
structure Funnel (before after : List Filter) (seen kept : Nat) (tallies : List Tally) : Prop where
  length : tallies.length = before.length
  grown : after = before.zipWith (fun f t => ⟨f.rule, f.counts.add t⟩) tallies
  first : ∀ t ∈ tallies.head?, t.passed + t.failed = seen
  next : tallies.IsChain fun t u => u.passed + u.failed = t.passed
  last : ∀ t ∈ tallies.getLast?, t.passed = kept
  errors : ∀ t ∈ tallies, t.errors ≤ t.failed

/-- The first rule sees all loans. -/
lemma head_tallies (rules : List Rule) :
    ∀ t ∈ (tallies rules loans).head?, t.passed + t.failed = loans.length := by
  cases rules with
  | nil => exact nofun
  | cons r rs =>
    rintro _ ⟨⟩
    exact r.passed_add_failed loans

/-- Each rule sees the loans that the one before it keeps. -/
lemma isChain_tallies (rules : List Rule) :
    (tallies rules loans).IsChain fun t u => u.passed + u.failed = t.passed := by
  induction rules generalizing loans with
  | nil => exact .nil
  | cons r rs ih =>
    refine List.isChain_cons.2 ⟨?_, ih _⟩
    rw [r.passed_eq_length]
    exact head_tallies _ rs

/-- Loans that meet two conditions meet the second, and are among those that meet the first. -/
lemma filter_and (p q : Loan → Bool) :
    (loans.filter fun loan => p loan && q loan) = (loans.filter p).filter q := by
  rw [List.filter_filter]
  exact List.filter_congr fun loan _ => Bool.and_comm ..

/-- The last rule passes the loans that all rules keep. -/
lemma last_tallies (rules : List Rule) :
    ∀ t ∈ (tallies rules loans).getLast?,
      t.passed = (loans.filter fun loan => rules.all (·.keeps loan)).length := by
  induction rules generalizing loans with
  | nil => exact nofun
  | cons r rs ih =>
    have kept : (loans.filter fun loan => (r :: rs).all (·.keeps loan)) =
        (loans.filter r.keeps).filter fun loan => rs.all (·.keeps loan) := filter_and loans ..
    rw [kept]
    cases rs with
    | nil =>
      rintro _ ⟨⟩
      exact (r.passed_eq_length loans).trans (congrArg List.length (by simp))
    | cons s rs => exact ih (loans.filter r.keeps)

/-- No rule errs more often than it fails. -/
lemma errors_tallies (rules : List Rule) : ∀ t ∈ tallies rules loans, t.errors ≤ t.failed := by
  induction rules generalizing loans with
  | nil => exact nofun
  | cons r rs ih => exact List.forall_mem_cons.2 ⟨r.errors_le_failed loans, ih _⟩

/-- A set of filters keeps what all of their rules keep. -/
lemma keeps_eq_all (filters : List Filter) (loan : Loan) :
    keeps filters loan = (filters.map Filter.rule).all (·.keeps loan) := by
  rw [List.all_map]
  rfl

/-- The counts of a set grow by tallies that make a funnel. -/
theorem funnel (filters : List Filter) :
    Funnel filters (filter filters loans).filters loans.length (filter filters loans).value.length
      (tallies (filters.map Filter.rule) loans) where
  length := by rw [length_tallies, List.length_map]
  grown := filter_filters loans filters
  first := head_tallies loans _
  next := isChain_tallies loans _
  last := by
    rw [filter_value]
    simp only [funext (keeps_eq_all filters)]
    exact last_tallies loans _
  errors := errors_tallies loans _

/-! ### What is kept -/

/-- A set keeps the loans on which each of its filters has the verdict that it passes. -/
lemma filter_value_eq (filters : List Filter) :
    (filter filters loans).value =
      loans.filter fun loan => ∀ f ∈ filters, f.rule.evaluate loan = .ok true := by
  rw [filter_value]
  refine List.filter_congr fun loan _ => ?_
  rw [Bool.eq_iff_iff, keeps, List.all_eq_true, decide_eq_true_iff]
  exact forall₂_congr fun f _ => Rule.keeps_iff

/-- Loans without an id are nobody's. -/
lemma dropOwned_eq (owned : IdSet) :
    dropOwned owned loans =
      loans.filter fun loan => ∀ id ∈ loan.id?, owned.contains id = false := by
  refine List.filter_congr fun loan _ => ?_
  cases loan.id? with
  | none => simp
  | some id => simp

/-- The order of the filters, and what they have counted, make no difference to what is kept. -/
lemma filter_value_perm {filters others : List Filter}
    (h : (others.map Filter.rule).Perm (filters.map Filter.rule)) :
    (filter others loans).value = (filter filters loans).value := by
  rw [filter_value, filter_value]
  refine List.filter_congr fun loan _ => ?_
  rw [keeps_eq_all, keeps_eq_all, h.all_eq]

/-- A set keeps, in their order, the loans that every filter has the verdict to pass, and the counts
of its filters grow as a funnel, whatever was counted before: by tallies of any size, modulo
`2 ^ 64`.  A selection does so with the loans that are not owned.  The same filters in another order
keep the same loans. -/
theorem filter_funnel (filters : List Filter) (loans : List Loan) :
    (filter filters loans).value =
        (loans.filter fun loan => ∀ f ∈ filters, f.rule.evaluate loan = .ok true) ∧
    Funnel filters (filter filters loans).filters loans.length (filter filters loans).value.length
      (tallies (filters.map Filter.rule) loans) ∧
    (∀ owned : IdSet,
      let fresh := loans.filter fun loan => ∀ id ∈ loan.id?, owned.contains id = false
      (select filters loans owned).value =
          (fresh.filter fun loan => ∀ f ∈ filters, f.rule.evaluate loan = .ok true) ∧
        Funnel filters (select filters loans owned).filters fresh.length
          (select filters loans owned).value.length (tallies (filters.map Filter.rule) fresh)) ∧
    ∀ others : List Filter, (others.map Filter.rule).Perm (filters.map Filter.rule) →
      (filter others loans).value = (filter filters loans).value ∧
        ∀ owned, (select others loans owned).value = (select filters loans owned).value := by
  refine ⟨filter_value_eq loans filters, funnel loans filters, ?_, ?_⟩
  · intro owned fresh
    have selected : select filters loans owned = filter filters fresh :=
      congrArg (filter filters) (dropOwned_eq loans owned)
    rw [selected]
    exact ⟨filter_value_eq fresh filters, funnel fresh filters⟩
  · intro others h
    exact ⟨filter_value_perm loans h, fun owned => filter_value_perm (dropOwned owned loans) h⟩

/-- Of four loans the second is owned, the third fails the first filter and the fourth lacks what
the second filter asks for; either order of the filters keeps the first loan alone, and the count
that starts at its end starts over. -/
theorem filter_funnel_four :
    let grade : Filter := ⟨.ofSource "{grade} == C" .inclusion, ⟨18446744073709551615, 0, 0⟩⟩
    let term : Filter := .ofSource "{term} > 36" .exclusion
    let loan (id grade : String) (term : Value) : Loan :=
      .ofFields [("id", .text id), ("grade", .text grade), ("term", term)]
    let loans := [loan "1" "C" (.text "36"), loan "2" "C" (.text "36"), loan "3" "D" (.text "12"),
      loan "4" "C" .null]
    let r := select [grade, term] loans (IdSet.ofList ["2"])
    r.value.map Loan.displayId = ["1"] ∧
      (select [term, grade] loans (IdSet.ofList ["2"])).value = r.value ∧
      r.filters.map Filter.counts = [⟨1, 1, 0⟩, ⟨1, 1, 1⟩] ∧
      Funnel [grade, term] r.filters 3 1 [⟨2, 1, 0⟩, ⟨1, 1, 1⟩] := by
  intro grade term loan loans r
  obtain ⟨-, -, selected, reordered⟩ := filter_funnel [grade, term] loans
  obtain ⟨-, counted⟩ := selected (IdSet.ofList ["2"])
  refine ⟨by decide +kernel, ?_, by decide +kernel, ?_⟩
  · exact (reordered [term, grade] (List.Perm.swap ..)).2 _
  · have fresh : (loans.filter fun loan =>
        ∀ id ∈ loan.id?, (IdSet.ofList ["2"]).contains id = false) =
          [loan "1" "C" (.text "36"), loan "3" "D" (.text "12"), loan "4" "C" .null] := by
      rfl
    have numbers : tallies ([grade, term].map Filter.rule)
        [loan "1" "C" (.text "36"), loan "3" "D" (.text "12"), loan "4" "C" .null] =
          [⟨2, 1, 0⟩, ⟨1, 1, 1⟩] := by
      decide +kernel
    have kept : (select [grade, term] loans (IdSet.ofList ["2"])).value.length = 1 := by
      decide +kernel
    rw [fresh, numbers, kept] at counted
    exact counted

end FilterSet

end LoanDesk
