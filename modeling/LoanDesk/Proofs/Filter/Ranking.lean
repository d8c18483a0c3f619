import LoanDesk.CommandLine.Run
import LoanDesk.Proofs.Filter.Funnel

/-!
# Ranking and filtering

A ranking of loans has those of higher quality first and keeps those of one quality in their order.
There is one ranking of any loans, the one that `Loan.sortByQuality` gives (`Loan.isRanking_iff`),
and the loans in it that meet a condition are the ranking of the loans that meet it
(`Loan.sortByQuality_filter`).  What the filters of a set have counted in the end does not depend on
the order of the loans (`FilterSet.filters_perm`).

Main statement: `FilterSet.filter_sortByQuality`, loans may be ranked before they are filtered or
after.
-/

namespace LoanDesk

namespace Loan

/-- The loans of one quality, in their order. -/
def ofQuality (quality : Int) (loans : List Loan) : List Loan :=
  loans.filter fun loan => loan.quality = quality

/-- The second list has the loans of the first, those of higher quality before those of lower
quality, and those of one quality in the order of the first. -/
structure IsRanking (loans ranked : List Loan) : Prop where
  perm : ranked.Perm loans
  descending : ranked.Pairwise fun a b => b.quality ≤ a.quality
  stable : ∀ quality, ofQuality quality ranked = ofQuality quality loans

/-! ### Loans have one ranking -/

/-- The loans of one quality are those that have it. -/
lemma mem_ofQuality {quality : Int} {loan : Loan} {loans : List Loan} :
    loan ∈ ofQuality quality loans ↔ loan ∈ loans ∧ loan.quality = quality := by
  rw [ofQuality, List.mem_filter, decide_eq_true_iff]

/-- Lists with the same loans of each quality have the same loans. -/
lemma mem_of_ofQuality {as bs : List Loan} (same : ∀ quality, ofQuality quality as =
    ofQuality quality bs) {loan : Loan} (h : loan ∈ as) : loan ∈ bs := by
  have among := mem_ofQuality.2 ⟨h, rfl⟩
  rw [same] at among
  exact (mem_ofQuality.1 among).1

/-- Loans in descending order start with one of the highest quality. -/
lemma quality_le_first {first loan : Loan} {loans : List Loan}
    (h : (first :: loans).Pairwise fun a b => b.quality ≤ a.quality) (mem : loan ∈ first :: loans) :
    loan.quality ≤ first.quality := by
  rcases List.mem_cons.1 mem with rfl | mem
  · exact Int.le_refl _
  · exact (List.pairwise_cons.1 h).1 loan mem

/-- Loans in descending order are known by those of each quality. -/
lemma eq_of_descending {as bs : List Loan} (ha : as.Pairwise fun a b => b.quality ≤ a.quality)
    (hb : bs.Pairwise fun a b => b.quality ≤ a.quality)
    (same : ∀ quality, ofQuality quality as = ofQuality quality bs) : as = bs := by
  induction as generalizing bs with
  | nil =>
    have none : bs = [] := by
      apply List.eq_nil_iff_forall_not_mem.2
      intro b h
      cases mem_of_ofQuality (fun quality => (same quality).symm) h
    exact none.symm
  | cons a as ih =>
    cases bs with
    | nil => cases mem_of_ofQuality same List.mem_cons_self
    | cons b bs =>
      have first : b ∈ a :: as :=
        mem_of_ofQuality (fun quality => (same quality).symm) List.mem_cons_self
      have first' : a ∈ b :: bs := mem_of_ofQuality same List.mem_cons_self
      -- Both lists start with a loan of the highest quality, and so with the same one.
      have level : b.quality = a.quality :=
        Int.le_antisymm (quality_le_first ha first) (quality_le_first hb first')
      have best := same a.quality
      rw [ofQuality, ofQuality, List.filter_cons_of_pos (by simp),
        List.filter_cons_of_pos (by simpa using level)] at best
      obtain ⟨rfl, -⟩ := List.cons.inj best
      refine congrArg (a :: ·) (ih ha.of_cons hb.of_cons ?_)
      intro quality
      have whole := same quality
      rw [ofQuality, ofQuality, List.filter_cons, List.filter_cons] at whole
      split at whole
      · exact (List.cons.inj whole).2
      · exact whole

/-- Sorting by quality ranks the loans. -/
lemma isRanking_sortByQuality (loans : List Loan) : IsRanking loans (sortByQuality loans) := by
  have trans (a b c : Loan) (hab : decide (b.quality ≤ a.quality) = true)
      (hbc : decide (c.quality ≤ b.quality) = true) : decide (c.quality ≤ a.quality) = true :=
    decide_eq_true (Int.le_trans (of_decide_eq_true hbc) (of_decide_eq_true hab))
  have total (a b : Loan) :
      (decide (b.quality ≤ a.quality) || decide (a.quality ≤ b.quality)) = true := by
    rw [Bool.or_eq_true, decide_eq_true_iff, decide_eq_true_iff]
    exact Int.le_total ..
  have perm : (sortByQuality loans).Perm loans := List.mergeSort_perm ..
  refine ⟨perm, ?_, ?_⟩
  · exact (List.pairwise_mergeSort trans total loans).imp of_decide_eq_true
  · intro quality
    -- Loans of one quality are in descending order as they stand, and so are not moved.
    have level : (ofQuality quality loans).Pairwise
        fun a b => decide (b.quality ≤ a.quality) = true := by
      apply List.pairwise_of_forall_mem_list
      intro a ha b hb
      rw [(mem_ofQuality.1 ha).2, (mem_ofQuality.1 hb).2]
      exact decide_eq_true (Int.le_refl _)
    have kept : (ofQuality quality loans).Sublist (sortByQuality loans) :=
      List.sublist_mergeSort trans total level List.filter_sublist
    have among : (ofQuality quality loans).Sublist (ofQuality quality (sortByQuality loans)) := by
      have twice := kept.filter fun loan => decide (loan.quality = quality)
      rwa [ofQuality, List.filter_filter, funext fun loan => Bool.and_self _] at twice
    exact (among.eq_of_length (perm.filter _).length_eq.symm).symm

/-- A list is a ranking of the loans exactly if sorting them by quality gives it. -/
theorem isRanking_iff {loans ranked : List Loan} :
    IsRanking loans ranked ↔ ranked = sortByQuality loans := by
  constructor
  · intro h
    have sorted := isRanking_sortByQuality loans
    apply eq_of_descending h.descending sorted.descending
    intro quality
    rw [h.stable, sorted.stable]
  · rintro rfl
    exact isRanking_sortByQuality loans

/-- What meets a condition is ranked in a ranking as it is alone. -/
lemma IsRanking.filter {loans ranked : List Loan} (h : IsRanking loans ranked) (p : Loan → Bool) :
    IsRanking (loans.filter p) (ranked.filter p) where
  perm := h.perm.filter p
  descending := h.descending.filter p
  stable quality := by
    have same := h.stable quality
    rw [ofQuality, ofQuality] at same ⊢
    rw [List.filter_comm, same, List.filter_comm]

/-- Loans may be filtered before or after they are ranked. -/
lemma sortByQuality_filter (p : Loan → Bool) (loans : List Loan) :
    sortByQuality (loans.filter p) = (sortByQuality loans).filter p :=
  (isRanking_iff.1 ((isRanking_sortByQuality loans).filter p)).symm

end Loan

/-! ### Counting loans in another order -/

/-- The order of the loans plays no part in the tally of a rule. -/
lemma Rule.tally_perm (r : Rule) {loans others : List Loan} (h : others.Perm loans) :
    r.tally others = r.tally loans := by
  rw [tally, tally, h.countP_eq, h.countP_eq, h.countP_eq]

namespace FilterSet

/-- The order of the loans plays no part in the tallies of rules. -/
lemma tallies_perm (rules : List Rule) {loans others : List Loan} (h : others.Perm loans) :
    tallies rules others = tallies rules loans := by
  induction rules generalizing loans others with
  | nil => rfl
  | cons r rs ih => rw [tallies, tallies, r.tally_perm h, ih (h.filter r.keeps)]

/-- The order of the loans makes no difference to what the filters have counted in the end. -/
lemma filters_perm (filters : List Filter) {loans others : List Loan} (h : others.Perm loans) :
    (filter filters others).filters = (filter filters loans).filters := by
  rw [filter_filters, filter_filters, tallies_perm _ h]

/-! ### Ranking first or last -/

variable (filters : List Filter) (loans : List Loan)

/-- A set of filters keeps the same of ranked loans, ranked. -/
lemma sortByQuality_value :
    Loan.sortByQuality (filter filters loans).value =
      (filter filters (Loan.sortByQuality loans)).value := by
  rw [filter_value, filter_value, Loan.sortByQuality_filter]

/-- Owned loans may be dropped before or after the others are ranked. -/
lemma dropOwned_sortByQuality (owned : IdSet) :
    dropOwned owned (Loan.sortByQuality loans) = Loan.sortByQuality (dropOwned owned loans) :=
  (Loan.sortByQuality_filter _ loans).symm

/-- Sorting loans by quality gives their ranking and nothing else: the same loans, in descending
quality, those of one quality in their order.  The ranking of what a set of filters keeps is what
the set keeps of the ranking, and each of its filters has counted the same in the end, whatever it
had counted before.  So a selection, best first, is what is selected from the ranking. -/
theorem filter_sortByQuality :
    (∀ ranked, Loan.IsRanking loans ranked ↔ ranked = Loan.sortByQuality loans) ∧
    Loan.sortByQuality (filter filters loans).value =
      (filter filters (Loan.sortByQuality loans)).value ∧
    (filter filters (Loan.sortByQuality loans)).filters = (filter filters loans).filters ∧
    ∀ owned : IdSet,
      (CommandLine.selectBest filters loans owned).value =
          (select filters (Loan.sortByQuality loans) owned).value ∧
        (select filters (Loan.sortByQuality loans) owned).filters =
          (CommandLine.selectBest filters loans owned).filters := by
  have counted (loans : List Loan) :
      (filter filters (Loan.sortByQuality loans)).filters = (filter filters loans).filters :=
    filters_perm filters (Loan.isRanking_sortByQuality loans).perm
  refine ⟨fun ranked => Loan.isRanking_iff, sortByQuality_value filters loans, counted loans, ?_⟩
  intro owned
  rw [select, dropOwned_sortByQuality]
  exact ⟨sortByQuality_value filters _, counted _⟩

end FilterSet

end LoanDesk
