import LoanDesk.CommandLine.Run
import LoanDesk.Proofs.Listing

/-!
# Which loans are bought

A plan buys from the listing, in its order, the loans that are not owned and that every configured
condition speaks for (`FilterConfig.Admits`), as far as the cash reaches.  A condition that is no
expression or that cannot be evaluated speaks for no loan.  Loans of a listing all have the quality
of a loan that nobody has ranked, so ranking them leaves them in their order.

Main statement: `FilterConfig.orders_eq`.
-/

namespace LoanDesk

/-- The source is an expression, and evaluating it on the loan comes to the verdict. -/
def Loan.Gives (loan : Loan) (source : String) (verdict : Bool) : Prop :=
  ∃ e, Expr.parse source = .ok e ∧ loan.satisfies e = .ok verdict

instance (loan : Loan) (source : String) (verdict : Bool) :
    Decidable (loan.Gives source verdict) :=
  match h : Expr.parse source with
  | .error _ => .isFalse (by simp [Loan.Gives, h])
  | .ok e =>
    match hs : loan.satisfies e with
    | .error _ => .isFalse (by simp [Loan.Gives, h, hs])
    | .ok held => decidable_of_iff (held = verdict) (by simp [Loan.Gives, h, hs])

/-- The loan is not owned, each basic condition holds of it, and each exclusion does not. -/
structure FilterConfig.Admits (c : FilterConfig) (owned : IdSet) (loan : Loan) : Prop where
  fresh : ∀ id ∈ loan.id?, owned.contains id = false
  inclusions : ∀ entry ∈ c.inclusions, loan.Gives entry.source true
  exclusions : ∀ entry ∈ c.exclusions, loan.Gives entry.source false

instance (c : FilterConfig) (owned : IdSet) (loan : Loan) : Decidable (c.Admits owned loan) :=
  decidable_of_iff ((∀ id ∈ loan.id?, owned.contains id = false) ∧
      (∀ entry ∈ c.inclusions, loan.Gives entry.source true) ∧
      ∀ entry ∈ c.exclusions, loan.Gives entry.source false)
    ⟨fun ⟨fresh, inclusions, exclusions⟩ => ⟨fresh, inclusions, exclusions⟩,
      fun ⟨fresh, inclusions, exclusions⟩ => ⟨fresh, inclusions, exclusions⟩⟩

/-! ### What the filters keep -/

/-- A rule keeps the loans of which its condition has the verdict that its polarity asks for. -/
lemma Rule.keeps_ofSource {source : String} {polarity : Polarity} {loan : Loan} :
    (Rule.ofSource source polarity).keeps loan = true ↔
      loan.Gives source (polarity.passes true) := by
  rw [Rule.keeps_iff, Rule.evaluate, Rule.ofSource, Loan.Gives]
  split
  next e h => simp only at h; simp [h]
  next e h =>
    simp only at h
    split
    next fault hs => simp [h, hs]
    next held hs => cases polarity <;> simp [h, hs, Polarity.passes]

namespace FilterConfig

variable {c : FilterConfig} {owned : IdSet} {loan : Loan} {loans : List Loan}

/-- The filters of a configuration keep a loan exactly if every condition speaks for it. -/
lemma keeps_build : FilterSet.keeps c.build.1 loan = true ↔
    (∀ entry ∈ c.inclusions, loan.Gives entry.source true) ∧
      ∀ entry ∈ c.exclusions, loan.Gives entry.source false := by
  rw [FilterSet.keeps, build, rules]
  simp only [List.all_map, List.all_append, Bool.and_eq_true, List.all_eq_true,
    Function.comp_apply, Rule.keeps_ofSource, Polarity.passes, Bool.not_true]

/-- What is selected with the filters of a configuration is what it admits. -/
lemma select_value : (FilterSet.select c.build.1 loans owned).value =
    loans.filter fun loan => c.Admits owned loan := by
  rw [FilterSet.select, FilterSet.filter_value, FilterSet.dropOwned, List.filter_filter]
  apply List.filter_congr
  intro loan _
  rw [Bool.eq_iff_iff, Bool.and_eq_true, keeps_build, decide_eq_true_iff]
  constructor
  · rintro ⟨⟨inclusions, exclusions⟩, fresh⟩
    refine ⟨?_, inclusions, exclusions⟩
    intro id hid
    simpa [Option.mem_def.1 hid] using fresh
  · rintro ⟨fresh, inclusions, exclusions⟩
    refine ⟨⟨inclusions, exclusions⟩, ?_⟩
    split
    next => rfl
    next id hid => simp [fresh id hid]

end FilterConfig

/-! ### Ranking a listing -/

/-- Ranking loans of one quality leaves them in their order. -/
lemma Loan.sortByQuality_eq {quality : Int} {loans : List Loan}
    (h : ∀ loan ∈ loans, loan.quality = quality) : sortByQuality loans = loans := by
  refine List.mergeSort_of_pairwise (List.pairwise_of_forall_mem_list ?_)
  intro a ha b hb
  rw [h a ha, h b hb]
  exact decide_eq_true (Int.le_refl _)

/-! ### What is ordered -/

namespace Plan

/-- The ids taken are those of the first loans that have one. -/
lemma take_ids (count : Nat) (loans : List Loan) :
    (take count loans).1 = (loans.filterMap Loan.id?).take count := by
  induction loans generalizing count with
  | nil => cases count <;> simp [take]
  | cons loan loans ih =>
    cases count with
    | zero => simp [take]
    | succ count =>
      rw [take, List.filterMap_cons]
      split
      next id hid => simp [hid, ih]
      next hid => simp [hid, ih]

variable {α : Type} [Amount α]

/-- The orders are for the first ids that are affordable, each over the amount. -/
lemma ofCandidates_orders (candidates : List Loan) (cash amount : α)
    (portfolioId accountId : Option String) :
    (ofCandidates candidates cash amount portfolioId accountId).1.orders =
      ((candidates.filterMap Loan.id?).take (affordable cash amount)).map
        (⟨·, amount, portfolioId⟩) := by
  rw [← take_ids]
  rfl

end Plan

/-- The orders of a plan (`CommandLine.plan`) with the filters of a configuration, the loans of a
listing and the owned ids. -/
def FilterConfig.orders {α : Type} [Amount α] (c : FilterConfig) (loans : List Loan) (owned : IdSet)
    (cash amount : α) (portfolioId accountId : Option String) : List (Order α) :=
  (Plan.ofCandidates (CommandLine.selectBest c.build.1 loans owned).value cash amount portfolioId
    accountId).1.orders

/-- A loan that is admitted has a verdict from every condition. -/
lemma FilterConfig.Admits.parsed {c : FilterConfig} {owned : IdSet} {loan : Loan}
    (h : c.Admits owned loan) {entry : FilterEntry}
    (hentry : entry ∈ c.inclusions ++ c.exclusions) :
    ∃ verdict, loan.Gives entry.source verdict := by
  rcases List.mem_append.1 hentry with hentry | hentry
  · exact ⟨true, h.inclusions entry hentry⟩
  · exact ⟨false, h.exclusions entry hentry⟩

/-- The orders of a plan are for the ids of the first loans of the listing that are not owned, of
which every basic condition holds and no exclusion does, and which have an id, as many as the cash
pays for.  So each order is for a loan of the listing on which no condition fails to parse or to
evaluate, a single condition that does not parse leaves nothing to order, and ranking the selected
loans does not move them, since all loans of a listing have the same quality. -/
theorem FilterConfig.orders_eq {α : Type} [Amount α] {c : FilterConfig} {text : String}
    {loans : List Loan} (h : Listing.read text = .ok loans) (owned : IdSet) (cash amount : α)
    (portfolioId accountId : Option String) :
    c.orders loans owned cash amount portfolioId accountId =
      (((loans.filter fun loan => c.Admits owned loan).filterMap Loan.id?).take
        (Plan.affordable cash amount)).map (⟨·, amount, portfolioId⟩) ∧
    (∀ order ∈ c.orders loans owned cash amount portfolioId accountId, ∃ loan ∈ loans,
      loan.id? = some order.loanId ∧ c.Admits owned loan ∧
        ∀ entry ∈ c.inclusions ++ c.exclusions, ∃ e verdict,
          Expr.parse entry.source = .ok e ∧ loan.satisfies e = .ok verdict) ∧
    ((∃ entry ∈ c.inclusions ++ c.exclusions, ∃ fault, Expr.parse entry.source = .error fault) →
      c.orders loans owned cash amount portfolioId accountId = []) ∧
    (∀ loan ∈ loans, loan.quality = Loan.defaultQuality) ∧
    (CommandLine.selectBest c.build.1 loans owned).value =
      (FilterSet.select c.build.1 loans owned).value := by
  have quality : ∀ loan ∈ loans, loan.quality = Loan.defaultQuality :=
    fun _ => Listing.quality_of_read h
  -- Sorting is stable, and the selected loans all have the quality of the listing.
  have order : (CommandLine.selectBest c.build.1 loans owned).value =
      (FilterSet.select c.build.1 loans owned).value := by
    refine Loan.sortByQuality_eq fun loan hloan => quality loan ?_
    rw [select_value] at hloan
    exact (List.mem_filter.1 hloan).1
  have orders : c.orders loans owned cash amount portfolioId accountId =
      (((loans.filter fun loan => c.Admits owned loan).filterMap Loan.id?).take
        (Plan.affordable cash amount)).map (⟨·, amount, portfolioId⟩) := by
    rw [FilterConfig.orders, Plan.ofCandidates_orders, order, select_value]
  have bought : ∀ order ∈ c.orders loans owned cash amount portfolioId accountId, ∃ loan ∈ loans,
      loan.id? = some order.loanId ∧ c.Admits owned loan := by
    intro order horder
    rw [orders] at horder
    obtain ⟨id, hid, rfl⟩ := List.mem_map.1 horder
    obtain ⟨loan, hloan, hget⟩ := List.mem_filterMap.1 (List.mem_of_mem_take hid)
    obtain ⟨hmem, admits⟩ := List.mem_filter.1 hloan
    exact ⟨loan, hmem, hget, of_decide_eq_true admits⟩
  refine ⟨orders, ?_, ?_, quality, order⟩
  · intro order horder
    obtain ⟨loan, hmem, hid, admits⟩ := bought order horder
    refine ⟨loan, hmem, hid, admits, ?_⟩
    intro entry hentry
    obtain ⟨verdict, e, parsed, held⟩ := admits.parsed hentry
    exact ⟨e, verdict, parsed, held⟩
  · rintro ⟨entry, hentry, fault, failed⟩
    refine List.eq_nil_iff_forall_not_mem.2 fun order horder => ?_
    obtain ⟨loan, -, -, admits⟩ := bought order horder
    obtain ⟨_, e, parsed, -⟩ := admits.parsed hentry
    rw [failed] at parsed
    cases parsed

/-- Of four loans the first is owned, the second has no id and the third is excluded. -/
theorem FilterConfig.orders_eq_fourth :
    ∃ loans, Listing.read
        "[\x7b\"id\":1\x7d,\x7b\"term\":36\x7d,\x7b\"id\":2,\"term\":60\x7d,\x7b\"id\":3\x7d]" =
          .ok loans ∧
      FilterConfig.orders ⟨[.bare "{purpose} == None"], [.wrapped "{term} == 60"]⟩ loans
        (IdSet.ofList ["1"]) (60 : Float) 25 none none = [⟨"3", 25, none⟩] := by
  have ordered : (Listing.read
      "[\x7b\"id\":1\x7d,\x7b\"term\":36\x7d,\x7b\"id\":2,\"term\":60\x7d,\x7b\"id\":3\x7d]"
      ).toOption.map (fun loans =>
        (((loans.filter fun loan => FilterConfig.Admits ⟨[.bare "{purpose} == None"],
          [.wrapped "{term} == 60"]⟩ (IdSet.ofList ["1"]) loan).filterMap Loan.id?).take
            (Plan.affordable (60 : Float) 25)).map
              fun id => (⟨id, 25, none⟩ : Order Float)) = some [⟨"3", 25, none⟩] := by
    decide +kernel
  cases h : Listing.read _ with
  | error =>
    rw [h] at ordered
    cases ordered
  | ok loans =>
    rw [h] at ordered
    refine ⟨loans, rfl, ?_⟩
    rw [(FilterConfig.orders_eq h _ _ _ _ _).1]
    exact Option.some.inj ordered

end LoanDesk
