import LoanDesk.CommandLine.Run
import LoanDesk.Proofs.Filter.Funnel
import Mathlib.Algebra.Group.Nat.Defs

/-!
# What a test of filters reports

A test reports the difference of the counts after it and before it.  Since counting only adds, this
is what each filter made of the loans of the test (`SelfTest.results_eq`), whatever was counted
earlier and also if a count starts over in the meantime; but only where no count starts over is it a
difference of natural numbers (`Counts.atMost_add_iff`).  A test asks every filter about every loan,
where filtering stops at the first filter that does not pass a loan; still a filter that passes no
loan in a test lets nothing through.

Main statement: `SelfTest.run_exact`.
-/

namespace LoanDesk

/-! ### Differences of counts -/

/-- The difference to earlier counts is what was counted in between. -/
lemma Counts.since_add (c : Counts) (t : Tally) :
    (c.add t).since c = ⟨.ofNat t.passed, .ofNat t.failed, .ofNat t.errors⟩ := by
  have grown (c n : UInt64) : c + n - c = n := by
    rw [UInt64.add_comm, UInt64.add_sub_cancel]
  rw [since, add, grown, grown, grown]

/-- A count falls below an earlier one exactly if it has started over. -/
lemma le_add_ofNat {c : UInt64} {n : Nat} (h : n < 2 ^ 64) :
    c ≤ c + .ofNat n ↔ c.toNat + n < 2 ^ 64 := by
  have bound := c.toNat_lt
  rw [UInt64.le_iff_toNat_le, UInt64.toNat_add, UInt64.toNat_ofNat', Nat.mod_eq_of_lt h]
  omega

namespace Counts

/-- No count is below the earlier one of its kind, so the difference is one of natural numbers. -/
def AtMost (earlier later : Counts) : Prop :=
  earlier.passed ≤ later.passed ∧ earlier.failed ≤ later.failed ∧ earlier.errors ≤ later.errors

/-- No count starts over with the loans of a tally. -/
def HasRoom (c : Counts) (t : Tally) : Prop :=
  c.passed.toNat + t.passed < 2 ^ 64 ∧ c.failed.toNat + t.failed < 2 ^ 64 ∧
    c.errors.toNat + t.errors < 2 ^ 64

/-- Counts do not fall with a tally exactly if they have room for it. -/
lemma atMost_add_iff {c : Counts} {t : Tally} (h : t.passed + t.failed < 2 ^ 64)
    (le : t.errors ≤ t.failed) : c.AtMost (c.add t) ↔ c.HasRoom t := by
  have passed : t.passed < 2 ^ 64 := by omega
  have failed : t.failed < 2 ^ 64 := by omega
  have errors : t.errors < 2 ^ 64 := by omega
  rw [AtMost, add, le_add_ofNat passed, le_add_ofNat failed, le_add_ofNat errors, HasRoom]

end Counts

/-- A count of fewer loans than a word holds is the word's number. -/
lemma toNat_ofNat_countP {loans : List Loan} (h : loans.length < 2 ^ 64) (p : Loan → Bool) :
    (UInt64.ofNat (loans.countP p)).toNat = loans.countP p := by
  rw [UInt64.toNat_ofNat']
  exact Nat.mod_eq_of_lt (Nat.lt_of_le_of_lt List.countP_le_length h)

/-! ### The results of a test -/

/-- A filter is applied to all loans, and warns of those that it has no verdict on. -/
lemma Filter.applyAll_eq (f : Filter) (loans : List Loan) :
    f.applyAll loans = (loans.foldl Filter.apply f, f.rule.warnings loans) := by
  induction loans generalizing f with
  | nil => rfl
  | cons loan loans ih =>
    have same : (f.count (f.rule.outcome loan)).rule = f.rule := rfl
    rw [applyAll, ih, same, List.foldl_cons, ← Rule.flatMap_log, ← Rule.flatMap_log,
      List.flatMap_cons]
    rfl

namespace SelfTest

/-- The result of a rule on loans. -/
def Result.ofRule (r : Rule) (loans : List Loan) : Result :=
  let t := r.tally loans
  ⟨r, ⟨.ofNat t.passed, .ofNat t.failed, .ofNat t.errors⟩,
    !loans.isEmpty && UInt64.ofNat t.passed == 0⟩

/-- A test applies each filter to all loans, and its results are those of the rules, whatever the
filters had counted. -/
theorem results_eq (filters : List Filter) (loans : List Loan) :
    results loans filters =
      ⟨filters.map fun f => .ofRule f.rule loans, filters.map fun f => loans.foldl Filter.apply f,
        filters.flatMap fun f =>
          f.rule.warnings loans ++ (Result.ofRule f.rule loans).log loans⟩ := by
  have result (f : Filter) : Result.ofRun f (loans.foldl Filter.apply f) loans =
      .ofRule f.rule loans := by
    rw [Result.ofRun, Filter.foldl_apply, Counts.since_add]
    rfl
  induction filters with
  | nil => rfl
  | cons f fs ih =>
    rw [results, Filter.applyAll_eq, ih]
    simp only [result]
    rfl

/-- The report of a test has a result for each rule. -/
lemma value_run (filters : List Filter) (loans : List Loan) :
    (run filters loans).value = ⟨loans.length, filters.map fun f => .ofRule f.rule loans⟩ := by
  rw [run, results_eq]

/-- A test leaves each filter with all loans counted. -/
lemma filters_run (filters : List Filter) (loans : List Loan) :
    (run filters loans).filters = filters.map fun f => loans.foldl Filter.apply f := by
  rw [run, results_eq]

/-- What filters had counted plays no part in the report of a test. -/
lemma value_run_congr {filters others : List Filter}
    (same : others.map Filter.rule = filters.map Filter.rule) (loans : List Loan) :
    (run others loans).value = (run filters loans).value := by
  have ofRules (fs : List Filter) : (fs.map fun f => Result.ofRule f.rule loans) =
      (fs.map Filter.rule).map fun r => .ofRule r loans := by
    rw [List.map_map]
    rfl
  rw [value_run, value_run, ofRules, ofRules, same]

/-- The result says how the rule does on the loans. -/
structure Result.Reports (result : Result) (r : Rule) (loans : List Loan) : Prop where
  rule : result.rule = r
  passed : result.counts.passed.toNat = loans.countP fun loan => r.evaluate loan = .ok true
  errors : result.counts.errors.toNat = loans.countP fun loan => !(r.evaluate loan).isOk
  failed : result.counts.failed.toNat = loans.length - result.counts.passed.toNat
  alwaysFails : result.alwaysFails = true ↔ loans ≠ [] ∧ result.counts.passed = 0
  unparsed : (∃ fault, Expr.parse r.source = .error fault) →
    result.counts.passed = 0 ∧ result.counts.errors.toNat = loans.length ∧
      result.counts.failed.toNat = loans.length

variable {r : Rule} {loans : List Loan}

/-- A rule whose source is no expression has that error on every loan. -/
lemma evaluate_of_unparsed {fault : ParseError} (h : Expr.parse r.source = .error fault)
    (loan : Loan) : r.evaluate loan = .error (.parse fault) := by
  rw [Rule.evaluate, r.expr_eq, h]

/-- A rule has an error of its own exactly if its source is no expression. -/
lemma isSome_parseError? :
    r.parseError?.isSome = true ↔ ∃ fault, Expr.parse r.source = .error fault := by
  rw [Rule.parseError?, r.expr_eq]
  cases Expr.parse r.source with
  | ok e => simp
  | error fault => simp

/-- Of a rule that is no expression every loan is an error. -/
lemma tally_of_unparsed {fault : ParseError} (h : Expr.parse r.source = .error fault) :
    r.tally loans = ⟨0, loans.length, loans.length⟩ := by
  simp only [Rule.tally, evaluate_of_unparsed h]
  simp [Except.isOk, Except.toBool]

/-- The result of a rule reports how it does on the loans. -/
lemma reports_ofRule (h : loans.length < 2 ^ 64) : (Result.ofRule r loans).Reports r loans where
  rule := rfl
  passed := toNat_ofNat_countP h _
  errors := toNat_ofNat_countP h _
  failed := by
    have all := r.passed_add_failed loans
    have passed : (Result.ofRule r loans).counts.passed.toNat = (r.tally loans).passed :=
      toNat_ofNat_countP h _
    have failed : (Result.ofRule r loans).counts.failed.toNat = (r.tally loans).failed :=
      toNat_ofNat_countP h _
    omega
  alwaysFails := by simp [Result.ofRule]
  unparsed := by
    rintro ⟨fault, unparsed⟩
    rw [Result.ofRule, tally_of_unparsed unparsed]
    have all : (UInt64.ofNat loans.length).toNat = loans.length := by
      rw [UInt64.toNat_ofNat', Nat.mod_eq_of_lt h]
    exact ⟨rfl, all, all⟩

/-- A rule always fails exactly if there are loans and it passes none of them. -/
lemma alwaysFails_ofRule (h : loans.length < 2 ^ 64) :
    (Result.ofRule r loans).alwaysFails = true ↔
      loans ≠ [] ∧ ∀ loan ∈ loans, r.evaluate loan ≠ .ok true := by
  have reports := reports_ofRule (r := r) h
  rw [reports.alwaysFails, ← UInt64.toNat_inj, reports.passed]
  refine and_congr_right fun _ => ?_
  exact List.countP_eq_zero.trans (by simp)

/-! ### Suspicious filters -/

/-- A report has suspicious filters exactly if some filter is no expression, or there are loans and
some filter passes none of them. -/
lemma suspicious_ne_nil_iff (filters : List Filter) (h : loans.length < 2 ^ 64) :
    (run filters loans).value.suspicious ≠ [] ↔
      (∃ f ∈ filters, ∃ fault, Expr.parse f.rule.source = .error fault) ∨
        loans ≠ [] ∧ ∃ f ∈ filters, ∀ loan ∈ loans, f.rule.evaluate loan ≠ .ok true := by
  have flagged : (run filters loans).value.suspicious ≠ [] ↔
      ∃ f ∈ filters, (Result.ofRule f.rule loans).isSuspicious = true := by
    rw [value_run]
    simp [Report.suspicious]
  have isSuspicious (r : Rule) : (Result.ofRule r loans).isSuspicious = true ↔
      (loans ≠ [] ∧ ∀ loan ∈ loans, r.evaluate loan ≠ .ok true) ∨
        ∃ fault, Expr.parse r.source = .error fault := by
    rw [Result.isSuspicious, Bool.or_eq_true, alwaysFails_ofRule h]
    exact or_congr_right isSome_parseError?
  simp only [flagged, isSuspicious]
  constructor
  · rintro ⟨f, hf, ⟨some_loan, never⟩ | unparsed⟩
    · exact .inr ⟨some_loan, f, hf, never⟩
    · exact .inl ⟨f, hf, unparsed⟩
  · rintro (⟨f, hf, unparsed⟩ | ⟨some_loan, f, hf, never⟩)
    · exact ⟨f, hf, .inr unparsed⟩
    · exact ⟨f, hf, .inl ⟨some_loan, never⟩⟩

/-- Where a filter passes none of the loans, nothing is kept. -/
lemma filter_eq_nil {filters : List Filter} {f : Filter} (hf : f ∈ filters)
    (never : ∀ loan ∈ loans, f.rule.evaluate loan ≠ .ok true) :
    (FilterSet.filter filters loans).value = [] := by
  rw [FilterSet.filter_value_eq, List.filter_eq_nil_iff]
  intro loan hloan kept
  exact never loan hloan (of_decide_eq_true kept f hf)

/-- Where some filters are suspicious, one of them passes no loan. -/
lemma exists_never_of_suspicious {filters : List Filter} (h : loans.length < 2 ^ 64)
    (flagged : (run filters loans).value.suspicious ≠ []) :
    ∃ f ∈ filters, ∀ loan ∈ loans, f.rule.evaluate loan ≠ .ok true := by
  rcases (suspicious_ne_nil_iff filters h).1 flagged with ⟨f, hf, fault, unparsed⟩ | ⟨-, never⟩
  · refine ⟨f, hf, fun loan _ passed => ?_⟩
    rw [evaluate_of_unparsed unparsed] at passed
    cases passed
  · exact never

/-- The command that tests filters ends with the exit code 2 exactly if some are suspicious. -/
lemma exitCode_testFilters {w : World Id} {directory path : String} {filters : List Filter}
    {log : List LogLine} (hfilters : (CommandLine.loadFilters w directory).run = .ok (filters, log))
    (hloans : (CommandLine.loadLoans w path).run = .ok loans) :
    ∃ answer, (CommandLine.testFilters w directory path).run = .ok answer ∧
      (answer.exitCode = 2 ↔ (run filters loans).value.suspicious ≠ []) := by
  refine ⟨⟨Report.selfTest (run filters loans).value, log ++ (run filters loans).log, none,
    !(run filters loans).value.suspicious.isEmpty⟩, ?_, ?_⟩
  · simp only [CommandLine.testFilters, ExceptT.run_bind, hfilters, hloans]
    rfl
  · rw [Answer.exitCode]
    cases (run filters loans).value.suspicious <;> simp

/-- A test of fewer than `2 ^ 64` loans, as all lists in memory are, says of each filter on how many
of them it has the verdict to pass, on how many it has none, and how many it does not pass, whatever
the filters had counted; and no count of a filter is below the earlier one exactly if there is room
for the loans in each of them.  A filter is suspicious if its source is no expression, or if there
are loans and it passes none of them; the command that tests filters then ends with the exit code 2,
and if there are loans, filtering or selecting from them keeps none. -/
theorem run_exact (filters : List Filter) {loans : List Loan} (h : loans.length < 2 ^ 64) :
    let report := (run filters loans).value
    report.loansTested = loans.length ∧
    List.Forall₂ (fun f result => Result.Reports result f.rule loans) filters report.results ∧
    List.Forall₂ (fun f after => after.rule = f.rule ∧
        (f.counts.AtMost after.counts ↔ f.counts.HasRoom (f.rule.tally loans)))
      filters (run filters loans).filters ∧
    (∀ others : List Filter, others.map Filter.rule = filters.map Filter.rule →
      (run others loans).value = report) ∧
    (report.suspicious ≠ [] ↔
      (∃ f ∈ filters, ∃ fault, Expr.parse f.rule.source = .error fault) ∨
        loans ≠ [] ∧ ∃ f ∈ filters, ∀ loan ∈ loans, f.rule.evaluate loan ≠ .ok true) ∧
    (∀ (w : World Id) (directory path : String) (log : List LogLine),
      (CommandLine.loadFilters w directory).run = .ok (filters, log) →
      (CommandLine.loadLoans w path).run = .ok loans →
      ∃ answer, (CommandLine.testFilters w directory path).run = .ok answer ∧
        (answer.exitCode = 2 ↔ report.suspicious ≠ [])) ∧
    (report.suspicious ≠ [] → loans ≠ [] →
      (FilterSet.filter filters loans).value = [] ∧
        ∀ owned, (FilterSet.select filters loans owned).value = []) := by
  intro report
  refine ⟨rfl, ?_, ?_, fun _ same => value_run_congr same loans, suspicious_ne_nil_iff filters h,
    fun _ _ _ _ => exitCode_testFilters, ?_⟩
  · rw [show report = _ from value_run filters loans, List.forall₂_map_right_iff]
    exact List.forall₂_same.2 fun f _ => reports_ofRule h
  · rw [filters_run, List.forall₂_map_right_iff]
    refine List.forall₂_same.2 fun f _ => ?_
    rw [Filter.foldl_apply]
    refine ⟨rfl, Counts.atMost_add_iff ?_ (f.rule.errors_le_failed loans)⟩
    rwa [f.rule.passed_add_failed]
  · intro flagged some_loan
    obtain ⟨f, hf, never⟩ := exists_never_of_suspicious h flagged
    refine ⟨filter_eq_nil hf never, fun owned => filter_eq_nil hf fun loan hloan => ?_⟩
    exact never loan (List.mem_of_mem_filter hloan)

/-- The first filter has counted loans before, the second has no verdict on the loan without a term,
and the third is no expression, so no loan is selected. -/
theorem run_exact_three :
    let filters : List Filter :=
      [⟨.ofSource "{grade} == C" .inclusion, ⟨7, 2, 1⟩⟩,
        .ofSource "{term} > 36" .exclusion, .ofSource "{grade} ==" .inclusion]
    let loans := [Loan.ofFields [("grade", .text "C"), ("term", .text "60")],
      .ofFields [("grade", .text "C")], .ofFields [("grade", .text "D"), ("term", .text "12")]]
    loans.length < 2 ^ 64 ∧
      (run filters loans).value.results.map Result.counts = [⟨2, 1, 0⟩, ⟨1, 2, 1⟩, ⟨0, 3, 3⟩] ∧
      (run filters loans).filters.map Filter.counts = [⟨9, 3, 1⟩, ⟨1, 2, 1⟩, ⟨0, 3, 3⟩] ∧
      (run filters loans).value.suspicious ≠ [] ∧
      ∀ owned, (FilterSet.select filters loans owned).value = [] := by
  intro filters loans
  have bound : loans.length < 2 ^ 64 := by decide
  obtain ⟨-, -, -, -, suspicious, -, none_kept⟩ := run_exact filters bound
  have unparsed : ∃ fault, Expr.parse "{grade} ==" = .error fault := by
    have failed : (Expr.parse "{grade} ==").isOk = false := by decide +kernel
    cases h : Expr.parse "{grade} ==" with
    | error fault => exact ⟨fault, rfl⟩
    | ok e =>
      rw [h] at failed
      cases failed
  have flagged : (run filters loans).value.suspicious ≠ [] := by
    refine suspicious.2 (.inl ⟨.ofSource "{grade} ==" .inclusion, ?_, unparsed⟩)
    exact List.mem_cons_of_mem _ (List.mem_cons_of_mem _ (List.mem_singleton_self _))
  exact ⟨bound, by decide +kernel, by decide +kernel, flagged, (none_kept flagged nofun).2⟩

/-- A count at its last value falls with one loan more, though nothing is wrong with the filter; and
arguments that are not understood end the command with the exit code 2 as well. -/
theorem count_falls_of_full :
    let full : Filter := ⟨.ofSource "{grade} == C" .inclusion, ⟨18446744073709551615, 0, 0⟩⟩
    let loans := [Loan.ofFields [("grade", .text "C")]]
    (run [full] loans).value.results.map Result.counts = [⟨1, 0, 0⟩] ∧
      (run [full] loans).filters.map Filter.counts = [⟨0, 0, 0⟩] ∧
      ¬ List.Forall₂ (fun f after => f.counts.AtMost after.counts) [full]
        (run [full] loans).filters ∧
      (run [full] loans).value.suspicious.isEmpty = true ∧
      CommandLine.read none ["test-filters", "--loans", "a", "--loans", "a"] = .error .misuse ∧
      CommandLine.Refusal.misuse.exitCode = 2 := by
  intro full loans
  have after : (run [full] loans).filters.map Filter.counts = [⟨0, 0, 0⟩] := by
    decide +kernel
  have falls : ¬ full.counts.AtMost ⟨0, 0, 0⟩ := by
    rintro ⟨passed, -⟩
    exact absurd passed (by decide)
  refine ⟨by decide +kernel, after, ?_, by decide +kernel, rfl, rfl⟩
  intro none_falls
  obtain ⟨later, tested⟩ : ∃ later, (run [full] loans).filters = [later] := ⟨_, rfl⟩
  rw [tested] at after none_falls
  obtain ⟨counts, -⟩ := List.cons.inj after
  cases none_falls with
  | cons first _ =>
    rw [counts] at first
    exact falls first

end SelfTest

end LoanDesk
