import LoanDesk.Filter.Set

/-!
# Testing filters

A test applies every filter of a set to every loan and reports how often each one passed, rejected
and failed.  A filter is suspicious if its source is no expression or if it rejected every loan of
a listing that has some.
-/

namespace LoanDesk

namespace Counts

/-- What was counted since an earlier time.  A count that has started over in between is below the
earlier one, and then the difference, which is one of words, wraps around at `2 ^ 64`; a subtraction
that is checked would end the test there. -/
def since (later earlier : Counts) : Counts :=
  ⟨later.passed - earlier.passed, later.failed - earlier.failed, later.errors - earlier.errors⟩

end Counts

namespace Filter

/-- The filter after all of the loans, with what it left in the log. -/
def applyAll (f : Filter) : List Loan → Filter × List LogLine
  | [] => (f, [])
  | loan :: loans =>
    let outcome := f.rule.outcome loan
    let (after, log) := (f.count outcome).applyAll loans
    (after, f.rule.log loan outcome ++ log)

/-- The counts of a filter as JSON. -/
def statsJson (f : Filter) : Json :=
  .object ([("filter", .string f.rule.source), ("polarity", .string f.rule.polarity.tag),
    ("pass_count", .ofNat f.counts.passed.toNat), ("fail_count", .ofNat f.counts.failed.toNat),
    ("error_count", .ofNat f.counts.errors.toNat)] ++
    match f.rule.parseError? with
    | some e => [("parse_error", .string e.message)]
    | none => [])

end Filter

namespace SelfTest

/-- How one filter did on the loans of a test. -/
structure Result where
  rule : Rule
  counts : Counts
  /-- There were loans, and none of them passed. -/
  alwaysFails : Bool

/-- How the filters of a set did on the loans of a test. -/
structure Report where
  loansTested : Nat
  results : List Result

/-- A filter that looks wrongly written. -/
def Result.isSuspicious (r : Result) : Bool := r.alwaysFails || r.rule.parseError?.isSome

/-- The filters that look wrongly written. -/
def Report.suspicious (r : Report) : List Result := r.results.filter Result.isSuspicious

/-- How a filter did whose counts grew from `before` to those of `after`. -/
def Result.ofRun (before after : Filter) (loans : List Loan) : Result :=
  let counts := after.counts.since before.counts
  ⟨after.rule, counts, !loans.isEmpty && counts.passed == 0⟩

/-- The warning that a test leaves about a suspicious filter. -/
def Result.log (r : Result) (loans : List Loan) : List LogLine :=
  match r.rule.parseError? with
  | some e => [.error ("Filter (" ++ r.rule.source ++ ") FAILED to parse: " ++ e.message)]
  | none =>
    if r.alwaysFails then
      [.error ("Filter (" ++ r.rule.source ++ ") FAILED every one of " ++ toString loans.length ++
        " loan(s), check for a typo")]
    else []

/-- The results of all filters on the loans. -/
def results (loans : List Loan) : List Filter → Screening (List Result)
  | [] => ⟨[], [], []⟩
  | f :: fs =>
    let (after, log) := f.applyAll loans
    let result := Result.ofRun f after loans
    let others := results loans fs
    ⟨result :: others.value, after :: others.filters, log ++ result.log loans ++ others.log⟩

/-- The test of the filters on the loans. -/
def run (filters : List Filter) (loans : List Loan) : Screening Report :=
  let r := results loans filters
  ⟨⟨loans.length, r.value⟩, r.filters, r.log⟩

/-- A result as JSON. -/
def Result.toJson (r : Result) : Json :=
  .object ([("filter", .string r.rule.source), ("polarity", .string r.rule.polarity.tag),
    ("passed", .ofNat r.counts.passed.toNat), ("failed", .ofNat r.counts.failed.toNat),
    ("errors", .ofNat r.counts.errors.toNat)] ++
    (match r.rule.parseError? with
    | some e => [("parse_error", .string e.message)]
    | none => []) ++ [("always_fails", .bool r.alwaysFails)])

/-- A report as JSON. -/
def Report.toJson (r : Report) : Json :=
  .object [("loans_tested", .ofNat r.loansTested),
    ("results", .array (r.results.map Result.toJson))]

end SelfTest

end LoanDesk
