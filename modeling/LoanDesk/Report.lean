import LoanDesk.Filter.SelfTest
import LoanDesk.Note.Summary
import LoanDesk.Plan
import LoanDesk.Table

/-!
# Reports

What the program tells its user: a line that sums up, a table, and remarks.
-/

namespace LoanDesk.Report

/-- The text of a number of things. -/
def counted (n : Nat) (what : String) : String := toString n ++ " " ++ what

/-! ### Tests of filters -/

/-- How a filter did, in a word. -/
def verdict (r : SelfTest.Result) : String :=
  if r.rule.parseError?.isSome then "INVALID"
  else if r.alwaysFails then "REJECTS ALL"
  else if 0 < r.counts.errors then "ERRORS"
  else "OK"

/-- The row of the filter at an index. -/
def resultRow (r : SelfTest.Result) (index : Nat) : List String :=
  [toString (index + 1), r.rule.source, r.rule.polarity.label, toString r.counts.passed.toNat,
    toString r.counts.failed.toNat, toString r.counts.errors.toNat, verdict r]

/-- The remark on a suspicious filter. -/
def remark (r : SelfTest.Result) : String :=
  "Warning: filter (" ++ r.rule.source ++ ") " ++
    match r.rule.parseError? with
    | some e => "does not parse: " ++ e.message ++ "\n"
    | none => "rejected every loan\n"

/-- The report of a test. -/
def selfTest (r : SelfTest.Report) : String :=
  "Tested " ++ counted r.results.length "filter(s) against " ++ counted r.loansTested "loan(s)\n" ++
    Table.render ⟨["#", "Filter", "Type", "Pass", "Fail", "Errors", "Status"],
      r.results.mapIdx fun index result => resultRow result index⟩ ++
    String.join (r.suspicious.map remark)

/-! ### Selections and plans -/

/-- A selected loan with its quality. -/
def selectedLoan (loan : Loan) : String :=
  "\n" ++ loan.summary ++ "\nQuality: " ++ toString loan.quality ++ "\n"

/-- The row of a filter with its counts. -/
def filterRow (f : Filter) : List String :=
  [f.rule.source, f.rule.polarity.label, toString f.counts.passed.toNat,
    toString f.counts.failed.toNat]

/-- The report of a selection by filters. -/
def selection (loans : List Loan) (filters : List Filter) : String :=
  counted loans.length "loan(s) pass filters\n" ++ String.join (loans.map selectedLoan) ++
    if filters.isEmpty then ""
    else "\n" ++ Table.render ⟨["Filter", "Type", "Pass", "Fail"], filters.map filterRow⟩

/-- The row of an order. -/
def orderRow (o : Order Float) : List String :=
  [o.loanId, Number.fixed 2 o.amount, o.portfolioId.getD "-"]

/-- The line about a transfer. -/
def transferLine : Option Float → String
  | some amount => "Top-up transfer needed: $" ++ Number.fixed 2 amount ++ "\n"
  | none => "No top-up transfer needed\n"

/-- The report of a plan and a transfer. -/
def plan (p : Plan Float) (transfer : Option Float) : String :=
  (if p.isEmpty then "No loans to order\n"
  else
    counted p.orders.length "order(s), $" ++ Number.fixed 2 p.total ++ " total\n" ++
      Table.render ⟨["Loan", "Amount", "Portfolio"], p.orders.map orderRow⟩) ++
    transferLine transfer

/-! ### Notes -/

/-- The rows of the counts of a summary. -/
def statusRows (s : NoteSummary Float) : List (List String) :=
  [["Open", toString s.openNotes], ["Current", toString s.current]] ++
    (if s.includeClosed then [["Closed", toString s.closed]] else []) ++
    [["Late", toString s.late], ["In review", toString s.inReview]]

/-- The report of a summary of notes. -/
def noteSummary (s : NoteSummary Float) : String :=
  counted s.counted "note(s) owned at an average interest rate of " ++
    Note.shownRate s.averageRate ++ "\n" ++
    Table.render ⟨["Status", "Notes"], statusRows s⟩ ++
    Table.render ⟨"Grade" :: s.grades.map (fun g => String.singleton g.1),
      ["Notes" :: s.grades.map fun g => toString g.2]⟩

/-- The row of a note. -/
def noteRow (n : Note Float) : List String :=
  [Note.shown n.loanId, Note.shown n.noteId, Note.shown n.loanStatus, Note.shown n.grade,
    Note.shownRate n.interestRate]

/-- The report of late notes. -/
def lateNotes (notes : List (Note Float)) : String :=
  counted notes.length "late note(s)\n" ++
    if notes.isEmpty then ""
    else Table.render ⟨["Loan", "Note", "Status", "Grade", "Rate"], notes.map noteRow⟩

end LoanDesk.Report
