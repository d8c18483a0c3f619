import LoanDesk.CommandLine.Command
import LoanDesk.Config.Account
import LoanDesk.Config.Filters
import LoanDesk.FileTree
import LoanDesk.Json.Print
import LoanDesk.Portfolio
import LoanDesk.Report
import LoanDesk.TopUp
import LoanDesk.Expr.Render

/-!
# Carrying out commands

A command reads files, prints a report or JSON, and ends with an exit code; the first failure ends
it with a message that names its causes, the nearest to the user first.  What surrounds the program
is given by a `World`, so a run is the same in every monad in which files can be read.
-/

namespace LoanDesk

/-- What a run can see of its surroundings. -/
structure World (m : Type → Type) where
  readFile : String → m (Except FileError String)
  /-- The directory of the user. -/
  home : Option String
  /-- The time of day at the user's place. -/
  now : m Moment

/-- Why the file of a path gives no value. -/
inductive FileFault (ε : Type) where
  | unreadable (e : FileError)
  | refused (e : ε)

/-- Why a command fails. -/
inductive Failure where
  | expression (source : String) (e : ParseError)
  | loanJson (e : SourceError)
  | noLoan
  | filters (path : String) (fault : FileFault Unit)
  | account (path : String) (fault : FileFault Unit)
  | loans (path : String) (fault : FileFault SourceError)
  | owned (path : String) (fault : FileFault SourceError)
  | notes (path : String) (fault : FileFault SourceError)
  | portfolio (pattern : String)

namespace Failure

/-- The causes of a configuration that cannot be had from a path. -/
def configCauses (path : String) : FileFault Unit → List String
  | .unreadable e => ["Failed to read config file '" ++ path ++ "': " ++ e.message, e.message]
  | .refused _ => ["Failed to parse config file '" ++ path ++ "'"]

/-- The causes of loans or notes that a text does not give. -/
def textCauses (e : SourceError) : List String :=
  match e with
  | .illTyped found expected => [e.message, "invalid type: " ++ found ++ ", expected " ++ expected]
  | e => [e.message]

/-- The causes of loans or notes that cannot be had from a path. -/
def sourceCauses (path : String) : FileFault SourceError → List String
  | .unreadable e => ["Failed to read '" ++ path ++ "': " ++ e.message, e.message]
  | .refused e => textCauses e

/-- The causes of a failure, the nearest to the user first. -/
def causes : Failure → List String
  | expression source e => ["Invalid filter expression: " ++ source, e.message]
  | loanJson e => "Invalid loan JSON" :: textCauses e
  | noLoan => ["Loan JSON contained no loan"]
  | filters path fault =>
    ("Failed to load filters from '" ++ path ++ "'") :: configCauses path fault
  | account path fault => "Failed to load execution config" :: configCauses path fault
  | loans path fault => ("Failed to load loans from '" ++ path ++ "'") :: sourceCauses path fault
  | owned path fault =>
    ("Failed to load owned notes from '" ++ path ++ "'") :: sourceCauses path fault
  | notes path fault => ("Failed to load notes from '" ++ path ++ "'") :: sourceCauses path fault
  | portfolio pattern => [Portfolio.invalidPattern pattern]

/-- The message of a failure. -/
def message (f : Failure) : String := ": ".intercalate f.causes

end Failure

/-- What a run comes to. -/
structure Answer where
  /-- What is printed. -/
  output : String
  log : List LogLine
  failure : Option Failure
  /-- Whether filters were found that look wrongly written. -/
  suspicious : Bool

namespace Answer

/-- The answer of a run without a failure. -/
def printed (output : String) (log : List LogLine) : Answer := ⟨output, log, none, false⟩

/-- The answer of a run that failed before it printed anything. -/
def failed (f : Failure) : Answer := ⟨"", [], some f, false⟩

/-- The exit code of the run. -/
def exitCode (a : Answer) : Nat :=
  if a.failure.isSome then 1 else if a.suspicious then 2 else 0

/-- The line that says why the run failed. -/
def errorLine (a : Answer) : String :=
  match a.failure with
  | some f => "Error: " ++ f.message ++ "\n"
  | none => ""

end Answer

namespace CommandLine

/-! ### Expressions -/

/-- The lines about an expression. -/
def describe (e : Expr) : String :=
  "Parsed:  " ++ e.render ++ "\n" ++
    if e.fields.isEmpty then "" else "Fields:  " ++ ", ".intercalate e.fields ++ "\n"

/-- The line about the verdict on a loan. -/
def verdictLine : Except FilterError Bool → String
  | .ok true => "Result:  PASS\n"
  | .ok false => "Result:  FAIL\n"
  | .error e => "Result:  FAIL (" ++ e.message ++ ")\n"

/-- The answer about an expression and, if there is one, a loan. -/
def check (source : String) (loan : Option String) (polarity : Polarity) : Answer :=
  match Expr.parse source with
  | .error e => .failed (.expression source e)
  | .ok e =>
    let description := describe e
    match loan with
    | none => .printed description []
    | some text =>
      match Listing.read text with
      | .error e => ⟨description, [], some (.loanJson e), false⟩
      | .ok [] => ⟨description, [], some .noLoan, false⟩
      | .ok (loan :: _) =>
        .printed (description ++ verdictLine ((Rule.ofSource source polarity).evaluate loan)) []

/-! ### Files -/

/-- The path of a file in a directory. -/
def inDirectory (directory name : String) : String :=
  if directory.isEmpty || directory.toList.getLast? == some '/' then directory ++ name
  else directory ++ "/" ++ name

variable {m : Type → Type} [Monad m]

/-- The directory of the configuration. -/
def directory (w : World m) (i : Invocation) : String :=
  i.configDir.getD (inDirectory (w.home.getD "") ".lenderbot")

/-- What `read` makes of the text of a file. -/
def load {α ε : Type} (w : World m) (path : String) (read : String → Except ε α) :
    ExceptT (FileFault ε) m α := do
  match ← w.readFile path with
  | .error e => throw (.unreadable e)
  | .ok text =>
    match read text with
    | .error e => throw (.refused e)
    | .ok v => return v

/-- The configured filters, with what was logged. -/
def loadFilters (w : World m) (directory : String) :
    ExceptT Failure m (List Filter × List LogLine) := do
  let path := inDirectory directory "filters.json"
  let config ← (load w path fun s => (FilterConfig.read? s).elim (.error ()) .ok).adapt
    (Failure.filters path)
  let (filters, log) := config.build
  let empty := LogLine.warning ("No filters configured in '" ++ path ++ "'")
  return (filters, if config.size = 0 then empty :: log else log)

/-- How the account invests, which need not be configured. -/
def loadAccount (w : World m) (directory : String) : ExceptT Failure m AccountConfig := do
  let path := inDirectory directory "config.json"
  match ← w.readFile path with
  | .error .notFound | .error .notDirectory | .error .nameTooLong | .error .unexpectedNul =>
    return .default
  | .error e => throw (.account path (.unreadable e))
  | .ok text =>
    match AccountConfig.read? text with
    | some c => return c
    | none => throw (.account path (.refused ()))

/-- The loans of a listing. -/
def loadLoans (w : World m) (path : String) : ExceptT Failure m (List Loan) :=
  (load w path Listing.read).adapt (Failure.loans path)

/-- The ids of the owned loans. -/
def loadOwned (w : World m) : Option String → ExceptT Failure m IdSet
  | some path => (load w path IdSet.read).adapt (Failure.owned path)
  | none => return IdSet.ofList []

/-- The owned notes. -/
def loadNotes (w : World m) (path : String) : ExceptT Failure m (List (Note Float)) :=
  (load w path Note.readList).adapt (Failure.notes path)

/-! ### Selections, plans and notes -/

/-- The selected loans, best first, with the filters after them. -/
def selectBest (filters : List Filter) (loans : List Loan) (owned : IdSet) :
    Screening (List Loan) :=
  let r := FilterSet.select filters loans owned
  { r with value := Loan.sortByQuality r.value }

/-- The answer to a test of the filters. -/
def testFilters (w : World m) (directory loans : String) : ExceptT Failure m Answer := do
  let (filters, log) ← loadFilters w directory
  let loans ← loadLoans w loans
  let r := SelfTest.run filters loans
  return ⟨Report.selfTest r.value, log ++ r.log, none, !r.value.suspicious.isEmpty⟩

/-- The answer to a selection. -/
def select (w : World m) (directory loans : String) (owned : Option String) (json : Bool) :
    ExceptT Failure m Answer := do
  let (filters, log) ← loadFilters w directory
  let loans ← loadLoans w loans
  let owned ← loadOwned w owned
  let r := selectBest filters loans owned
  let output :=
    if json then (Json.array (r.value.map Loan.toJson)).indented ++ "\n"
    else Report.selection r.value r.filters
  return .printed output (log ++ r.log)

/-- The name of the portfolio of new notes, if the account has a pattern for it. -/
def portfolioName (w : World m) : Option String → ExceptT Failure m (Option String)
  | none => return none
  | some pattern => do
    match Portfolio.name? pattern (← w.now) with
    | some name => return some name
    | none => throw (.portfolio pattern)

/-- The answer to the plan of an account. -/
def plan (w : World m) (directory loans : String) (cash pending : Float)
    (portfolioId owned : Option String) (json : Bool) : ExceptT Failure m Answer := do
  let account ← loadAccount w directory
  let (filters, log) ← loadFilters w directory
  let loans ← loadLoans w loans
  let owned ← loadOwned w owned
  let r := selectBest filters loans owned
  let portfolio ← portfolioName w account.portfolio
  let (plan, planLog) :=
    Plan.ofCandidates r.value cash account.orderAmount portfolioId account.investorId
  let transfer := topUp? cash pending account.minBalance account.transferMultiple
  let output :=
    if json then
      let payload := Json.object [("portfolio", Note.textJson portfolio), ("order", plan.toJson),
        ("transfer", Note.numberJson transfer)]
      payload.sorted.indented ++ "\n"
    else
      (match portfolio with
      | some name => "Target portfolio: " ++ name ++ "\n"
      | none => "") ++ Report.plan plan transfer
  return .printed output (log ++ r.log ++ planLog)

/-- The answer about owned notes. -/
def notes (w : World m) (path : String) (lateOnly includeClosed json : Bool) :
    ExceptT Failure m Answer := do
  let owned ← loadNotes w path
  let output :=
    if lateOnly then
      let late := Note.late owned
      if json then (Json.array (late.map Note.toJson)).indented ++ "\n" else Report.lateNotes late
    else
      let summary := NoteSummary.ofNotes includeClosed owned
      if json then summary.toJson.indented ++ "\n" else Report.noteSummary summary
  return .printed output []

/-- The answer to a command. -/
def answer (w : World m) (i : Invocation) : ExceptT Failure m Answer :=
  match i.command with
  | .check source loan exclusion =>
    return check source loan (if exclusion then .exclusion else .inclusion)
  | .testFilters loans => testFilters w (directory w i) loans
  | .select loans owned _ json => select w (directory w i) loans owned json
  | .plan loans cash pending portfolioId owned json =>
    plan w (directory w i) loans cash pending portfolioId owned json
  | .notes path lateOnly includeClosed json => notes w path lateOnly includeClosed json

/-- What a run comes to. -/
def run (w : World m) (i : Invocation) : m Answer := do
  match ← (answer w i).run with
  | .ok a => return a
  | .error f => return .failed f

end CommandLine

end LoanDesk
