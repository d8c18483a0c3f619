import LoanDesk.Filter.Set

/-!
# Filtering in parallel

One task for each loan applies the filters of a set in their order, up to the first that does not
pass the loan.  The tasks share the counts of the filters and the log, and a schedule says whose
step comes next.  A step asks one filter, or logs one warning, or increments one counter; what
follows from it is a step of its own, so that those of other tasks may come in between.  The kept
loans are collected in the order of the tasks, whichever ends first.

Main definitions: `Stage.step`, what one step does, and `FilterSet.filterInParallel` and
`FilterSet.selectInParallel`, what a schedule comes to.
-/

namespace LoanDesk

/-- The counters of a filter. -/
inductive Counter where
  | passed
  | failed
  | errors
deriving DecidableEq, Repr

/-- The counts with one of the counters incremented. -/
def Counts.bump (c : Counts) : Counter → Counts
  | .passed => { c with passed := c.passed + 1 }
  | .failed => { c with failed := c.failed + 1 }
  | .errors => { c with errors := c.errors + 1 }

/-- The filter with one of its counters incremented. -/
def Filter.bump (f : Filter) (counter : Counter) : Filter :=
  { f with counts := f.counts.bump counter }

/-- What a task does to what the tasks share. -/
inductive Effect where
  | warn (lines : List LogLine)
  | count (place : Nat) (counter : Counter)
deriving DecidableEq

namespace Effect

/-- The filters after an effect. -/
def onFilters (filters : List Filter) : Effect → List Filter
  | warn _ => filters
  | count place counter => filters.modify place (·.bump counter)

/-- What an effect logs. -/
def lines : Effect → List LogLine
  | warn lines => lines
  | count _ _ => []

end Effect

/-- What a task does next; a filter is given by its place in the set. -/
inductive Stage where
  /-- It asks the filter, or ends if there is none at this place. -/
  | asking (place : Nat)
  /-- It warns that the filter has no verdict. -/
  | warning (place : Nat) (lines : List LogLine)
  /-- It counts an error. -/
  | erring (place : Nat)
  /-- It counts the verdict. -/
  | counting (place : Nat) (passed : Bool)
  /-- Nothing, the loan is kept or dropped. -/
  | done (kept : Bool)
deriving DecidableEq

namespace Stage

/-- The stage after a filter was asked. -/
def ofOutcome (place : Nat) (r : Rule) (loan : Loan) : Stage :=
  match r.outcome loan with
  | .passed => counting place true
  | .rejected => counting place false
  | .broken e => warning place (r.log loan (.broken e))

/-- One step of a task, with its effect. -/
def step (rules : List Rule) (loan : Loan) : Stage → Option Effect × Stage
  | asking place =>
    match rules[place]? with
    | none => (none, done true)
    | some r => (none, ofOutcome place r loan)
  | warning place lines => (some (.warn lines), erring place)
  | erring place => (some (.count place .errors), counting place false)
  | counting place true => (some (.count place .passed), asking (place + 1))
  | counting place false => (some (.count place .failed), done false)
  | done kept => (none, done kept)

/-- Nothing is left to do. -/
def isDone : Stage → Bool
  | done _ => true
  | _ => false

end Stage

/-- A loan and how far the filters have got with it. -/
structure Task where
  loan : Loan
  stage : Stage

namespace Task

/-- The task that has not begun. -/
def ofLoan (loan : Loan) : Task := ⟨loan, .asking 0⟩

/-- The loan if it is kept. -/
def kept? (t : Task) : Option Loan :=
  match t.stage with
  | .done true => some t.loan
  | _ => none

end Task

/-- The tasks in the order of their loans, and what they share. -/
structure Crew where
  tasks : List Task
  filters : List Filter
  log : List LogLine

namespace Crew

/-- No task has begun. -/
def start (filters : List Filter) (loans : List Loan) : Crew := ⟨loans.map .ofLoan, filters, []⟩

/-- The rules that the tasks ask. -/
def rules (c : Crew) : List Rule := c.filters.map Filter.rule

/-- The effect of one step. -/
def perform (c : Crew) : Option Effect → Crew
  | none => c
  | some effect =>
    { c with filters := effect.onFilters c.filters, log := c.log ++ effect.lines }

/-- The next step of one task; nothing happens if there is no such task or it has ended. -/
def advance (c : Crew) (index : Nat) : Crew :=
  match c.tasks[index]? with
  | none => c
  | some t =>
    let (effect, stage) := t.stage.step c.rules t.loan
    { c with tasks := c.tasks.set index { t with stage } }.perform effect

/-- The steps of a schedule, which names the task of each step. -/
def run (c : Crew) (schedule : List Nat) : Crew := schedule.foldl advance c

/-- All tasks have ended. -/
def Finished (c : Crew) : Prop := ∀ t ∈ c.tasks, t.stage.isDone = true

instance (c : Crew) : Decidable c.Finished :=
  inferInstanceAs (Decidable (∀ t ∈ c.tasks, t.stage.isDone = true))

/-- The loans that were kept, in their order. -/
def kept (c : Crew) : List Loan := c.tasks.filterMap Task.kept?

end Crew

namespace FilterSet

/-- What a schedule makes of the loans, one task for each. -/
def filterInParallel (filters : List Filter) (loans : List Loan) (schedule : List Nat) : Crew :=
  (Crew.start filters loans).run schedule

/-- What a schedule makes of the loans that are not owned, one task for each. -/
def selectInParallel (filters : List Filter) (loans : List Loan) (owned : IdSet)
    (schedule : List Nat) : Crew :=
  filterInParallel filters (dropOwned owned loans) schedule

end FilterSet

end LoanDesk
