import LoanDesk.Filter.Parallel
import LoanDesk.Filter.Pool

/-!
# Workers that take turns

The workers of a pool apply one filter, each to its own loan, and the holders of the handles poll
them, wait for them or let go of them meanwhile.  A schedule says whose turn is next: a loan is
submitted, or a worker goes one step further, or it dies, or somebody uses a handle.  A worker that
has counted its verdict sends it in a step of its own, and ends in another, so that the verdict may
be received while the worker is still there.

Main definitions: `Worker.move`, what one turn does to one worker, and `Pool.run`, what a schedule
comes to.
-/

namespace LoanDesk

/-- How far a worker has got with its answer. -/
inductive Reply where
  /-- It has not answered yet. -/
  | owed
  /-- It has sent the verdict. -/
  | sent
  /-- It has sent the verdict and ended. -/
  | ended
  /-- It has ended without an answer. -/
  | died
deriving DecidableEq, Repr

/-- A worker with the task to apply a filter, and the handle to its verdict while somebody holds
it. -/
structure Worker where
  task : Task
  reply : Reply
  handle? : Option Handle

/-- What may happen to a worker. -/
inductive Move where
  | work
  | die
  /-- Somebody polls the handle. -/
  | poll
  /-- Somebody waits for the verdict, and is done with the handle if it is there. -/
  | wait
  /-- Nobody holds the handle any more. -/
  | release
deriving DecidableEq, Repr

namespace Worker

/-- The worker that has not begun. -/
def ofLoan (loan : Loan) : Worker := ⟨.ofLoan loan, .owed, some .fresh⟩

/-- What happened at the handle, if somebody holds it. -/
def onHandle (w : Worker) (change : Handle → Handle) : Worker :=
  { w with handle? := w.handle?.map change }

/-- The next step of a worker, with its effect on what the workers share: it applies the filter,
sends the verdict to whoever holds the handle, and ends. -/
def work (rules : List Rule) (w : Worker) : Option Effect × Worker :=
  match w.reply, w.task.stage with
  | .owed, .done verdict => (none, { w.onHandle (·.send verdict) with reply := .sent })
  | .owed, stage =>
    let (effect, stage) := stage.step rules w.task.loan
    (effect, { w with task := { w.task with stage } })
  | .sent, _ => (none, { w.onHandle (·.hangUp) with reply := .ended })
  | .ended, _ => (none, w)
  | .died, _ => (none, w)

/-- The end of a worker that has not answered, wherever it is with its task. -/
def die (w : Worker) : Worker :=
  match w.reply with
  | .owed => { w.onHandle (·.hangUp) with reply := .died }
  | _ => w

/-- One turn of a worker or of the holder of its handle, with its effect on what the workers
share. -/
def move (rules : List Rule) (w : Worker) : Move → Option Effect × Worker
  | .work => w.work rules
  | .die => (none, w.die)
  | .poll => (none, w.onHandle (·.poll.2))
  | .wait => (none, { w with handle? := w.handle?.filter (·.wait?.isNone) })
  | .release => (none, { w with handle? := none })

end Worker

/-- The workers in the order of their loans, the filter that they apply, by itself in a list, and
what they logged. -/
structure Pool where
  workers : List Worker
  filters : List Filter
  log : List LogLine

/-- What may happen next. -/
inductive Turn where
  | submit (loan : Loan)
  | move (index : Nat) (m : Move)

/-- The loan that a turn submits. -/
def Turn.submitted? : Turn → Option Loan
  | submit loan => some loan
  | move _ _ => none

namespace Pool

/-- Nothing is submitted. -/
def start (f : Filter) : Pool := ⟨[], [f], []⟩

/-- The rules that the workers ask. -/
def rules (p : Pool) : List Rule := p.filters.map Filter.rule

/-- The effect of one turn. -/
def perform (p : Pool) : Option Effect → Pool
  | none => p
  | some effect =>
    { p with filters := effect.onFilters p.filters, log := p.log ++ effect.lines }

/-- One turn; nothing happens if there is no such worker. -/
def turn (p : Pool) : Turn → Pool
  | .submit loan => { p with workers := p.workers ++ [.ofLoan loan] }
  | .move index m =>
    match p.workers[index]? with
    | none => p
    | some w =>
      let (effect, w) := w.move p.rules m
      { p with workers := p.workers.set index w }.perform effect

/-- The turns of a schedule. -/
def run (p : Pool) (schedule : List Turn) : Pool := schedule.foldl turn p

/-- The handle to the verdict of a worker, while somebody holds it. -/
def handle? (p : Pool) (index : Nat) : Option Handle := p.workers[index]?.bind Worker.handle?

end Pool

end LoanDesk
