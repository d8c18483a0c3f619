import LoanDesk.Filter.Pool.Turns
import LoanDesk.Filter.SelfTest

/-!
# A filter in use

A filter is applied to loans by itself, as one of the filters of a set, by the workers of a pool and
in tests.  In between it is asked for verdicts and for its counts, and its counts are reset.  The
workers of the pool take their turns in the meantime, so a loan that is submitted early may be
looked at late.

Main definitions: `Session.step`, what one event does, and `Session.run`, what a list of events
comes to; `Session.Orderly`, the lists of events in which no reset falls into the middle of an
application.
-/

namespace LoanDesk

/-- What may be done with a set of filters. -/
inductive SetUse where
  | screen (loan : Loan)
  | filter (loans : List Loan)
  | select (loans : List Loan) (owned : IdSet)
  | filterInParallel (loans : List Loan) (schedule : List Nat)
  | selectInParallel (loans : List Loan) (owned : IdSet) (schedule : List Nat)
  | test (loans : List Loan)

namespace SetUse

/-- The filters after a use of their set, with what it logs. -/
def on (filters : List Filter) : SetUse → List Filter × List LogLine
  | screen loan =>
    let r := FilterSet.screen loan filters
    (r.filters, r.log)
  | filter loans =>
    let r := FilterSet.filter filters loans
    (r.filters, r.log)
  | select loans owned =>
    let r := FilterSet.select filters loans owned
    (r.filters, r.log)
  | filterInParallel loans schedule =>
    let crew := FilterSet.filterInParallel filters loans schedule
    (crew.filters, crew.log)
  | selectInParallel loans owned schedule =>
    let crew := FilterSet.selectInParallel filters loans owned schedule
    (crew.filters, crew.log)
  | test loans =>
    let r := SelfTest.run filters loans
    (r.filters, r.log)

/-- The schedule of a use in parallel goes on until all tasks have ended. -/
def Ends (filters : List Filter) : SetUse → Prop
  | filterInParallel loans schedule =>
    (FilterSet.filterInParallel filters loans schedule).Finished
  | selectInParallel loans owned schedule =>
    (FilterSet.selectInParallel filters loans owned schedule).Finished
  | _ => True

instance (filters : List Filter) : (use : SetUse) → Decidable (use.Ends filters)
  | screen _ => .isTrue trivial
  | filter _ => .isTrue trivial
  | select _ _ => .isTrue trivial
  | filterInParallel loans schedule =>
    inferInstanceAs (Decidable (FilterSet.filterInParallel filters loans schedule).Finished)
  | selectInParallel loans owned schedule =>
    inferInstanceAs (Decidable (FilterSet.selectInParallel filters loans owned schedule).Finished)
  | test _ => .isTrue trivial

end SetUse

/-- What may happen to a filter. -/
inductive Event where
  /-- It is applied to a loan, here or by a worker that is waited for. -/
  | apply (loan : Loan)
  /-- It is asked for its verdict on a loan. -/
  | evaluate (loan : Loan)
  /-- It is asked for its counts. -/
  | stats
  | reset
  /-- It is used in a set, between other filters. -/
  | inSet (front back : List Filter) (use : SetUse)
  /-- The pool, whose workers apply it, takes a turn. -/
  | turn (t : Turn)

/-- A filter, the workers that were given it, and what has been logged. -/
structure Session where
  filter : Filter
  workers : List Worker
  log : List LogLine

namespace Session

/-- Nothing has happened to the filter. -/
def start (f : Filter) : Session := ⟨f, [], []⟩

/-- The pool of the workers. -/
def pool (s : Session) : Pool := ⟨s.workers, [s.filter], s.log⟩

/-- What one event does. -/
def step (s : Session) : Event → Session
  | .apply loan =>
    let outcome := s.filter.rule.outcome loan
    { s with
      filter := s.filter.count outcome
      log := s.log ++ s.filter.rule.log loan outcome }
  | .evaluate _ => s
  | .stats => s
  | .reset => { s with filter := s.filter.reset }
  | .inSet front back use =>
    let (filters, log) := use.on (front ++ s.filter :: back)
    { s with filter := filters[front.length]?.getD s.filter, log := s.log ++ log }
  | .turn t =>
    let p := s.pool.turn t
    ⟨p.filters.headD s.filter, p.workers, p.log⟩

/-- What a list of events does. -/
def run (s : Session) (events : List Event) : Session := events.foldl step s

/-- No worker is in the middle of applying the filter. -/
def AtRest (s : Session) : Prop :=
  ∀ w ∈ s.workers, w.task.stage.isDone = true ∨ w.task.stage = .asking 0

instance (s : Session) : Decidable s.AtRest :=
  inferInstanceAs (Decidable
    (∀ w ∈ s.workers, w.task.stage.isDone = true ∨ w.task.stage = .asking 0))

/-- A reset waits for the applications that are under way, and a set is used until its tasks have
ended. -/
def Allows (s : Session) : Event → Prop
  | .reset => s.AtRest
  | .inSet front back use => use.Ends (front ++ s.filter :: back)
  | _ => True

instance (s : Session) : (event : Event) → Decidable (s.Allows event)
  | .apply _ => .isTrue trivial
  | .evaluate _ => .isTrue trivial
  | .stats => .isTrue trivial
  | .reset => inferInstanceAs (Decidable s.AtRest)
  | .inSet front back use => inferInstanceAs (Decidable (use.Ends (front ++ s.filter :: back)))
  | .turn _ => .isTrue trivial

/-- Each event is allowed when it happens. -/
def Orderly (s : Session) : List Event → Prop
  | [] => True
  | event :: events => s.Allows event ∧ (s.step event).Orderly events

instance decidableOrderly : (s : Session) → (events : List Event) → Decidable (s.Orderly events)
  | _, [] => .isTrue trivial
  | s, event :: events =>
    have := decidableOrderly (s.step event) events
    inferInstanceAs (Decidable (s.Allows event ∧ (s.step event).Orderly events))

end Session

end LoanDesk
