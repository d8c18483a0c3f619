import LoanDesk.Filter.Set

/-!
# Verdicts that are computed elsewhere

A filter may be applied to a loan by a worker, which sends its one verdict to whoever holds the
handle.  A handle remembers the verdict that it has received, so it answers the same ever after; of
a worker that ends without a verdict it reports a rejection.

Main statements: `Handle.poll_poll` and `Handle.wait_of_poll`, a verdict once seen stays.
-/

namespace LoanDesk

/-- The way from a worker to whoever holds its handle; a worker sends no more than one verdict. -/
structure Channel where
  /-- What was sent and nobody has received. -/
  message : Option Bool
  /-- The worker has not ended. -/
  connected : Bool
deriving DecidableEq, Repr

/-- A claim to the verdict of one worker. -/
structure Handle where
  channel : Channel
  verdict : Option Bool
deriving DecidableEq, Repr

namespace Handle

/-- The handle of a worker that has not begun. -/
def fresh : Handle := ⟨⟨none, true⟩, none⟩

/-- The handle after its worker sent a verdict. -/
def send (h : Handle) (verdict : Bool) : Handle :=
  { h with channel := { h.channel with message := some verdict } }

/-- The handle after its worker ended. -/
def hangUp (h : Handle) : Handle := { h with channel := { h.channel with connected := false } }

/-- The verdict if it is known, without waiting for it, and the handle that remembers it. -/
def poll (h : Handle) : Option Bool × Handle :=
  match h.verdict, h.channel with
  | some v, _ => (some v, h)
  | none, ⟨some v, connected⟩ => (some v, ⟨⟨none, connected⟩, some v⟩)
  | none, ⟨none, true⟩ => (none, h)
  | none, ⟨none, false⟩ => (some false, { h with verdict := some false })

/-- The verdict that waiting ends with, unless the worker neither sends one nor ends. -/
def wait? (h : Handle) : Option Bool :=
  match h.verdict, h.channel with
  | some v, _ => some v
  | none, ⟨some v, _⟩ => some v
  | none, ⟨none, true⟩ => none
  | none, ⟨none, false⟩ => some false

/-- A handle that has its answer keeps it. -/
theorem poll_poll {h : Handle} {v : Bool} (hv : h.poll.1 = some v) :
    h.poll.2.poll = (some v, h.poll.2) := by
  unfold poll at hv ⊢
  split at hv <;> simp_all

/-- Waiting for an answer that is there gives it. -/
theorem wait_of_poll {h : Handle} {v : Bool} (hv : h.poll.1 = some v) :
    h.poll.2.wait? = some v := by
  unfold poll at hv ⊢
  split at hv <;> simp_all [wait?]

end Handle

namespace Filter

/-- The filter after a worker applied it to a loan, with the handle of that worker. -/
def submit (f : Filter) (loan : Loan) : Handle × Filter × List LogLine :=
  let outcome := f.rule.outcome loan
  ((Handle.fresh.send outcome.keeps).hangUp, f.count outcome, f.rule.log loan outcome)

/-- One worker for each loan; the handles are in the order of the loans. -/
def submitAll (f : Filter) : List Loan → List Handle × Filter × List LogLine
  | [] => ([], f, [])
  | loan :: loans =>
    let (handle, f, log) := f.submit loan
    let (handles, f, logs) := f.submitAll loans
    (handle :: handles, f, log ++ logs)

end Filter

end LoanDesk
