import LoanDesk.Filter.Session
import LoanDesk.Proofs.Filter.Pool
import LoanDesk.Proofs.Filter.SelfTest

/-!
# What a filter has counted

Whatever happens to a filter, its counts are those of applying it to some loans, one after the other
(`Session.Accounts`): the loans that it was applied to since its counts were last reset.  In a set
these are the loans that the filters in front of it keep, whether one loan is looked at after the
other or all at once; in a test these are all loans.  A worker that is in the middle of an
application has had the first of the effects that applying the filter has, and these commute with
all others, so other events may come in between.

Main statement: `Session.run_counts`.
-/

namespace LoanDesk

/-! ### One filter of a set -/

namespace FilterSet

variable (front : List Filter) (f : Filter) (back : List Filter) (loans : List Loan)

/-- A filter sees the loans that those in front of it keep. -/
lemma getElem?_filter_filters :
    (filter (front ++ f :: back) loans).filters[front.length]? =
      some ((loans.filter (keeps front)).foldl Filter.apply f) := by
  induction front generalizing loans with
  | nil =>
    have all : loans.filter (keeps []) = loans := List.filter_eq_self.2 fun _ _ => rfl
    rw [all, List.nil_append, (filter_cons loans f back).1]
    rfl
  | cons g front ih =>
    have kept : loans.filter (keeps (g :: front)) =
        (loans.filter g.rule.keeps).filter (keeps front) := filter_and loans ..
    rw [kept, List.cons_append, (filter_cons loans g (front ++ f :: back)).1]
    exact ih (loans.filter g.rule.keeps)

/-- Filters behind others warn of the loans that those in front keep. -/
lemma warnings_append (rs ss : List Rule) :
    warnings (rs ++ ss) loans =
      warnings rs loans ++ warnings ss (loans.filter fun loan => rs.all (·.keeps loan)) := by
  induction rs generalizing loans with
  | nil =>
    have all : (loans.filter fun loan => ([] : List Rule).all (·.keeps loan)) = loans :=
      List.filter_eq_self.2 fun _ _ => rfl
    rw [all]
    rfl
  | cons r rs ih =>
    have kept : (loans.filter fun loan => (r :: rs).all (·.keeps loan)) =
        (loans.filter r.keeps).filter fun loan => rs.all (·.keeps loan) := filter_and loans ..
    rw [kept, List.cons_append, warnings, warnings, ih, List.append_assoc]

end FilterSet

namespace SetUse

/-- The loans that a use puts to a set. -/
def loans : SetUse → List Loan
  | screen loan => [loan]
  | filter loans => loans
  | select loans owned => FilterSet.dropOwned owned loans
  | filterInParallel loans _ => loans
  | selectInParallel loans owned _ => FilterSet.dropOwned owned loans
  | test loans => loans

/-- The loans that a use applies a filter to, behind others that have to keep them first; a test
applies each filter to all loans. -/
def applied (front : List Filter) : SetUse → List Loan
  | test loans => loans
  | use => use.loans.filter (FilterSet.keeps front)

/-- The lines about the loans of a use, beside the warnings of the filter with the rule `r`: those
of the filters before it and behind it, and what a test says of its results. -/
def otherLines (front : List Filter) (r : Rule) (back : List Filter) : SetUse → List LogLine
  | test loans =>
    (SelfTest.Result.ofRule r loans).log loans ++
      (front ++ back).flatMap fun f =>
        f.rule.warnings loans ++ (SelfTest.Result.ofRule f.rule loans).log loans
  | use =>
    FilterSet.warnings (front.map Filter.rule) use.loans ++
      FilterSet.warnings (back.map Filter.rule) ((use.applied front).filter r.keeps)

/-- A use of a set that ends up with the filters and the lines applies its filter `f` to the loans,
and leaves the other lines. -/
structure Applies (front : List Filter) (f : Filter) (loans : List Loan) (others : List LogLine)
    (filters : List Filter) (log : List LogLine) : Prop where
  filter : filters[front.length]? = some (loans.foldl Filter.apply f)
  log : log.Perm (f.rule.warnings loans ++ others)

variable (front : List Filter) (f : Filter) (back : List Filter)

/-- Screening a list applies a filter to the loans that those in front of it keep. -/
lemma applies_filter (loans : List Loan) :
    Applies front f (loans.filter (FilterSet.keeps front))
      (FilterSet.warnings (front.map Filter.rule) loans ++
        FilterSet.warnings (back.map Filter.rule)
          ((loans.filter (FilterSet.keeps front)).filter f.rule.keeps))
      (FilterSet.filter (front ++ f :: back) loans).filters
      (FilterSet.filter (front ++ f :: back) loans).log where
  filter := FilterSet.getElem?_filter_filters front f back loans
  log := by
    refine (FilterSet.filter_log loans (front ++ f :: back)).trans ?_
    rw [List.map_append, List.map_cons, FilterSet.warnings_append, FilterSet.warnings]
    simp only [← FilterSet.keeps_eq_all]
    rw [← List.append_assoc, ← List.append_assoc]
    exact List.perm_append_comm.append_right _

/-- A test applies each filter to all loans. -/
lemma applies_test (loans : List Loan) :
    Applies front f loans ((test loans).otherLines front f.rule back)
      (SelfTest.run (front ++ f :: back) loans).filters
      (SelfTest.run (front ++ f :: back) loans).log := by
  rw [SelfTest.run, SelfTest.results_eq]
  refine ⟨by simp, ?_⟩
  show List.Perm ((front ++ f :: back).flatMap _) _
  rw [otherLines, List.flatMap_append, List.flatMap_cons, List.flatMap_append,
    ← List.append_assoc (f.rule.warnings loans)]
  exact List.perm_append_comm_assoc ..

/-- Each use applies a filter to the loans that reach it. -/
lemma applies {use : SetUse} (ends : use.Ends (front ++ f :: back)) :
    Applies front f (use.applied front) (use.otherLines front f.rule back)
      (use.on (front ++ f :: back)).1 (use.on (front ++ f :: back)).2 := by
  have parallel {loans : List Loan} {schedule : List Nat}
      (finished : (FilterSet.filterInParallel (front ++ f :: back) loans schedule).Finished) := by
    have agrees := FilterSet.filterInParallel_agrees finished
    have sequential := applies_filter front f back loans
    rw [← agrees.filters] at sequential
    exact (⟨sequential.filter, agrees.log.trans sequential.log⟩ : Applies ..)
  cases use with
  | screen loan =>
    have one := applies_filter front f back [loan]
    rw [FilterSet.filter, FilterSet.filter, List.append_nil] at one
    exact one
  | filter loans => exact applies_filter front f back loans
  | select loans owned => exact applies_filter front f back (FilterSet.dropOwned owned loans)
  | filterInParallel loans schedule => exact parallel ends
  | selectInParallel loans owned schedule => exact parallel ends
  | test loans => exact applies_test front f back loans

end SetUse

/-! ### Applications by workers -/

namespace Filter

/-- Applying a filter commutes with the effects of others who apply it. -/
lemma allOn_asked_comm (f : Filter) (effects : List Effect) (loans : List Loan) :
    Effect.allOn (Effect.allOn [f] effects) (loans.flatMap (Stage.asked · 0 [f.rule])) =
      Effect.allOn [loans.foldl apply f] effects := by
  rw [← Effect.allOn_append, Effect.allOn_perm List.perm_append_comm, Effect.allOn_append,
    allOn_flatMap_asked]

end Filter

/-- Asking a filter about loans logs its warnings of them. -/
lemma Rule.allLines_flatMap_asked (r : Rule) (loans : List Loan) :
    Effect.allLines (loans.flatMap (Stage.asked · 0 [r])) = r.warnings loans := by
  rw [← r.flatMap_log, Effect.allLines, List.flatMap_assoc]
  exact List.flatMap_congr fun loan _ => r.allLines_asked loan

/-- Effects on one filter leave one filter. -/
lemma Effect.allOn_singleton (f : Filter) (effects : List Effect) :
    ∃ g, allOn [f] effects = [g] := by
  have rules : (allOn [f] effects).map Filter.rule = [f.rule] := rules_allOn [f] effects
  obtain ⟨g, h, -⟩ := List.map_eq_singleton_iff.1 rules
  exact ⟨g, h⟩

/-- Only a worker that is not done goes on with its task. -/
lemma Worker.MovesTo.task {rules : List Rule} {w w' : Worker} {effect : Option Effect}
    (moves : MovesTo rules w effect w') :
    w'.task = w.task ∨ w.task.stage.isDone = false ∧ w'.task.loan = w.task.loan := by
  cases moves with
  | apply _ running => exact .inr ⟨running, rfl⟩
  | _ => exact .inl rfl

namespace Pool

/-- The loans of the workers that were not done before and are done after. -/
def completed : List Worker → List Worker → List Loan
  | w :: before, w' :: after =>
    if !w.task.stage.isDone && w'.task.stage.isDone then w.task.loan :: completed before after
    else completed before after
  | _, _ => []

/-- Workers that stay as they are complete nothing. -/
lemma completed_append (workers before after : List Worker) :
    completed (workers ++ before) (workers ++ after) = completed before after := by
  induction workers with
  | nil => rfl
  | cons w workers ih => simpa [completed] using ih

/-- No worker is completed where nothing moved. -/
lemma completed_self (workers : List Worker) : completed workers workers = [] := by
  simpa [completed] using completed_append workers [] []

variable {p : Pool}

/-- A turn brings at most one worker to its end. -/
lemma applied_turn (p : Pool) (t : Turn) :
    (p.turn t).applied.Perm (p.applied ++ completed p.workers (p.turn t).workers) := by
  rcases p.turn_cases t with ⟨loan, rfl, h⟩ | ⟨-, h⟩ | ⟨front, w, back, effect, w', -, workers,
    moves, h⟩
  · have none : completed p.workers (p.workers ++ [.ofLoan loan]) = [] := by
      simpa [completed] using completed_append p.workers [] [.ofLoan loan]
    rw [h, none, List.append_nil, applied, List.filter_append, List.map_append]
    exact .of_eq (List.append_nil _)
  · rw [h, completed_self, List.append_nil]
  · have one : ([w'].filter (·.task.stage.isDone)).map (·.task.loan) =
        ([w].filter (·.task.stage.isDone)).map (·.task.loan) ++ completed [w] [w'] := by
      rcases moves.task with same | ⟨running, loan⟩
      · cases done : w.task.stage.isDone <;> simp [completed, same, done]
      · cases done : w'.task.stage.isDone <;> simp [completed, running, loan, done]
    have others : completed (w :: back) (w' :: back) = completed [w] [w'] := by
      simp [completed, completed_self]
    have split (workers : List Worker) (w : Worker) : w :: workers = [w] ++ workers := rfl
    rw [h, applied, applied, workers_perform, workers, completed_append, others, split back w',
      split back w]
    simp only [List.filter_append, List.map_append, one, List.append_assoc]
    exact (List.perm_append_comm.append_left _).append_left _

/-- What a turn does completes some of what is begun, and begins more. -/
lemma Performs.begun {r : Rule} {t : Turn} {effects : List Effect}
    (performs : p.Performs r (p.turn t) effects) (sound : ∀ w ∈ p.workers, w.Sound r) :
    (p.begun r ++ effects).Perm
      ((completed p.workers (p.turn t).workers).flatMap (Stage.asked · 0 [r]) ++
        (p.turn t).begun r) := by
  have before := (performed_perm sound).append_right effects
  have after := performed_perm performs.workers
  have applied : ((p.turn t).applied.flatMap (Stage.asked · 0 [r])).Perm
      (p.applied.flatMap (Stage.asked · 0 [r]) ++
        (completed p.workers (p.turn t).workers).flatMap (Stage.asked · 0 [r])) := by
    rw [← List.flatMap_append]
    exact (p.applied_turn t).flatMap_right _
  have all := before.symm.trans
    (performs.performed.trans (after.trans (applied.append_right ((p.turn t).begun r))))
  rw [List.append_assoc, List.append_assoc] at all
  exact (List.perm_append_left_iff _).1 all

end Pool

/-! ### The history of a filter -/

/-- What has happened to a filter. -/
structure History where
  /-- The loans that it was applied to since its counts were last reset. -/
  since : List Loan
  /-- All loans that it was applied to. -/
  all : List Loan
  /-- What was logged beside its warnings. -/
  others : List LogLine

namespace Session

/-- The loans that an event applies the filter to. -/
def applied (s : Session) : Event → List Loan
  | .apply loan => [loan]
  | .inSet front _ use => use.applied front
  | .turn t => Pool.completed s.workers (s.pool.turn t).workers
  | _ => []

/-- What an event logs beside the warnings of the filter. -/
def otherLines (s : Session) : Event → List LogLine
  | .inSet front back use => use.otherLines front s.filter.rule back
  | _ => []

end Session

namespace History

/-- Nothing has happened. -/
def none : History := ⟨[], [], []⟩

/-- The history after an event. -/
def after (h : History) (s : Session) (event : Event) : History where
  since :=
    match event with
    | .reset => []
    | _ => h.since ++ s.applied event
  all := h.all ++ s.applied event
  others := h.others ++ s.otherLines event

/-- The history after a list of events. -/
def afterAll (h : History) (s : Session) : List Event → History
  | [] => h
  | event :: events => (h.after s event).afterAll (s.step event) events

lemma append_nil (h : History) : History.mk (h.since ++ []) (h.all ++ []) (h.others ++ []) = h := by
  rw [List.append_nil, List.append_nil, List.append_nil]

/-- The filter that has been applied to the loans since its counts were reset. -/
def filter (r : Rule) (h : History) : Filter := h.since.foldl Filter.apply ⟨r, .zero⟩

/-- The filter of a history has the rule that was applied. -/
lemma rule_filter (r : Rule) (h : History) : (h.filter r).rule = r := by
  rw [filter, Filter.foldl_apply]

end History

namespace Session

/-- The counts and the log are those of applying the rule to the loans of a history, and of the
applications that are begun. -/
structure Accounts (r : Rule) (h : History) (s : Session) : Prop where
  rule : s.filter.rule = r
  workers : ∀ w ∈ s.workers, w.Sound r
  filter : [s.filter] = Effect.allOn [h.filter r] (s.pool.begun r)
  log : s.log.Perm (r.warnings h.all ++ h.others ++ Effect.allLines (s.pool.begun r))

variable {r : Rule} {h : History} {s : Session}

/-- A filter that was just made accounts for an empty history. -/
lemma Accounts.start (source : String) (polarity : Polarity) :
    (start (.ofSource source polarity)).Accounts (.ofSource source polarity) .none where
  rule := rfl
  workers := nofun
  filter := rfl
  log := .refl _

/-- The filter is applied to some more loans, while no worker takes a turn. -/
lemma Accounts.extend (accounts : s.Accounts r h) {f : Filter} {loans : List Loan}
    {others lines : List LogLine} (filter : f = loans.foldl Filter.apply s.filter)
    (logged : lines.Perm (r.warnings loans ++ others)) :
    Accounts r ⟨h.since ++ loans, h.all ++ loans, h.others ++ others⟩
      ⟨f, s.workers, s.log ++ lines⟩ where
  rule := by rw [filter, Filter.foldl_apply, accounts.rule]
  workers := accounts.workers
  filter := by
    have direct := s.filter.allOn_flatMap_asked loans
    have swapped := (h.filter r).allOn_asked_comm (s.pool.begun r) loans
    rw [accounts.rule] at direct
    rw [h.rule_filter, ← accounts.filter, direct] at swapped
    rw [filter, swapped, History.filter, History.filter, List.foldl_append]
    rfl
  log := by
    refine (accounts.log.append logged).trans (List.perm_iff_count.2 fun line => ?_)
    simp only [Rule.warnings_append, List.count_append, pool, Pool.begun]
    omega

/-- The pool has effects that complete applications to some loans. -/
lemma Accounts.perform (accounts : s.Accounts r h) {f : Filter} {workers : List Worker}
    {loans : List Loan} {effects : List Effect} (sound : ∀ w ∈ workers, w.Sound r)
    (filter : [f] = Effect.allOn [s.filter] effects)
    (begun : (s.pool.begun r ++ effects).Perm
      (loans.flatMap (Stage.asked · 0 [r]) ++ Pool.begun ⟨workers, [f], []⟩ r)) :
    Accounts r ⟨h.since ++ loans, h.all ++ loans, h.others⟩
      ⟨f, workers, s.log ++ Effect.allLines effects⟩ where
  rule := by
    have kept : [f].map Filter.rule = [s.filter.rule] :=
      filter ▸ Effect.rules_allOn [s.filter] effects
    rw [accounts.rule] at kept
    exact List.head_eq_of_cons_eq kept
  workers := sound
  filter := by
    have completed := (h.filter r).allOn_flatMap_asked loans
    rw [h.rule_filter] at completed
    rw [filter, accounts.filter, ← Effect.allOn_append, Effect.allOn_perm begun,
      Effect.allOn_append, completed, History.filter, History.filter, List.foldl_append]
    rfl
  log := by
    have lines := Effect.allLines_perm begun
    rw [Effect.allLines_append, Effect.allLines_append, r.allLines_flatMap_asked] at lines
    refine (accounts.log.append_right _).trans (List.perm_iff_count.2 fun line => ?_)
    have same := lines.count_eq line
    simp only [Rule.warnings_append, List.count_append, pool, Pool.begun] at same ⊢
    omega

/-- A turn of the pool keeps the accounts. -/
lemma Accounts.turn (accounts : s.Accounts r h) (t : Turn) :
    (s.step (.turn t)).Accounts r (h.after s (.turn t)) := by
  have rules : s.pool.rules = [r] := congrArg ([·]) accounts.rule
  obtain ⟨effects, performs⟩ := Pool.turn_performs rules accounts.workers t
  obtain ⟨f, filters⟩ := Effect.allOn_singleton s.filter effects
  have stepped : s.step (.turn t) =
      ⟨f, (s.pool.turn t).workers, s.log ++ Effect.allLines effects⟩ := by
    have found : (s.pool.turn t).filters = [f] := performs.filters.trans filters
    rw [step, found, performs.log]
    rfl
  have history : h.after s (.turn t) =
      ⟨h.since ++ s.applied (.turn t), h.all ++ s.applied (.turn t), h.others⟩ :=
    congrArg (History.mk _ _) (List.append_nil _)
  rw [stepped, history]
  exact accounts.perform performs.workers filters.symm (performs.begun accounts.workers)

/-- An event that is allowed keeps the accounts. -/
lemma Accounts.step (accounts : s.Accounts r h) {event : Event} (allowed : s.Allows event) :
    (s.step event).Accounts r (h.after s event) := by
  cases event with
  | apply loan =>
    have lines : s.filter.rule.log loan (s.filter.rule.outcome loan) = r.warnings [loan] := by
      rw [← r.flatMap_log, accounts.rule, List.flatMap_singleton]
    exact accounts.extend rfl (.of_eq (lines.trans (List.append_nil _).symm))
  | evaluate loan =>
    have same : h.after s (.evaluate loan) = h := h.append_nil
    rw [same]
    exact accounts
  | stats =>
    have same : h.after s .stats = h := h.append_nil
    rw [same]
    exact accounts
  | reset =>
    have none : (s.step .reset).pool.begun r = [] := Pool.begun_eq_nil allowed
    refine ⟨accounts.rule, accounts.workers, ?_, ?_⟩
    · rw [none, ← accounts.rule]
      rfl
    · rw [History.after]
      show s.log.Perm (r.warnings (h.all ++ []) ++ (h.others ++ []) ++ _)
      rw [List.append_nil, List.append_nil]
      exact accounts.log
  | inSet front back use =>
    have applies := use.applies front s.filter back allowed
    have logged := applies.log
    rw [accounts.rule] at logged
    have stepped := accounts.extend (congrArg (·.getD s.filter) applies.filter) logged
    rw [← accounts.rule] at stepped ⊢
    exact stepped
  | turn t => exact accounts.turn t

/-- Every list of events leaves the counts and the log that its history accounts for. -/
theorem Accounts.run (accounts : s.Accounts r h) {events : List Event}
    (orderly : s.Orderly events) : (s.run events).Accounts r (h.afterAll s events) := by
  induction events generalizing h s with
  | nil => exact accounts
  | cons event events ih => exact ih (accounts.step orderly.1) orderly.2

/-- At rest the counts are the tally of the loans since they were reset. -/
lemma Accounts.counts (accounts : s.Accounts r h) (rest : s.AtRest) :
    let t := r.tally h.since
    s.filter.counts = ⟨.ofNat t.passed, .ofNat t.failed, .ofNat t.errors⟩ := by
  have none : s.pool.begun r = [] := Pool.begun_eq_nil rest
  have filter := accounts.filter
  rw [none, History.filter, Filter.foldl_apply] at filter
  have counts : s.filter.counts = Counts.zero.add (r.tally h.since) :=
    congrArg Filter.counts (List.head_eq_of_cons_eq filter)
  rw [counts, Counts.add, Counts.zero, UInt64.zero_add, UInt64.zero_add, UInt64.zero_add]

/-- Two lists of events run one after the other. -/
lemma run_append (s : Session) (events more : List Event) :
    s.run (events ++ more) = (s.run events).run more :=
  List.foldl_append

/-- Whatever has happened to a filter, in any order, its verdicts are those that it had in the
beginning.  When no worker is in the middle of applying it, it has counted, modulo `2 ^ 64`, the
loans that it was applied to since its counts were last reset: those that it passed, those that it
did not pass, and those among them that it has no verdict on.  It has left one warning for each loan
that it was ever applied to and has no verdict on, in some order among the lines of others.  Asking
for a verdict or for the counts changes nothing, then or later. -/
theorem run_counts (source : String) (polarity : Polarity) {events : List Event}
    (orderly : (start (.ofSource source polarity)).Orderly events) :
    let r := Rule.ofSource source polarity
    let s := (start (.ofSource source polarity)).run events
    let h := History.none.afterAll (start (.ofSource source polarity)) events
    (∀ loan, s.filter.rule.evaluate loan = r.evaluate loan ∧
      s.filter.rule.keeps loan = r.keeps loan) ∧
    (s.AtRest →
      s.filter.counts.passed + s.filter.counts.failed = .ofNat h.since.length ∧
      s.filter.counts.passed = .ofNat (h.since.countP fun loan => r.evaluate loan = .ok true) ∧
      s.filter.counts.errors = .ofNat (h.since.countP fun loan => !(r.evaluate loan).isOk) ∧
      (h.since.length < 2 ^ 64 → s.filter.counts.errors ≤ s.filter.counts.failed) ∧
      s.log.Perm (r.warnings h.all ++ h.others)) ∧
    ∀ more loan,
      (start (.ofSource source polarity)).run (events ++ .evaluate loan :: more) = s.run more ∧
        (start (.ofSource source polarity)).run (events ++ .stats :: more) = s.run more := by
  intro r s h
  have accounts : s.Accounts r h := (Accounts.start source polarity).run orderly
  refine ⟨fun loan => ?_, fun rest => ?_, fun more loan => ?_⟩
  · rw [accounts.rule]
    exact ⟨rfl, rfl⟩
  · have all := r.passed_add_failed h.since
    have le := r.errors_le_failed h.since
    rw [accounts.counts rest]
    refine ⟨?_, rfl, rfl, fun bound => ?_, ?_⟩
    · rw [← all, UInt64.ofNat_add]
    · have errors := toNat_ofNat_countP bound fun loan => !(r.evaluate loan).isOk
      have failed := toNat_ofNat_countP bound fun loan => r.evaluate loan ≠ .ok true
      exact UInt64.le_iff_toNat_le.2 (errors.le.trans (le.trans failed.ge))
    · have none : s.pool.begun r = [] := Pool.begun_eq_nil rest
      have log := accounts.log
      rw [none] at log
      exact log.trans (.of_eq (List.append_nil _))
  · exact ⟨run_append .., run_append ..⟩

/-- Of two loans that are submitted before the reset, one is never looked at, and the other only
after it: the warning comes before the set is used in parallel, and the counts after that. -/
theorem run_counts_late :
    let loan (id : String) (rate : Value) : Loan := .ofFields [("id", .text id), ("rate", rate)]
    let fair := Filter.ofSource "{rate} > 5" .inclusion
    let others := [Filter.ofSource "{id} == '1'" .exclusion]
    let events : List Event := [.apply (loan "1" (.text "9")), .turn (.submit (loan "2" .null)),
      .turn (.submit (loan "1" .null)), .evaluate (loan "1" .null), .reset,
      .turn (.move 0 .work), .turn (.move 0 .work),
      .inSet others [] (.filterInParallel [loan "1" .null, loan "3" (.text "7"), loan "4" .null]
        [1, 2, 0, 2, 1, 0, 0, 2, 2, 1, 1, 1, 1, 2, 2, 2]),
      .turn (.move 0 .work), .turn (.move 0 .work), .stats,
      .inSet [] others (.test [loan "5" (.text "3")])]
    let s := (start fair).run events
    let h := History.none.afterAll (start fair) events
    (start fair).Orderly events ∧ s.AtRest ∧ h.since.map Loan.displayId = ["3", "4", "2", "5"] ∧
      s.filter.counts = ⟨1, 3, 2⟩ ∧ s.filter.counts.errors ≤ s.filter.counts.failed ∧
      s.log.Perm (fair.rule.warnings h.all ++ h.others) ∧
      (fair.rule.warnings h.all).length = 2 := by
  intro loan fair others events s h
  have orderly : (start fair).Orderly events := by decide +kernel
  have rest : s.AtRest := by decide +kernel
  obtain ⟨-, counted, -⟩ := run_counts "{rate} > 5" .inclusion orderly
  obtain ⟨-, -, -, le, log⟩ := counted rest
  exact ⟨orderly, rest, by decide +kernel, by decide +kernel, le (by decide +kernel), log,
    by decide +kernel⟩

end Session

end LoanDesk
