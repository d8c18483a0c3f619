import LoanDesk.Filter.Parallel
import Mathlib.Data.List.Perm.Basic
import Mathlib.Tactic.Ring

/-!
# Filtering in parallel keeps what filtering in order keeps

Each task has a fixed list of effects before it (`Stage.pending`) and a fixed verdict
(`Stage.verdict`): a step takes one effect off the front of the list and changes neither the rest
nor the verdict, and no task changes the rules that the others ask.  So after any schedule the
effects performed and those that are still to come are, in some order, all effects of all tasks
(`Crew.run_performed`), and those that filtering in order has are the same ones, loan by loan.
Increments commute, so the counts that they leave are the same too.

Main statements: `FilterSet.parallel_eq_sequential`, every schedule that ends all tasks comes to
what filtering in order comes to, and every schedule goes on to such a one.
-/

namespace LoanDesk

/-! ### Effects in any order -/

namespace Counts

/-- Increments of the counters of one filter commute. -/
lemma bump_bump (c : Counts) (a b : Counter) : (c.bump a).bump b = (c.bump b).bump a := by
  cases a <;> cases b <;> rfl

end Counts

namespace Effect

/-- The filters after some effects, one after the other. -/
def allOn (filters : List Filter) (effects : List Effect) : List Filter :=
  effects.foldl onFilters filters

/-- What some effects log, one after the other. -/
def allLines (effects : List Effect) : List LogLine := effects.flatMap lines

/-- Increments of counters commute. -/
lemma onFilters_comm (filters : List Filter) (a b : Effect) :
    b.onFilters (a.onFilters filters) = a.onFilters (b.onFilters filters) := by
  cases a with
  | warn => rfl
  | count i x =>
    cases b with
    | warn => rfl
    | count j y =>
      rw [onFilters, onFilters, onFilters, onFilters]
      by_cases h : i = j
      · subst h
        rw [List.modify_modify_eq, List.modify_modify_eq]
        congr 1
        funext f
        simp only [Function.comp_apply, Filter.bump, Counts.bump_bump f.counts x y]
      · rw [List.modify_modify_ne _ _ _ h]

/-- Counting is for the filter at the place. -/
lemma onFilters_at (front : List Filter) (f : Filter) (back : List Filter) (counter : Counter) :
    (count front.length counter).onFilters (front ++ f :: back) =
      front ++ f.bump counter :: back := by
  induction front with
  | nil => rfl
  | cons g front ih => exact congrArg (g :: ·) ih

/-- The order of effects makes no difference to the filters. -/
lemma allOn_perm {as bs : List Effect} (h : as.Perm bs) (filters : List Filter) :
    allOn filters as = allOn filters bs :=
  h.foldl_eq' (fun a _ b _ fs => onFilters_comm fs a b) filters

/-- The order of effects makes a difference to no more than the order of the log. -/
lemma allLines_perm {as bs : List Effect} (h : as.Perm bs) :
    (allLines as).Perm (allLines bs) :=
  h.flatMap_right lines

/-- The effects of two lists change the filters one list after the other. -/
lemma allOn_append (filters : List Filter) (as bs : List Effect) :
    allOn filters (as ++ bs) = allOn (allOn filters as) bs :=
  List.foldl_append

/-- The effects of two lists log one list after the other. -/
lemma allLines_append (as bs : List Effect) :
    allLines (as ++ bs) = allLines as ++ allLines bs :=
  List.flatMap_append

/-- An effect leaves the rules alone. -/
lemma rules_onFilters (filters : List Filter) (effect : Effect) :
    (effect.onFilters filters).map Filter.rule = filters.map Filter.rule := by
  cases effect with
  | warn => rfl
  | count place counter =>
    refine List.ext_getElem? fun i => ?_
    rw [onFilters, List.getElem?_map, List.getElem?_map, List.getElem?_modify]
    cases filters[i]? with
    | none => rfl
    | some f => by_cases h : place = i <;> simp [h, Filter.bump]

/-- Effects leave the rules alone. -/
lemma rules_allOn (filters : List Filter) (effects : List Effect) :
    (allOn filters effects).map Filter.rule = filters.map Filter.rule := by
  induction effects generalizing filters with
  | nil => rfl
  | cons effect effects ih => exact (ih _).trans (rules_onFilters filters effect)

end Effect

/-! ### What is before a task -/

namespace Stage

variable (loan : Loan)

/-- What the rules from a place on do with a loan, in order, up to the first that does not keep
it. -/
def asked : Nat → List Rule → List Effect
  | _, [] => []
  | place, r :: rs =>
    match r.outcome loan with
    | .passed => .count place .passed :: asked (place + 1) rs
    | .rejected => [.count place .failed]
    | .broken e =>
      [.warn (r.log loan (.broken e)), .count place .errors, .count place .failed]

variable (rules : List Rule)

/-- The effects that a task is still to have. -/
def pending : Stage → List Effect
  | asking place => asked loan place (rules.drop place)
  | warning place lines => [.warn lines, .count place .errors, .count place .failed]
  | erring place => [.count place .errors, .count place .failed]
  | counting place true => .count place .passed :: asked loan (place + 1) (rules.drop (place + 1))
  | counting place false => [.count place .failed]
  | done _ => []

/-- Whether a task will keep its loan. -/
def verdict : Stage → Bool
  | asking place => (rules.drop place).all (·.keeps loan)
  | warning _ _ => false
  | erring _ => false
  | counting place true => (rules.drop (place + 1)).all (·.keeps loan)
  | counting _ false => false
  | done kept => kept

/-- A bound on the steps of a task. -/
def remaining : Stage → Nat
  | asking place => 4 * (rules.length - place) + 1
  | warning _ _ => 4
  | erring _ => 3
  | counting place true => 4 * (rules.length - (place + 1)) + 2
  | counting _ false => 2
  | done _ => 0

variable {loan rules}

/-- A task that asks the rule at a place goes on as the outcome says. -/
lemma step_asking {place : Nat} (h : place < rules.length) :
    (asking place).step rules loan = (none, ofOutcome place rules[place] loan) := by
  rw [step, List.getElem?_eq_getElem h]

/-- A task that has asked all rules is done, and its loan is kept. -/
lemma step_asking_end {place : Nat} (h : rules.length ≤ place) :
    (asking place).step rules loan = (none, done true) := by
  rw [step, List.getElem?_eq_none h]

/-- A step of a task has the first of the effects before it, if any, and leaves the others before
it. -/
lemma pending_step (s : Stage) :
    s.pending loan rules =
      (s.step rules loan).1.toList ++ (s.step rules loan).2.pending loan rules := by
  cases s with
  | asking place =>
    rcases Nat.lt_or_ge place rules.length with h | h
    · rw [step_asking h, pending, List.drop_eq_getElem_cons h, asked, ofOutcome]
      cases rules[place].outcome loan <;> rfl
    · rw [step_asking_end h, pending, List.drop_eq_nil_of_le h]
      rfl
  | counting place passed => cases passed <;> rfl
  | _ => rfl

/-- A step of a task does not change its verdict. -/
lemma verdict_step (s : Stage) :
    (s.step rules loan).2.verdict loan rules = s.verdict loan rules := by
  cases s with
  | asking place =>
    rcases Nat.lt_or_ge place rules.length with h | h
    · rw [step_asking h, verdict.eq_1, List.drop_eq_getElem_cons h, List.all_cons, ofOutcome,
        Rule.keeps]
      cases rules[place].outcome loan <;> rfl
    · rw [step_asking_end h, verdict.eq_1, List.drop_eq_nil_of_le h]
      rfl
  | counting place passed => cases passed <;> rfl
  | _ => rfl

/-- A task that has not ended gets closer to its end with each step. -/
lemma remaining_step {s : Stage} (h : s.isDone = false) :
    (s.step rules loan).2.remaining rules < s.remaining rules := by
  cases s with
  | asking place =>
    rcases Nat.lt_or_ge place rules.length with hp | hp
    · rw [step_asking hp, ofOutcome]
      cases rules[place].outcome loan <;> simp only [remaining] <;> omega
    · simp [step_asking_end hp, remaining]
  | counting place passed => cases passed <;> simp [step, remaining]
  | done => cases h
  | _ => simp [step, remaining]

/-- A task that has ended has no effects before it. -/
lemma pending_of_isDone {s : Stage} (h : s.isDone = true) : s.pending loan rules = [] := by
  cases s with
  | done => rfl
  | _ => cases h

end Stage

namespace Task

variable (rules : List Rule)

/-- The effects that a task is still to have. -/
def pending (t : Task) : List Effect := t.stage.pending t.loan rules

/-- The loan of a task that will keep it. -/
def verdict? (t : Task) : Option Loan :=
  if t.stage.verdict t.loan rules then some t.loan else none

/-- The task after one step. -/
def next (t : Task) : Task := { t with stage := (t.stage.step rules t.loan).2 }

/-- The effect of that step. -/
def effect? (t : Task) : Option Effect := (t.stage.step rules t.loan).1

variable {rules}

/-- The effect of the next step, if any, is the first of those that a task is still to have. -/
lemma pending_eq (t : Task) :
    t.pending rules = (t.effect? rules).toList ++ (t.next rules).pending rules :=
  t.stage.pending_step

/-- A step of a task changes nothing about whether it will keep its loan. -/
lemma verdict?_next (t : Task) : (t.next rules).verdict? rules = t.verdict? rules := by
  rw [verdict?, verdict?, next, t.stage.verdict_step]

/-- A task that has ended keeps its loan exactly if it was to keep it. -/
lemma verdict?_of_isDone {t : Task} (h : t.stage.isDone = true) : t.verdict? rules = t.kept? := by
  obtain ⟨loan, stage⟩ := t
  cases stage with
  | done kept => cases kept <;> rfl
  | _ => cases h

/-- A task will keep its loan exactly if all rules keep it. -/
lemma verdict?_ofLoan (loan : Loan) :
    (ofLoan loan).verdict? rules = if rules.all (·.keeps loan) then some loan else none := rfl

end Task

/-! ### What a schedule comes to -/

namespace Crew

/-- The effects that the tasks are still to have. -/
def pending (c : Crew) : List Effect := c.tasks.flatMap (·.pending c.rules)

/-- The loans that the tasks will keep. -/
def verdicts (c : Crew) : List Loan := c.tasks.filterMap (·.verdict? c.rules)

/-- The crew after effects on what the tasks share. -/
def performAll (c : Crew) (effects : List Effect) : Crew :=
  { c with filters := Effect.allOn c.filters effects, log := c.log ++ Effect.allLines effects }

/-- One effect is a list of at most one. -/
lemma perform_eq (c : Crew) (effect : Option Effect) :
    c.perform effect = c.performAll effect.toList := by
  cases effect with
  | none => simp [perform, performAll, Effect.allOn, Effect.allLines]
  | some e => simp [perform, performAll, Effect.allOn, Effect.allLines]

/-- The next step of the task after those in front. -/
lemma advance_eq {c : Crew} {front back : List Task} {t : Task}
    (h : c.tasks = front ++ t :: back) :
    c.advance front.length =
      { c with tasks := front ++ t.next c.rules :: back }.performAll
        (t.effect? c.rules).toList := by
  have found : c.tasks[front.length]? = some t := by simp [h]
  rw [advance, found]
  simp only [perform_eq, h, List.set_append_right _ _ (Nat.le_refl _), Nat.sub_self,
    List.set_cons_zero]
  rfl

/-- The step of a task changes that task and leaves the others alone. -/
lemma advance_tasks {c : Crew} {front back : List Task} {t : Task}
    (h : c.tasks = front ++ t :: back) :
    (c.advance front.length).tasks = front ++ t.next c.rules :: back := by
  rw [advance_eq h]
  rfl

/-- No task changes the rules that the others ask. -/
lemma advance_rules {c : Crew} {front back : List Task} {t : Task}
    (h : c.tasks = front ++ t :: back) : (c.advance front.length).rules = c.rules := by
  rw [advance_eq h]
  exact Effect.rules_allOn _ _

/-- All that can happen next is one step of one task. -/
lemma advance_cases (c : Crew) (index : Nat) :
    c.advance index = c ∨
      ∃ front t back, c.tasks = front ++ t :: back ∧ front.length = index := by
  rcases Nat.lt_or_ge index c.tasks.length with lt | ge
  · refine .inr ⟨c.tasks.take index, c.tasks[index], c.tasks.drop (index + 1), ?_, ?_⟩
    · rw [← List.drop_eq_getElem_cons lt, List.take_append_drop]
    · exact List.length_take_of_le (Nat.le_of_lt lt)
  · rw [advance, List.getElem?_eq_none ge]
    exact .inl rfl

/-- One crew goes on to another with some effects; these and the effects that are still to come are
those that were to come. -/
structure GoesTo (c d : Crew) (effects : List Effect) : Prop where
  filters : d.filters = Effect.allOn c.filters effects
  log : d.log = c.log ++ Effect.allLines effects
  rules : d.rules = c.rules
  pending : (effects ++ d.pending).Perm c.pending
  verdicts : d.verdicts = c.verdicts

/-- A crew goes to itself without an effect. -/
lemma GoesTo.refl (c : Crew) : c.GoesTo c [] where
  filters := rfl
  log := (List.append_nil _).symm
  rules := rfl
  pending := .refl _
  verdicts := rfl

/-- The effects on the way to a third crew are those on the way to the second and those from there
on. -/
lemma GoesTo.trans {b c d : Crew} {front back : List Effect} (h : b.GoesTo c front)
    (h' : c.GoesTo d back) : b.GoesTo d (front ++ back) where
  filters := by rw [h'.filters, h.filters, Effect.allOn_append]
  log := by rw [h'.log, h.log, Effect.allLines_append, List.append_assoc]
  rules := h'.rules.trans h.rules
  pending := by
    rw [List.append_assoc]
    exact (h'.pending.append_left front).trans h.pending
  verdicts := h'.verdicts.trans h.verdicts

/-- A step has the first of the effects before its task. -/
lemma advance_goesTo (c : Crew) (index : Nat) : ∃ effects, c.GoesTo (c.advance index) effects := by
  rcases c.advance_cases index with h | ⟨front, t, back, tasks, rfl⟩
  · rw [h]
    exact ⟨[], .refl c⟩
  · refine ⟨(t.effect? c.rules).toList, ?_, ?_, advance_rules tasks, ?_, ?_⟩
    · rw [advance_eq tasks]
      rfl
    · rw [advance_eq tasks]
      rfl
    · rw [pending, pending, advance_rules tasks, advance_tasks tasks, tasks, List.flatMap_append,
        List.flatMap_append, List.flatMap_cons, List.flatMap_cons, t.pending_eq, List.append_assoc]
      exact List.perm_append_comm_assoc _ _ _
    · rw [verdicts, verdicts, advance_rules tasks, advance_tasks tasks, tasks,
        List.filterMap_append, List.filterMap_append, List.filterMap_cons, List.filterMap_cons,
        t.verdict?_next]

/-- A schedule has some of the effects that are to come, and the others are still to come. -/
theorem run_goesTo (c : Crew) (schedule : List Nat) :
    ∃ effects, c.GoesTo (c.run schedule) effects := by
  induction schedule generalizing c with
  | nil => exact ⟨[], .refl c⟩
  | cons index schedule ih =>
    obtain ⟨front, first⟩ := c.advance_goesTo index
    obtain ⟨back, others⟩ := ih (c.advance index)
    exact ⟨front ++ back, first.trans others⟩

/-- No effects are before a crew that has finished. -/
lemma Finished.pending {c : Crew} (h : c.Finished) : c.pending = [] :=
  List.flatMap_eq_nil_iff.2 fun t ht => Stage.pending_of_isDone (h t ht)

/-- A crew that has finished keeps the loans that it was to keep. -/
lemma Finished.verdicts {c : Crew} (h : c.Finished) : c.verdicts = c.kept :=
  List.filterMap_congr fun t ht => Task.verdict?_of_isDone (h t ht)

/-- The crew keeps the loans that were kept in order and leaves the counts that were left in order,
and it logs the same lines in some order. -/
structure AgreesWith (c : Crew) (s : Screening (List Loan)) : Prop where
  kept : c.kept = s.value
  filters : c.filters = s.filters
  log : c.log.Perm s.log

/-! ### Every schedule can go on until all tasks have ended -/

/-- A bound on the steps of all tasks. -/
def remaining (c : Crew) : Nat := (c.tasks.map fun t => t.stage.remaining c.rules).sum

/-- The step of a task that has not ended brings all tasks closer to their end. -/
lemma remaining_advance {c : Crew} {front back : List Task} {t : Task}
    (h : c.tasks = front ++ t :: back) (running : t.stage.isDone = false) :
    (c.advance front.length).remaining < c.remaining := by
  have closer : (t.next c.rules).stage.remaining c.rules < t.stage.remaining c.rules :=
    Stage.remaining_step running
  rw [remaining, remaining, advance_rules h, advance_tasks h, h]
  simp only [List.map_append, List.map_cons, List.sum_append, List.sum_cons]
  omega

/-- A crew that is given enough steps finishes. -/
theorem exists_finished (c : Crew) : ∃ schedule, (c.run schedule).Finished := by
  induction n : c.remaining using Nat.strongRecOn generalizing c with
  | _ n ih =>
    by_cases finished : c.Finished
    · exact ⟨[], finished⟩
    · obtain ⟨t, ht, running⟩ : ∃ t ∈ c.tasks, t.stage.isDone = false := by
        simpa [Finished] using finished
      obtain ⟨front, back, tasks⟩ := List.append_of_mem ht
      obtain ⟨schedule, finished⟩ := ih _ (n ▸ remaining_advance tasks running) _ rfl
      exact ⟨front.length :: schedule, finished⟩

/-! ### Filtering in order -/

/-- The tasks of a new crew ask the rules of the filters. -/
lemma start_rules (filters : List Filter) (loans : List Loan) :
    (start filters loans).rules = filters.map Filter.rule := rfl

/-- Before a new crew are the effects of asking the rules about one loan after the other. -/
lemma start_pending (filters : List Filter) (loans : List Loan) :
    (start filters loans).pending =
      loans.flatMap fun loan => Stage.asked loan 0 (filters.map Filter.rule) := by
  rw [pending, start_rules, start, List.flatMap_map]
  rfl

/-- A new crew will keep the loans that the filters keep. -/
lemma start_verdicts (filters : List Filter) (loans : List Loan) :
    (start filters loans).verdicts = loans.filter (FilterSet.keeps filters) := by
  rw [verdicts, start, List.filterMap_map, ← List.filterMap_eq_filter]
  refine List.filterMap_congr fun loan _ => ?_
  rw [Option.guard, FilterSet.keeps, Function.comp_apply, Task.verdict?_ofLoan]
  simp only [rules, List.all_map]
  rfl

end Crew

namespace FilterSet

/-- Asking the filters of a set in order has the effects of a task for the loan. -/
lemma screen_effects (loan : Loan) (front filters : List Filter) :
    Effect.allOn (front ++ filters)
        (Stage.asked loan front.length (filters.map Filter.rule)) =
        front ++ (screen loan filters).filters ∧
      Effect.allLines (Stage.asked loan front.length (filters.map Filter.rule)) =
        (screen loan filters).log := by
  induction filters generalizing front with
  | nil => exact ⟨rfl, rfl⟩
  | cons f fs ih =>
    rw [List.map_cons, Stage.asked, screen]
    cases f.rule.outcome loan with
    | passed =>
      obtain ⟨counted, logged⟩ := ih (front ++ [f.count .passed])
      have place : (front ++ [f.count .passed]).length = front.length + 1 :=
        List.length_append
      rw [place, List.append_assoc, List.append_assoc] at counted
      rw [place] at logged
      exact ⟨(congrArg (Effect.allOn · _) (Effect.onFilters_at front f fs .passed)).trans counted,
        logged⟩
    | rejected =>
      exact ⟨Effect.onFilters_at front f fs .failed, rfl⟩
    | broken e =>
      refine ⟨?_, List.append_nil _⟩
      exact (congrArg (Effect.onFilters · _) (Effect.onFilters_at front f fs .errors)).trans
        (Effect.onFilters_at front (f.bump .errors) fs .failed)

/-- Filtering in order has the effects of one task for each loan, one task after the other. -/
lemma filter_effects (filters : List Filter) (loans : List Loan) :
    (filter filters loans).filters = Effect.allOn filters (Crew.start filters loans).pending ∧
      (filter filters loans).log = Effect.allLines (Crew.start filters loans).pending := by
  induction loans generalizing filters with
  | nil => exact ⟨rfl, rfl⟩
  | cons loan loans ih =>
    obtain ⟨counted, logged⟩ := screen_effects loan [] filters
    obtain ⟨others, lines⟩ := ih (screen loan filters).filters
    rw [Crew.start_pending, screen_rules] at others lines
    rw [Crew.start_pending, List.flatMap_cons, Effect.allOn_append, Effect.allLines_append, filter]
    exact ⟨others.trans (congrArg (Effect.allOn · _) counted.symm),
      congrArg₂ (· ++ ·) logged.symm lines⟩

/-- A schedule that ends all tasks comes to what filtering in order comes to. -/
lemma filterInParallel_agrees {filters : List Filter} {loans : List Loan} {schedule : List Nat}
    (h : (filterInParallel filters loans schedule).Finished) :
    (filterInParallel filters loans schedule).AgreesWith (filter filters loans) := by
  obtain ⟨effects, goes⟩ := (Crew.start filters loans).run_goesTo schedule
  obtain ⟨counted, logged⟩ := filter_effects filters loans
  have all : effects.Perm (Crew.start filters loans).pending := by
    have none_left : ((Crew.start filters loans).run schedule).pending = [] :=
      Crew.Finished.pending h
    have pending := goes.pending
    rwa [none_left, List.append_nil] at pending
  refine ⟨?_, ?_, ?_⟩
  · rw [filter_value, ← Crew.start_verdicts, ← goes.verdicts]
    exact (Crew.Finished.verdicts h).symm
  · rw [counted]
    exact goes.filters.trans (Effect.allOn_perm all filters)
  · rw [logged]
    exact goes.log ▸ Effect.allLines_perm all

/-- Every schedule can be gone on with until all tasks have ended. -/
lemma exists_filterInParallel_finished (filters : List Filter) (loans : List Loan)
    (schedule : List Nat) :
    ∃ more, (filterInParallel filters loans (schedule ++ more)).Finished := by
  obtain ⟨more, finished⟩ := (filterInParallel filters loans schedule).exists_finished
  refine ⟨more, ?_⟩
  rw [filterInParallel, Crew.run, List.foldl_append]
  exact finished

/-- Whatever the schedule, filtering in parallel comes to what filtering in order comes to once all
tasks have ended: the same loans in the same order, the same counts at every filter, and the same
warnings in some order.  No schedule keeps the tasks from ending. -/
theorem parallel_eq_sequential (filters : List Filter) (loans : List Loan) (owned : IdSet)
    (schedule : List Nat) :
    ((filterInParallel filters loans schedule).Finished →
      (filterInParallel filters loans schedule).AgreesWith (filter filters loans)) ∧
    ((selectInParallel filters loans owned schedule).Finished →
      (selectInParallel filters loans owned schedule).AgreesWith (select filters loans owned)) ∧
    (∃ more, (filterInParallel filters loans (schedule ++ more)).Finished) ∧
    ∃ more, (selectInParallel filters loans owned (schedule ++ more)).Finished := by
  refine ⟨filterInParallel_agrees, ?_, ?_, ?_⟩
  · intro finished
    exact filterInParallel_agrees finished
  · exact exists_filterInParallel_finished filters loans schedule
  · exact exists_filterInParallel_finished filters (dropOwned owned loans) schedule

/-- The second loan overtakes the first, so the warnings change places; the third is owned. -/
theorem parallel_eq_sequential_overtaking :
    let filters := [Filter.ofSource "{term} < 60" .inclusion]
    let loans := ["1", "2", "3"].map fun id => Loan.ofFields [("id", .text id)]
    let owned := IdSet.ofList ["3"]
    let schedule := [0, 1, 1, 1, 1, 0, 0, 0, 2, 2, 2, 2]
    (filterInParallel filters loans schedule).AgreesWith (filter filters loans) ∧
      (selectInParallel filters loans owned schedule).AgreesWith (select filters loans owned) ∧
      (selectInParallel filters loans owned schedule).log ≠ (select filters loans owned).log := by
  intro filters loans owned schedule
  obtain ⟨filtered, selected, -⟩ := parallel_eq_sequential filters loans owned schedule
  exact ⟨filtered (by decide +kernel), selected (by decide +kernel), by decide +kernel⟩

end FilterSet

end LoanDesk
