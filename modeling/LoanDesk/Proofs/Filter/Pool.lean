import LoanDesk.Filter.Pool.Turns
import LoanDesk.Proofs.Filter.Parallel

/-!
# What handles answer

Whatever the turns, a handle is in one of the few states that go with the reply of its worker
(`Reply.Shows`), and in each of them polling and waiting say the same: nothing while the worker owes
its answer, the verdict on its loan once that is sent, and a rejection if the worker died
(`Reply.answer?`).  A reply that is given is never taken back, so an answer once seen stays.  What a
worker has done to the counts and the log is the front of what applying the filter does
(`Task.performed`), and all of it once the task is done, whoever holds the handle.

Main statements: `Pool.submitAll_eq_run`, submitting loans is one of the schedules, and
`Pool.run_answers`, what the handles answer under any of them.
-/

namespace LoanDesk

/-! ### The handle that goes with a reply -/

/-- What a worker with this reply lets the holder of its handle know. -/
def Reply.answer? (verdict : Bool) : Reply → Option Bool
  | owed => none
  | sent => some verdict
  | ended => some verdict
  | died => some false

/-- The states of the handle of a worker with a reply, before and after the answer is received. -/
inductive Reply.Shows (verdict : Bool) : Reply → Handle → Prop where
  | owed : Shows verdict .owed ⟨⟨none, true⟩, none⟩
  | sent : Shows verdict .sent ⟨⟨some verdict, true⟩, none⟩
  | received : Shows verdict .sent ⟨⟨none, true⟩, some verdict⟩
  | ended : Shows verdict .ended ⟨⟨some verdict, false⟩, none⟩
  | remembered : Shows verdict .ended ⟨⟨none, false⟩, some verdict⟩
  | died : Shows verdict .died ⟨⟨none, false⟩, none⟩
  | missed : Shows verdict .died ⟨⟨none, false⟩, some false⟩

namespace Reply.Shows

variable {verdict : Bool} {reply : Reply} {h : Handle}

/-- Polling a handle gives what the reply of its worker lets the holder know. -/
lemma poll_eq (shows : reply.Shows verdict h) : h.poll.1 = reply.answer? verdict := by
  cases shows <;> rfl

/-- Waiting for a handle gives what the reply of its worker lets the holder know. -/
lemma wait?_eq (shows : reply.Shows verdict h) : h.wait? = reply.answer? verdict := by
  cases shows <;> rfl

/-- A handle that was polled still shows the reply of its worker. -/
lemma poll (shows : reply.Shows verdict h) : reply.Shows verdict h.poll.2 := by
  cases shows <;> constructor

/-- Once a worker that owes its answer sends the verdict, its handle shows that it has. -/
lemma send (shows : Reply.owed.Shows verdict h) : Reply.sent.Shows verdict (h.send verdict) := by
  cases shows
  exact .sent

/-- Once a worker hangs up after its answer, its handle shows that it has ended. -/
lemma hangUp (shows : Reply.sent.Shows verdict h) : Reply.ended.Shows verdict h.hangUp := by
  cases shows with
  | sent => exact .ended
  | received => exact .remembered

/-- Once a worker hangs up without an answer, its handle shows that it has died. -/
lemma die (shows : Reply.owed.Shows verdict h) : Reply.died.Shows verdict h.hangUp := by
  cases shows
  exact .died

end Reply.Shows

/-! ### What a worker has done so far -/

namespace Task

variable (rules : List Rule)

/-- The effects that a task has had. -/
def performed (t : Task) : List Effect :=
  (Stage.asked t.loan 0 rules).take
    ((Stage.asked t.loan 0 rules).length - (t.pending rules).length)

/-- The effects that a task is still to have are the last of those that asking the rules has, and
its verdict is that of the rules. -/
structure Sound (t : Task) : Prop where
  effects : t.performed rules ++ t.pending rules = Stage.asked t.loan 0 rules
  verdict : t.stage.verdict t.loan rules = rules.all (·.keeps t.loan)

variable {rules} {t : Task}

/-- The effects in front of those that a task is still to have are the ones that it has had. -/
lemma performed_eq {effects : List Effect}
    (h : effects ++ t.pending rules = Stage.asked t.loan 0 rules) :
    t.performed rules = effects := by
  rw [performed, ← h, List.length_append, Nat.add_sub_cancel, List.take_left]

/-- A task that has not been taken up has had no effects. -/
lemma performed_ofLoan (loan : Loan) : (ofLoan loan).performed rules = [] :=
  performed_eq rfl

/-- The task of a loan is sound before its first step. -/
lemma Sound.ofLoan (loan : Loan) : (Task.ofLoan loan).Sound rules where
  effects := by rw [performed_ofLoan]; rfl
  verdict := rfl

/-- A step adds its effect to those that a sound task has had. -/
lemma Sound.performed_next (h : t.Sound rules) :
    (t.next rules).performed rules = t.performed rules ++ (t.effect? rules).toList := by
  apply performed_eq
  rw [List.append_assoc, ← t.pending_eq]
  exact h.effects

/-- A step leaves a sound task sound. -/
lemma Sound.next (h : t.Sound rules) : (t.next rules).Sound rules where
  effects := by
    rw [h.performed_next, List.append_assoc, ← t.pending_eq]
    exact h.effects
  verdict := t.stage.verdict_step.trans h.verdict

/-- A task that is done has had all effects. -/
lemma Sound.performed_of_isDone (h : t.Sound rules) (done : t.stage.isDone = true) :
    t.performed rules = Stage.asked t.loan 0 rules := by
  rw [← h.effects, pending, Stage.pending_of_isDone done, List.append_nil]

end Task

/-! ### What a turn does to a worker -/

namespace Worker

/-- All that a turn can do to a worker, with its effect on what the workers share. -/
inductive MovesTo (rules : List Rule) (w : Worker) : Option Effect → Worker → Prop where
  | apply :
    w.reply = .owed →
    w.task.stage.isDone = false →
    MovesTo rules w (w.task.effect? rules) { w with task := w.task.next rules }
  | send {verdict} :
    w.reply = .owed →
    w.task.stage = .done verdict →
    MovesTo rules w none { w.onHandle (·.send verdict) with reply := .sent }
  | finish :
    w.reply = .sent →
    MovesTo rules w none { w.onHandle (·.hangUp) with reply := .ended }
  | die :
    w.reply = .owed →
    MovesTo rules w none { w.onHandle (·.hangUp) with reply := .died }
  | poll :
    MovesTo rules w none (w.onHandle (·.poll.2))
  | release :
    MovesTo rules w none { w with handle? := none }
  | stay :
    MovesTo rules w none w

variable {rules : List Rule} {w w' : Worker} {effect : Option Effect}

/-- A worker's own step is one of the things that can happen to it. -/
lemma movesTo_work (w : Worker) : MovesTo rules w (w.work rules).1 (w.work rules).2 := by
  rw [work]
  split
  next verdict owed done => exact .send owed done
  next owed running =>
    refine .apply owed ?_
    cases h : w.task.stage with
    | done verdict => exact absurd h (running verdict)
    | _ => rfl
  next sent => exact .finish sent
  next => exact .stay
  next => exact .stay

/-- Every move of a worker or of the holder of its handle is one of the things that can happen to
it. -/
lemma movesTo_move (w : Worker) (m : Move) :
    MovesTo rules w (w.move rules m).1 (w.move rules m).2 := by
  cases m with
  | work => exact movesTo_work w
  | die =>
    rw [move, Worker.die]
    split
    next owed => exact .die owed
    next => exact .stay
  | poll => exact .poll
  | wait =>
    obtain ⟨task, reply, handle⟩ := w
    cases handle with
    | none => exact .stay
    | some h =>
      rw [move, Option.filter]
      split
      next => exact .stay
      next => exact .release
  | release => exact .release

/-- The worker's task is sound, it does not answer before its task is done, and its handle, if
somebody holds it, shows its reply. -/
structure Sound (r : Rule) (w : Worker) : Prop where
  task : w.task.Sound [r]
  done : w.reply = .sent ∨ w.reply = .ended → w.task.stage.isDone = true
  shows : ∀ h ∈ w.handle?, w.reply.Shows (r.keeps w.task.loan) h

/-- The worker of a loan is sound before its first step. -/
lemma Sound.ofLoan (r : Rule) (loan : Loan) : (Worker.ofLoan loan).Sound r where
  task := .ofLoan loan
  done := by rintro (h | h) <;> cases h
  shows := by
    rintro _ ⟨⟩
    exact .owed

/-- The verdict of a sound worker that is done is that of the rule. -/
lemma Sound.verdict_eq {r : Rule} (sound : w.Sound r) {verdict : Bool}
    (done : w.task.stage = .done verdict) : verdict = r.keeps w.task.loan := by
  have same := sound.task.verdict
  rw [done, List.all_cons, List.all_nil, Bool.and_true] at same
  exact same

/-- A change of all handles that show the old reply to ones that show the new reply is one of the
worker's handle, if somebody holds it. -/
lemma Sound.onHandle {r : Rule} {reply : Reply} {change : Handle → Handle}
    (sound : w.Sound r)
    (h : ∀ {h}, w.reply.Shows (r.keeps w.task.loan) h →
      reply.Shows (r.keeps w.task.loan) (change h)) :
    ∀ h ∈ w.handle?.map change, reply.Shows (r.keeps w.task.loan) h := by
  intro h' hh'
  obtain ⟨held, hheld, rfl⟩ := Option.mem_map.1 hh'
  exact h (sound.shows held hheld)

/-- Whatever happens to a sound worker leaves it sound. -/
lemma Sound.moved {r : Rule} (sound : w.Sound r) (h : MovesTo [r] w effect w') : w'.Sound r := by
  cases h with
  | apply owed running =>
    refine ⟨sound.task.next, ?_, sound.shows⟩
    rintro (reply | reply) <;> rw [owed] at reply <;> cases reply
  | @send verdict owed done =>
    -- Only a task that is done sends, so the verdict sent is that of the rule.
    obtain rfl := sound.verdict_eq done
    refine ⟨sound.task, fun _ => ?_, sound.onHandle fun shows => ?_⟩
    · show w.task.stage.isDone = true
      rw [done]
      rfl
    · rw [owed] at shows
      exact shows.send
  | finish sent =>
    refine ⟨sound.task, fun _ => sound.done (.inl sent), sound.onHandle fun shows => ?_⟩
    rw [sent] at shows
    exact shows.hangUp
  | die owed =>
    refine ⟨sound.task, ?_, sound.onHandle fun shows => ?_⟩
    · rintro (reply | reply) <;> cases reply
    · rw [owed] at shows
      exact shows.die
  | poll => exact ⟨sound.task, sound.done, sound.onHandle Reply.Shows.poll⟩
  | release => exact ⟨sound.task, sound.done, nofun⟩
  | stay => exact sound

/-- Whatever happens to a sound worker adds its effect to those that its task has had. -/
lemma Sound.performed_moved {r : Rule} (sound : w.Sound r) (h : MovesTo [r] w effect w') :
    w'.task.performed [r] = w.task.performed [r] ++ effect.toList := by
  cases h with
  | apply => exact sound.task.performed_next
  | _ => exact (List.append_nil _).symm

/-- Later the worker has the same loan, and an answer that it has given stays. -/
structure GoesOnAs (w w' : Worker) : Prop where
  loan : w'.task.loan = w.task.loan
  answer : ∀ {verdict answer}, w.reply.answer? verdict = some answer →
    w'.reply.answer? verdict = some answer

/-- A worker to which nothing happens goes on as itself. -/
lemma GoesOnAs.refl (w : Worker) : w.GoesOnAs w := ⟨rfl, id⟩

/-- Going on as another worker is transitive. -/
lemma GoesOnAs.trans {w₁ w₂ w₃ : Worker} (h : w₁.GoesOnAs w₂) (h' : w₂.GoesOnAs w₃) :
    w₁.GoesOnAs w₃ :=
  ⟨h'.loan.trans h.loan, fun answered => h'.answer (h.answer answered)⟩

/-- Whatever happens to a worker leaves its loan and an answer that it has given as they are. -/
lemma MovesTo.goesOnAs (h : MovesTo rules w effect w') : w.GoesOnAs w' := by
  cases h with
  | send owed | die owed =>
    refine ⟨rfl, fun answered => ?_⟩
    rw [owed] at answered
    cases answered
  | finish sent =>
    refine ⟨rfl, fun answered => ?_⟩
    rw [sent] at answered
    exact answered
  | _ => exact ⟨rfl, id⟩

/-- A bound on the steps of a worker up to its answer. -/
def remaining (rules : List Rule) (w : Worker) : Nat :=
  if w.reply = .owed then w.task.stage.remaining rules + 1 else 0

/-- A worker that owes its answer gets closer to its end with each step. -/
lemma remaining_work (owed : w.reply = .owed) :
    (w.work rules).2.remaining rules < w.remaining rules := by
  rw [work, owed]
  cases running : w.task.stage.isDone with
  | false =>
    have closer : (w.task.stage.step rules w.task.loan).2.remaining rules <
        w.task.stage.remaining rules := Stage.remaining_step running
    cases h : w.task.stage with
    | done => rw [h] at running; cases running
    | _ =>
      rw [h] at closer
      simpa [remaining, owed, h] using closer
  | true =>
    cases h : w.task.stage with
    | done => simp [remaining, owed]
    | _ => rw [h] at running; cases running

/-- A worker that has ended, with a handle that nobody has used. -/
def answered (r : Rule) (loan : Loan) : Worker :=
  ⟨⟨loan, .done (r.keeps loan)⟩, .ended, some (Handle.fresh.send (r.keeps loan)).hangUp⟩

end Worker

/-! ### One filter -/

/-- Asking one filter is applying it. -/
lemma Filter.allOn_asked (f : Filter) (loan : Loan) :
    Effect.allOn [f] (Stage.asked loan 0 [f.rule]) = [f.apply loan] := by
  rw [Stage.asked, apply]
  cases f.rule.outcome loan <;> rfl

/-- Asking one rule logs what the outcome leaves in the log. -/
lemma Rule.allLines_asked (r : Rule) (loan : Loan) :
    Effect.allLines (Stage.asked loan 0 [r]) = r.log loan (r.outcome loan) := by
  rw [Stage.asked]
  cases r.outcome loan <;> simp [Effect.allLines, Effect.lines, Stage.asked, Rule.log]

/-- Asking one filter of loans is applying it to one after the other. -/
lemma Filter.allOn_flatMap_asked (f : Filter) (loans : List Loan) :
    Effect.allOn [f] (loans.flatMap (Stage.asked · 0 [f.rule])) = [loans.foldl apply f] := by
  induction loans generalizing f with
  | nil => rfl
  | cons loan loans ih =>
    rw [List.flatMap_cons, Effect.allOn_append, allOn_asked, List.foldl_cons]
    exact ih (f.apply loan)

/-! ### What a schedule comes to -/

namespace Pool

def loans (p : Pool) : List Loan := p.workers.map (·.task.loan)

/-- The effects that the workers have had. -/
def performed (p : Pool) (r : Rule) : List Effect := p.workers.flatMap (·.task.performed [r])

/-- A move of the worker behind those in front changes that worker and has its effect on what all of
them share. -/
lemma turn_move {p : Pool} {front back : List Worker} {w : Worker}
    (h : p.workers = front ++ w :: back) (m : Move) :
    p.turn (.move front.length m) =
      { p with workers := front ++ (w.move p.rules m).2 :: back }.perform (w.move p.rules m).1 := by
  have found : p.workers[front.length]? = some w := by simp [h]
  rw [turn, found]
  simp only [h, List.set_append_right _ _ (Nat.le_refl _), Nat.sub_self, List.set_cons_zero]

/-- All that can happen next. -/
lemma turn_cases (p : Pool) (t : Turn) :
    (∃ loan, t = .submit loan ∧ p.turn t = { p with workers := p.workers ++ [.ofLoan loan] }) ∨
      (t.submitted? = none ∧ p.turn t = p) ∨
      ∃ front w back effect w', t.submitted? = none ∧ p.workers = front ++ w :: back ∧
        w.MovesTo p.rules effect w' ∧
        p.turn t = { p with workers := front ++ w' :: back }.perform effect := by
  cases t with
  | submit loan => exact .inl ⟨loan, rfl, rfl⟩
  | move index m =>
    right
    rcases Nat.lt_or_ge index p.workers.length with lt | ge
    · have workers : p.workers =
          p.workers.take index ++ p.workers[index] :: p.workers.drop (index + 1) := by
        rw [← List.drop_eq_getElem_cons lt, List.take_append_drop]
      have turn := turn_move workers m
      rw [List.length_take, Nat.min_eq_left lt.le] at turn
      exact .inr ⟨_, _, _, _, _, rfl, workers, p.workers[index].movesTo_move m, turn⟩
    · rw [turn, List.getElem?_eq_none ge]
      exact .inl ⟨rfl, rfl⟩

/-- No effect changes the rules of a pool. -/
lemma rules_perform (p : Pool) (effect : Option Effect) : (p.perform effect).rules = p.rules := by
  cases effect with
  | none => rfl
  | some effect => exact Effect.rules_onFilters p.filters effect

/-- No effect changes the workers of a pool. -/
lemma workers_perform (p : Pool) (effect : Option Effect) :
    (p.perform effect).workers = p.workers := by
  cases effect <;> rfl

/-- The filters of a pool change as the effect changes them. -/
lemma filters_perform (p : Pool) (effect : Option Effect) :
    (p.perform effect).filters = Effect.allOn p.filters effect.toList := by
  cases effect <;> rfl

/-- The log of a pool grows by the lines of the effect. -/
lemma log_perform (p : Pool) (effect : Option Effect) :
    (p.perform effect).log = p.log ++ Effect.allLines effect.toList := by
  cases effect <;> simp [perform, Effect.allLines]

/-! #### The workers in the order of their loans -/

/-- A turn adds the loan that it submits, if any, and no turn takes one away. -/
lemma loans_turn (p : Pool) (t : Turn) : (p.turn t).loans = p.loans ++ t.submitted?.toList := by
  rcases p.turn_cases t with ⟨loan, rfl, h⟩ | ⟨none, h⟩ | ⟨front, w, back, effect, w', none,
    workers, moves, h⟩
  · rw [h, loans, List.map_append]
    rfl
  · rw [h, none, Option.toList_none, List.append_nil]
  · rw [h, none, loans, workers_perform, loans, workers, List.map_append, List.map_cons,
      moves.goesOnAs.loan, Option.toList_none, List.append_nil, List.map_append, List.map_cons]

/-- There is one worker for each loan, in the order in which the loans were submitted. -/
theorem loans_run (p : Pool) (schedule : List Turn) :
    (p.run schedule).loans = p.loans ++ schedule.filterMap Turn.submitted? := by
  induction schedule generalizing p with
  | nil => exact (List.append_nil _).symm
  | cons t schedule ih =>
    refine (ih (p.turn t)).trans ?_
    rw [loans_turn, List.append_assoc, List.filterMap_cons]
    cases t.submitted? <;> rfl

/-- Each worker is there later, at the same place. -/
def GoesOnAs (p q : Pool) : Prop :=
  ∀ (index : Nat) (w : Worker), p.workers[index]? = some w →
    ∃ w' : Worker, q.workers[index]? = some w' ∧ w.GoesOnAs w'

/-- A turn leaves each worker at its place, where it goes on. -/
lemma turn_goesOnAs (p : Pool) (t : Turn) : p.GoesOnAs (p.turn t) := by
  intro index v found
  rcases p.turn_cases t with ⟨loan, -, h⟩ | ⟨-, h⟩ | ⟨front, w, back, effect, w', -, workers,
    moves, h⟩
  · obtain ⟨lt, -⟩ := List.getElem?_eq_some_iff.1 found
    rw [h]
    exact ⟨v, (List.getElem?_append_left lt).trans found, .refl v⟩
  · rw [h]
    exact ⟨v, found, .refl v⟩
  · have moved : front ++ w' :: back = p.workers.set front.length w' := by simp [workers]
    rw [h, workers_perform, moved, List.getElem?_set]
    by_cases here : front.length = index
    · have same : w = v := by simpa [workers, here.symm] using found
      subst same
      refine ⟨w', ?_, moves.goesOnAs⟩
      rw [if_pos here, if_pos (by simp [workers])]
    · rw [if_neg here]
      exact ⟨v, found, .refl v⟩

/-- Through a whole schedule each worker stays at its place, where it goes on. -/
theorem run_goesOnAs (p : Pool) (schedule : List Turn) : p.GoesOnAs (p.run schedule) := by
  induction schedule generalizing p with
  | nil => exact fun index w found => ⟨w, found, .refl w⟩
  | cons t schedule ih =>
    intro index w found
    obtain ⟨w', found', first⟩ := p.turn_goesOnAs t index w found
    obtain ⟨w'', found'', others⟩ := ih (p.turn t) index w' found'
    exact ⟨w'', found'', first.trans others⟩

/-! #### The counts and the log -/

/-- All workers are sound, and what they share is what their effects have made of it. -/
structure Sound (f : Filter) (p : Pool) : Prop where
  workers : ∀ w ∈ p.workers, w.Sound f.rule
  filters : p.filters = Effect.allOn [f] (p.performed f.rule)
  log : p.log.Perm (Effect.allLines (p.performed f.rule))

variable {f : Filter} {p : Pool}

/-- A pool that has no workers yet is sound. -/
lemma Sound.start (f : Filter) : (start f).Sound f where
  workers := by simp [Pool.start]
  filters := rfl
  log := .refl _

/-- All workers of a sound pool ask the rule of its filter. -/
lemma Sound.rules_eq (sound : p.Sound f) : p.rules = [f.rule] := by
  rw [rules, sound.filters, Effect.rules_allOn]
  rfl

/-- Submitting a loan has no effect by itself. -/
lemma performed_submit (p : Pool) (r : Rule) (loan : Loan) :
    (p.turn (.submit loan)).performed r = p.performed r := by
  rw [turn, performed, List.flatMap_append, List.flatMap_singleton]
  show _ ++ (Task.ofLoan loan).performed [r] = _
  rw [Task.performed_ofLoan, List.append_nil, performed]

/-- From one pool to another the workers have had some more effects. -/
structure Performs (r : Rule) (p q : Pool) (effects : List Effect) : Prop where
  workers : ∀ w ∈ q.workers, w.Sound r
  performed : (p.performed r ++ effects).Perm (q.performed r)
  filters : q.filters = Effect.allOn p.filters effects
  log : q.log = p.log ++ Effect.allLines effects

/-- A turn of sound workers has the effects by which they come closer to their end. -/
lemma turn_performs {r : Rule} (rules : p.rules = [r]) (sound : ∀ w ∈ p.workers, w.Sound r)
    (t : Turn) : ∃ effects, p.Performs r (p.turn t) effects := by
  rcases p.turn_cases t with ⟨loan, rfl, -⟩ | ⟨-, h⟩ | ⟨front, w, back, effect, w', -, workers,
    moves, h⟩
  · refine ⟨[], ?_, ?_, rfl, (List.append_nil _).symm⟩
    · intro v hv
      rcases List.mem_append.1 hv with hv | hv
      · exact sound v hv
      · rw [List.mem_singleton.1 hv]
        exact .ofLoan r loan
    · rw [performed_submit, List.append_nil]
  · rw [h]
    exact ⟨[], sound, .of_eq (List.append_nil _), rfl, (List.append_nil _).symm⟩
  · rw [rules] at moves
    have soundWorker : w.Sound r := sound w (by simp [workers])
    refine ⟨effect.toList, ?_, ?_, ?_, ?_⟩
    · rw [h, workers_perform]
      intro v hv
      simp only [List.mem_append, List.mem_cons] at hv
      rcases hv with hv | rfl | hv
      · exact sound v (by simp [workers, hv])
      · exact soundWorker.moved moves
      · exact sound v (by simp [workers, hv])
    · -- The effect of the turn comes last, and stands among those of its worker.
      rw [h, Pool.performed, Pool.performed, workers_perform, workers, List.flatMap_append,
        List.flatMap_append, List.flatMap_cons, List.flatMap_cons,
        soundWorker.performed_moved moves, List.append_assoc, List.append_assoc, List.append_assoc]
      exact (List.perm_append_comm.append_left _).append_left _
    · rw [h, filters_perform]
    · rw [h, log_perform]

/-- A turn leaves a sound pool sound. -/
lemma Sound.turn (sound : p.Sound f) (t : Turn) : (p.turn t).Sound f := by
  obtain ⟨effects, performs⟩ := turn_performs sound.rules_eq sound.workers t
  refine ⟨performs.workers, ?_, ?_⟩
  · rw [← Effect.allOn_perm performs.performed, Effect.allOn_append, ← sound.filters,
      performs.filters]
  · refine List.Perm.trans ?_ (Effect.allLines_perm performs.performed)
    rw [performs.log, Effect.allLines_append]
    exact sound.log.append_right _

/-- A schedule leaves a sound pool sound. -/
theorem Sound.run (sound : p.Sound f) (schedule : List Turn) : (p.run schedule).Sound f := by
  induction schedule generalizing p with
  | nil => exact sound
  | cons t schedule ih => exact ih (sound.turn t)

/-! #### What the workers that are done add up to -/

/-- The loans that the filter was applied to. -/
def applied (p : Pool) : List Loan := (p.workers.filter (·.task.stage.isDone)).map (·.task.loan)

/-- The effects of the workers that are applying the filter, or died over it. -/
def begun (p : Pool) (r : Rule) : List Effect :=
  (p.workers.filter (!·.task.stage.isDone)).flatMap (·.task.performed [r])

/-- The effects of the workers are those of asking the rule about the loans of the workers that are
done, and those of the workers that are not. -/
lemma performed_perm {r : Rule} (sound : ∀ w ∈ p.workers, w.Sound r) :
    (p.performed r).Perm (p.applied.flatMap (Stage.asked · 0 [r]) ++ p.begun r) := by
  have done : (p.workers.filter (·.task.stage.isDone)).flatMap (·.task.performed [r]) =
      p.applied.flatMap (Stage.asked · 0 [r]) := by
    rw [applied, List.flatMap_map]
    apply List.flatMap_congr
    intro w hw
    obtain ⟨listed, isDone⟩ := List.mem_filter.1 hw
    exact (sound w listed).task.performed_of_isDone isDone
  rw [← done, begun, ← List.flatMap_append]
  exact (List.filter_append_perm _ p.workers).symm.flatMap_right _

/-- Nothing is begun if each worker is done with its task or has not taken it up. -/
lemma begun_eq_nil {r : Rule}
    (h : ∀ w ∈ p.workers, w.task.stage.isDone = true ∨ w.task.stage = .asking 0) :
    p.begun r = [] := by
  apply List.flatMap_eq_nil_iff.2
  intro w hw
  obtain ⟨listed, running⟩ := List.mem_filter.1 hw
  have untouched : w.task.stage = .asking 0 := (h w listed).resolve_left (by simpa using running)
  apply Task.performed_eq
  rw [List.nil_append, Task.pending, untouched]
  rfl

/-- Workers that are done have counted as applying the filter to their loans counts, and logged the
same lines, in some order. -/
lemma Sound.counts (sound : p.Sound f) :
    p.filters = Effect.allOn [p.applied.foldl Filter.apply f] (p.begun f.rule) ∧
      p.log.Perm (p.applied.flatMap (fun loan => f.rule.log loan (f.rule.outcome loan)) ++
        Effect.allLines (p.begun f.rule)) := by
  constructor
  · rw [sound.filters, Effect.allOn_perm (performed_perm sound.workers), Effect.allOn_append,
      Filter.allOn_flatMap_asked]
  · have lines : Effect.allLines (p.applied.flatMap (Stage.asked · 0 [f.rule])) =
        p.applied.flatMap fun loan => f.rule.log loan (f.rule.outcome loan) := by
      rw [Effect.allLines, List.flatMap_assoc]
      exact List.flatMap_congr fun loan _ => f.rule.allLines_asked loan
    rw [← lines, ← Effect.allLines_append]
    exact sound.log.trans (Effect.allLines_perm (performed_perm sound.workers))

/-! #### Every worker can answer -/

/-- No worker owes its answer. -/
def Answered (p : Pool) : Prop := ∀ w ∈ p.workers, w.reply ≠ .owed

/-- A bound on the steps of all workers. -/
def remaining (p : Pool) : Nat := (p.workers.map (·.remaining p.rules)).sum

/-- The step of a worker that owes its answer brings all workers closer to their end. -/
lemma remaining_turn_work {front back : List Worker} {w : Worker}
    (h : p.workers = front ++ w :: back) (owed : w.reply = .owed) :
    (p.turn (.move front.length .work)).remaining < p.remaining := by
  have closer : (w.work p.rules).2.remaining p.rules < w.remaining p.rules :=
    Worker.remaining_work owed
  rw [turn_move h .work, remaining, remaining, rules_perform, workers_perform, h]
  show ((front ++ (w.work p.rules).2 :: back).map (·.remaining p.rules)).sum <
    ((front ++ w :: back).map (·.remaining p.rules)).sum
  simp only [List.map_append, List.map_cons, List.sum_append, List.sum_cons]
  omega

/-- Workers that are given enough steps all answer. -/
theorem exists_answered (p : Pool) :
    ∃ indices : List Nat, (p.run (indices.map (.move · .work))).Answered := by
  -- While some worker owes its answer, its next step lowers the bound.
  induction n : p.remaining using Nat.strongRecOn generalizing p with
  | _ n ih =>
    by_cases answered : p.Answered
    · exact ⟨[], answered⟩
    · obtain ⟨w, hw, owed⟩ : ∃ w ∈ p.workers, w.reply = .owed := by
        simpa [Answered] using answered
      obtain ⟨front, back, workers⟩ := List.append_of_mem hw
      obtain ⟨indices, answered⟩ := ih _ (n ▸ remaining_turn_work workers owed) _ rfl
      exact ⟨front.length :: indices, answered⟩

/-! #### One worker after the other -/

/-- The turns in which each worker ends before the next loan is submitted; no worker takes more
than six steps. -/
def oneByOne (count : Nat) : List Loan → List Turn
  | [] => []
  | loan :: loans =>
    .submit loan :: List.replicate 6 (.move count .work) ++ oneByOne (count + 1) loans

/-- Six steps are enough for a worker that is alone at work to apply the filter to its loan, answer
and end. -/
lemma run_submit (f : Filter) (workers : List Worker) (log : List LogLine) (loan : Loan) :
    (Pool.mk workers [f] log).run
        (.submit loan :: List.replicate 6 (.move workers.length .work)) =
      ⟨workers ++ [.answered f.rule loan], [f.count (f.rule.outcome loan)],
        log ++ f.rule.log loan (f.rule.outcome loan)⟩ := by
  have last (f : Filter) (log : List LogLine) (w : Worker) :
      (Pool.mk (workers ++ [w]) [f] log).turn (.move workers.length .work) =
        (Pool.mk (workers ++ [(w.work [f.rule]).2]) [f] log).perform (w.work [f.rule]).1 :=
    turn_move rfl .work
  have same (f : Filter) (counter : Counter) : (f.bump counter).rule = f.rule := rfl
  rw [run, List.foldl_cons, turn]
  cases h : f.rule.outcome loan <;>
    simp [List.replicate, last, same, h, perform, Worker.work, Worker.ofLoan, Task.ofLoan,
      Stage.step, Stage.ofOutcome, Effect.onFilters, Effect.lines, Worker.onHandle,
      Worker.answered, Rule.keeps, Outcome.keeps, Rule.log] <;>
    rfl

/-- Loans that are submitted one by one leave workers that have ended, and the counts and the log of
applying the filter to one after the other. -/
lemma run_oneByOne (f : Filter) (workers : List Worker) (log : List LogLine) (loans : List Loan) :
    (Pool.mk workers [f] log).run (oneByOne workers.length loans) =
      ⟨workers ++ loans.map (.answered f.rule), [(f.submitAll loans).2.1],
        log ++ (f.submitAll loans).2.2⟩ := by
  induction loans generalizing f workers log with
  | nil => simp [oneByOne, run, Filter.submitAll]
  | cons loan loans ih =>
    have others := ih (f.count (f.rule.outcome loan)) (workers ++ [.answered f.rule loan])
      (log ++ f.rule.log loan (f.rule.outcome loan))
    rw [List.length_append, List.length_singleton] at others
    rw [oneByOne, run, List.foldl_append]
    refine (congrArg (run · _) (run_submit f workers log loan)).trans (others.trans ?_)
    simp [Filter.submitAll, Filter.submit, Filter.count]

/-- Submitting loans whose workers have all ended is one of the schedules. -/
theorem submitAll_eq_run (f : Filter) (loans : List Loan) :
    let p := (start f).run (oneByOne 0 loans)
    (f.submitAll loans).1.map some = p.workers.map Worker.handle? ∧
      [(f.submitAll loans).2.1] = p.filters ∧ (f.submitAll loans).2.2 = p.log := by
  have handles : (f.submitAll loans).1.map some =
      (loans.map (Worker.answered f.rule)).map Worker.handle? := by
    induction loans generalizing f with
    | nil => rfl
    | cons loan loans ih => exact congrArg (_ :: ·) (ih (f.count (f.rule.outcome loan)))
  intro p
  have ended : p = ⟨loans.map (.answered f.rule), [(f.submitAll loans).2.1],
      (f.submitAll loans).2.2⟩ := run_oneByOne f [] [] loans
  rw [ended]
  exact ⟨handles, rfl, rfl⟩

/-- Whatever the turns, there is one worker for each loan in the order in which they were submitted,
and polling its handle and waiting for it both give what its reply says about that loan: nothing
while the worker has neither sent its verdict nor died, the verdict of the filter on the loan if it
has sent one, and a rejection if it died.  Once polling has given an answer, later polling and
waiting give the same, also after the worker has ended.  The counts are those of a filter applied to
the loans of the workers that are done, one after the other, and of what the other workers have
begun, and so are the warnings, whoever holds the handles; a worker that has sent its verdict is
done.  From every turn on the workers can go on until each has answered. -/
theorem run_answers (f : Filter) (schedule : List Turn) :
    let p := (start f).run schedule
    p.workers.map (·.task.loan) = schedule.filterMap Turn.submitted? ∧
    (∀ w ∈ p.workers, ∀ h ∈ w.handle?,
      h.poll.1 = w.reply.answer? (f.rule.keeps w.task.loan) ∧
        h.wait? = w.reply.answer? (f.rule.keeps w.task.loan)) ∧
    (∀ index v, (p.handle? index).map (·.poll.1) = some (some v) → ∀ more,
      ∀ h ∈ ((p.turn (.move index .poll)).run more).handle? index,
        h.poll.1 = some v ∧ h.wait? = some v) ∧
    p.filters = Effect.allOn [p.applied.foldl Filter.apply f] (p.begun f.rule) ∧
    p.log.Perm (p.applied.flatMap (fun loan => f.rule.log loan (f.rule.outcome loan)) ++
      Effect.allLines (p.begun f.rule)) ∧
    ((∀ w ∈ p.workers, w.task.stage.isDone = true ∨ w.task.stage = .asking 0) →
      p.begun f.rule = []) ∧
    (∀ w ∈ p.workers, w.reply = .sent ∨ w.reply = .ended → w.task.stage.isDone = true) ∧
    ∃ indices : List Nat, (p.run (indices.map (.move · .work))).Answered := by
  intro p
  have sound : p.Sound f := (Sound.start f).run schedule
  refine ⟨?_, ?_, ?_, sound.counts.1, sound.counts.2, begun_eq_nil,
    fun w hw => (sound.workers w hw).done, p.exists_answered⟩
  · exact ((start f).loans_run schedule).trans (List.nil_append _)
  · intro w hw h hh
    have shows := (sound.workers w hw).shows h hh
    exact ⟨shows.poll_eq, shows.wait?_eq⟩
  · intro index v polled more h hh
    have later := (sound.turn (.move index .poll)).run more
    obtain ⟨h₀, held, answer⟩ := Option.map_eq_some_iff.1 polled
    obtain ⟨w, found, hh₀⟩ := Option.bind_eq_some_iff.1 held
    obtain ⟨w', found', hh'⟩ := Option.bind_eq_some_iff.1 hh
    -- The worker of the handle is the one that was polled, and its answer stays.
    have goesOn : p.GoesOnAs ((p.turn (.move index .poll)).run more) :=
      p.run_goesOnAs (.move index .poll :: more)
    obtain ⟨w'', found'', same⟩ := goesOn index w found
    obtain rfl : w' = w'' := Option.some.inj (found'.symm.trans found'')
    have answered : w.reply.answer? (f.rule.keeps w.task.loan) = some v :=
      ((sound.workers w (List.mem_of_getElem? found)).shows h₀ hh₀).poll_eq.symm.trans answer
    have shows := (later.workers w' (List.mem_of_getElem? found')).shows h hh'
    rw [same.loan] at shows
    exact ⟨shows.poll_eq.trans (same.answer answered), shows.wait?_eq.trans (same.answer answered)⟩

/-- The first two loans overtake each other, the first is polled before it is answered, the holder
of the third lets go of it, and the worker of the last dies over it. -/
theorem run_answers_overtaking :
    let f := Filter.ofSource "{grade} < 'C'" .inclusion
    let loan (grade : String) := Loan.ofFields [("grade", .text grade)]
    let steps (index : Nat) := List.replicate 6 (Turn.move index .work)
    let schedule : List Turn := [.submit (loan "A"), .submit (loan "D"), .submit (.ofFields []),
      .submit (loan "B"), .move 0 .work, .move 0 .poll] ++ steps 1 ++ [.move 2 .release] ++
      steps 2 ++ [.move 3 .die] ++ steps 0
    let p := (start f).run schedule
    p.workers.map (fun w => w.handle?.map (·.poll.1)) =
        [some (some true), some (some false), none, some (some false)] ∧
      (∀ more, ∀ h ∈ ((p.turn (.move 0 .poll)).run more).handle? 0,
        h.poll.1 = some true ∧ h.wait? = some true) ∧
      p.begun f.rule = [] ∧
      p.filters.map Filter.counts = [⟨1, 2, 1⟩] := by
  intro f loan steps schedule p
  obtain ⟨-, -, stays, -, -, untouched, -, -⟩ := run_answers f schedule
  exact ⟨by decide +kernel, stays 0 true (by decide +kernel), untouched (by decide +kernel),
    by decide +kernel⟩

end Pool

end LoanDesk
