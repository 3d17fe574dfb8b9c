import PromptChain.Flow.Schedule
import PromptChain.Proofs.Accounting
import PromptChain.Proofs.Contention

/-!
# Schedules are overlaps

In a schedule (`Rehearsal.overlap`), commands go on while executions wait for the delayed
answers of the provider. Whatever a command does up to the next such point is a sequence of
steps of an `Overlap`, and the runs that wait are those of the events that will resume
them (`Agrees`). So what holds of every overlap holds of every schedule: each completion
shows a store that some steps lead to, and in the end no run waits.
-/

namespace PromptChain

/-- The runs that an interrupted job waits for. -/
def Progress.runs : Progress → List Run
  | .complete _ => []
  | .waiting _ run _ _ => [run]

/-- The runs that an activity resumes. -/
def Activity.runs : Activity → List Run
  | .start _ => []
  | .resume run _ _ => [run]

/-- The runs that events resume. -/
def Event.runs (events : List Event) : List Run := events.flatMap (·.activity.runs)

theorem Event.plan_perm (event : Event) (events : List Event) :
    (event.plan events).Perm (event :: events) := by
  induction events with
  | nil => exact .refl _
  | cons next rest ih =>
    rw [Event.plan]
    split
    · exact .refl _
    · exact (ih.cons next).trans (.swap event next rest)

theorem Event.runs_plan (event : Event) (events : List Event) :
    (Event.runs (event.plan events)).Perm (event.activity.runs ++ Event.runs events) :=
  (event.plan_perm events).flatMap_right _

theorem Event.eq_of_mem_foldl {tasks : List ((Nat × Command) × Nat)} {events : List Event}
    {event : Event}
    (h : event ∈ tasks.foldl
      (fun events ((due, command), task) => Event.plan ⟨due, task, .start command⟩ events) events) :
    event ∈ events ∨ ∃ task ∈ tasks, event = ⟨task.1.1, task.2, .start task.1.2⟩ := by
  induction tasks generalizing events with
  | nil => exact .inl h
  | cons task rest ih =>
    rcases ih h with hplan | ⟨other, ho, heq⟩
    · rcases List.mem_cons.1 ((Event.plan_perm _ events).mem_iff.1 hplan) with rfl | hmem
      · exact .inr ⟨task, List.mem_cons_self, rfl⟩
      · exact .inl hmem
    · exact .inr ⟨other, List.mem_cons_of_mem _ ho, heq⟩

/-- What tasks start with: their commands, and nothing else. -/
theorem Event.exists_of_mem_ofTasks {tasks : List (Nat × Command)} {event : Event}
    (h : event ∈ ofTasks tasks) :
    ∃ due command, tasks[event.task]? = some (due, command) ∧
      event = ⟨due, event.task, .start command⟩ := by
  rcases eq_of_mem_foldl h with hnil | ⟨⟨⟨due, command⟩, task⟩, ht, rfl⟩
  · exact absurd hnil List.not_mem_nil
  · exact ⟨due, command, List.mem_zipIdx_iff_getElem?.1 ht, rfl⟩

namespace Rehearsal

variable {r r' : Rehearsal} {event : Event} {rest : List Event}

theorem follow_of_complete {reply : Reply}
    (h : event.activity.perform r = (.complete reply, r')) :
    r.follow (event :: rest) =
      (⟨event.task, reply, r'.store⟩ :: (r'.follow rest).1, (r'.follow rest).2) := by
  rw [follow]
  split
  next heq =>
    rw [h] at heq
    obtain ⟨⟨rfl⟩, rfl⟩ := Prod.mk.inj heq
    rfl
  next heq =>
    rw [h] at heq
    cases heq

theorem follow_of_waiting {delay : Nat} {run : Run} {result : Block.Result} {job : Job}
    (h : event.activity.perform r = (.waiting delay run result job, r')) :
    r.follow (event :: rest) =
      r'.follow (Event.plan ⟨event.due + delay, event.task, .resume run result job⟩ rest) := by
  rw [follow]
  split
  next heq =>
    rw [h] at heq
    cases heq
  next heq =>
    rw [h] at heq
    obtain ⟨⟨rfl, rfl, rfl, rfl⟩, rfl⟩ := Prod.mk.inj heq
    rfl

end Rehearsal

mutual

/-- Wherever a command is carried out, the blocks that it adds may be added: they are fresh,
    and their ids are admitted. -/
def Command.Admitted (admits : Overlap → String → Prop) : Command → Prop
  | .add _ => ∀ o id, admits o id
  | .push block => block.IsFresh ∧ ∀ o, admits o block.id
  | .contend _ _ between => AllAdmitted admits between
  | _ => True

/-- Each of the commands is admitted. -/
def AllAdmitted (admits : Overlap → String → Prop) : List Command → Prop
  | [] => True
  | command :: rest => command.Admitted admits ∧ AllAdmitted admits rest

end

/-- An activity may go on: the blocks that it adds may be added, and the run that it resumes
    was answered. -/
def Activity.Admitted (admits : Overlap → String → Prop) : Activity → Prop
  | .start command => command.Admitted admits
  | .resume _ result _ => ∃ answer, result = .ofAnswer answer

/-- The run that an interrupted job waits for will be answered. -/
def Progress.Answered : Progress → Prop
  | .complete _ => True
  | .waiting _ _ result _ => ∃ answer, result = .ofAnswer answer

/-- A job tells its outcomes, or keeps them while it is interrupted. -/
def Progress.Tells (target : Target) (outcomes : List Outcome) : Progress → Prop
  | .complete reply => reply = target.reply outcomes
  | .waiting _ _ _ job => job.target = target ∧ job.outcomes = outcomes

namespace Overlap

variable {admits : Overlap → String → Prop} {o : Overlap}

/-- Steps one after the other, and what they report. -/
inductive Steps (admits : Overlap → String → Prop) : Overlap → List Outcome → Overlap → Prop
  | refl {o : Overlap} : Steps admits o [] o
  | step {o o' o'' : Overlap} {outcome? : Option Outcome} {outcomes : List Outcome} :
      Step admits o outcome? o' → Steps admits o' outcomes o'' →
      Steps admits o (outcome?.toList ++ outcomes) o''

namespace Steps

variable {o' o'' : Overlap} {outcomes outcomes' : List Outcome}

theorem single {outcome? : Option Outcome} (h : Step admits o outcome? o') :
    Steps admits o outcome?.toList o' := by
  simpa using Steps.step h .refl

theorem trans (h : Steps admits o outcomes o') (h' : Steps admits o' outcomes' o'') :
    Steps admits o (outcomes ++ outcomes') o'' := by
  induction h with
  | refl => exact h'
  | step hstep _ ih =>
    rw [List.append_assoc]
    exact .step hstep (ih h')

theorem reachable {store : Store} (h : Steps admits o outcomes o') (ho : Reachable admits store o) :
    Reachable admits store o' := by
  induction h with
  | refl => exact ho
  | step hstep _ ih => exact ih (ho.step hstep)

end Steps

/-! ## Single steps -/

/-- The start of an execution is a step. What it begins waits. -/
theorem exists_step_of_start (admits : Overlap → String → Prop) {id : String} {π : Type}
    [Provider π] {provider provider' : π} {start : Start} {store : Store}
    (hs : o.store.start id provider = (start, store, provider')) :
    ∃ o', Step admits o start.outcome? o' ∧ o'.store = store ∧
      o'.waiting.Perm (start.records.map Record.run ++ o.waiting) := by
  refine ⟨_, .start hs, rfl, ?_⟩
  have hwaits : start.records.filter Record.waits = start.records := by
    cases start <;> rfl
  rw [waiting, List.filter_append, hwaits, List.map_append]
  refine (List.perm_append_comm.append_right _).trans ?_
  rw [List.append_assoc]
  exact .refl _

/-- A removal is a step, after which the same runs wait. -/
theorem exists_step_of_remove (admits : Overlap → String → Prop) {id : String} {store : Store}
    (hr : o.store.remove? id = some store) :
    ∃ o', Step admits o none o' ∧ o'.store = store ∧ o'.waiting.Perm o.waiting := by
  refine ⟨_, .remove hr, rfl, ?_⟩
  -- The runs of the block go from the ones in the list to the orphans.
  have hsplit : ((o.records.filter (·.run.id ≠ id)).filter Record.waits ++ o.waitingOf id).Perm
      (o.records.filter Record.waits) := by
    have hperm := List.filter_append_perm (·.run.id = id) o.records
    rw [waitingOf, recordsOf, ← List.filter_append]
    refine (List.perm_append_comm.trans ?_).filter Record.waits
    simpa using hperm
  have hmap := (hsplit.map Record.run).append_right o.orphans
  rw [List.map_append, List.append_assoc] at hmap
  exact (List.perm_append_comm.append_left _).trans hmap

/-! ## Executions -/

/-- A run whose answer is there at once is complete before anything else happens. -/
theorem steps_of_answered (admits : Overlap → String → Prop) {id : String} {π : Type} [Provider π]
    {provider provider' : π} {run : Run} {ticket : Ticket Answer} {store : Store}
    (hs : o.store.start id provider = (.waiting run ticket, store, provider')) :
    ∃ o', Steps admits o [run.outcome (.ofAnswer ticket.answer)] o' ∧
      o'.store = store.finish run (.ofAnswer ticket.answer) ∧ o'.waiting.Perm o.waiting := by
  obtain ⟨o₁, hstep, rfl, hw⟩ := exists_step_of_start admits hs
  obtain ⟨o₂, hstep₂, hstore₂, hw₂⟩ :=
    exists_step_of_waiting admits (hw.mem_iff.2 List.mem_cons_self) ticket.answer
  exact ⟨o₂, .step hstep (.single hstep₂), hstore₂, (hw₂.symm.trans hw).cons_inv⟩

/-- Whatever a job does without interruption is a sequence of steps, and if it is
    interrupted, the run that it waits for is one more that waits. -/
theorem steps_of_advance (admits : Overlap → String → Prop) {target : Target} {ids : List String}
    {outcomes : List Outcome} {r r' : Rehearsal} {progress : Progress}
    (h : Job.advance target ids outcomes r = (progress, r')) (ho : o.store = r.store) :
    ∃ reported o', Steps admits o reported o' ∧ o'.store = r'.store ∧
      o'.waiting.Perm (progress.runs ++ o.waiting) ∧ progress.Answered ∧
      progress.Tells target (outcomes ++ reported) := by
  induction ids generalizing outcomes r o with
  | nil =>
    obtain ⟨rfl, rfl⟩ := Prod.mk.inj h
    exact ⟨[], o, .refl, ho, .refl _, trivial, by rw [List.append_nil]; rfl⟩
  | cons id rest ih =>
    rw [Job.advance, ← ho] at h
    split at h
    next store provider hs =>
      obtain ⟨o₁, hstep, hstore, hw⟩ := exists_step_of_start admits hs
      obtain ⟨reported, o', hsteps, hstore', hw', hanswered, htells⟩ := ih h hstore
      refine ⟨reported, o', .step hstep hsteps, hstore', ?_, hanswered, htells⟩
      exact hw'.trans (hw.append_left _)
    next outcome store provider hs =>
      obtain ⟨o₁, hstep, hstore, hw⟩ := exists_step_of_start admits hs
      obtain ⟨reported, o', hsteps, hstore', hw', hanswered, htells⟩ := ih h hstore
      refine ⟨outcome :: reported, o', .step hstep hsteps, hstore', ?_, hanswered, ?_⟩
      · exact hw'.trans (hw.append_left _)
      · rwa [List.append_assoc] at htells
    next run ticket store provider hs =>
      -- The job is interrupted here, unless the answer is there at once.
      split at h
      next delay hd =>
        obtain ⟨rfl, rfl⟩ := Prod.mk.inj h
        obtain ⟨o₁, hstep, hstore, hw⟩ := exists_step_of_start admits hs
        exact ⟨[], o₁, .step hstep .refl, hstore, hw, ⟨_, rfl⟩, rfl, (List.append_nil _).symm⟩
      next hd =>
        obtain ⟨o₁, hsteps₁, hstore, hw⟩ := steps_of_answered admits hs
        obtain ⟨reported, o', hsteps, hstore', hw', hanswered, htells⟩ := ih h hstore
        refine ⟨_, o', hsteps₁.trans hsteps, hstore', ?_, hanswered, ?_⟩
        · exact hw'.trans (hw.append_left _)
        · rwa [List.append_assoc] at htells

/-- An execution that nothing disturbs is a sequence of steps, after which the same runs
    wait. -/
theorem steps_of_execute (admits : Overlap → String → Prop) {id : String} {π : Type} [Provider π]
    {store' : Store} {provider provider' : π} {outcome? : Option Outcome}
    (h : o.store.execute id provider = (outcome?, store', provider')) :
    ∃ o', Steps admits o outcome?.toList o' ∧ o'.store = store' ∧ o'.waiting.Perm o.waiting := by
  rw [Store.execute] at h
  split at h
  next hs =>
    obtain ⟨rfl, rfl, rfl⟩ := by simpa only [Prod.mk.injEq] using h
    obtain ⟨o₁, hstep, hstore, hw⟩ := exists_step_of_start admits hs
    exact ⟨o₁, .single hstep, hstore, hw⟩
  next hs =>
    obtain ⟨rfl, rfl, rfl⟩ := by simpa only [Prod.mk.injEq] using h
    obtain ⟨o₁, hstep, hstore, hw⟩ := exists_step_of_start admits hs
    exact ⟨o₁, .single hstep, hstore, hw⟩
  next hs =>
    obtain ⟨rfl, rfl, rfl⟩ := by simpa only [Prod.mk.injEq] using h
    exact steps_of_answered admits hs

/-- Executions that nothing disturbs are a sequence of steps, after which the same runs
    wait. -/
theorem steps_of_executeAll (admits : Overlap → String → Prop) {π : Type} [Provider π]
    {ids : List String} {store' : Store} {provider provider' : π} {outcomes : List Outcome}
    (h : o.store.executeAll ids provider = (outcomes, store', provider')) :
    ∃ o', Steps admits o outcomes o' ∧ o'.store = store' ∧ o'.waiting.Perm o.waiting := by
  induction ids generalizing store' provider provider' outcomes o with
  | nil =>
    obtain ⟨rfl, rfl, rfl⟩ := by simpa only [Store.executeAll, Prod.mk.injEq] using h
    exact ⟨o, .refl, rfl, .refl _⟩
  | cons id rest ih =>
    rcases he : o.store.execute id provider with ⟨outcome?, store₁, provider₁⟩
    obtain ⟨o₁, hsteps, rfl, hw⟩ := steps_of_execute admits he
    rcases hrest : o₁.store.executeAll rest provider₁ with ⟨outcomes₂, store₂, provider₂⟩
    obtain ⟨o₂, hsteps₂, rfl, hw₂⟩ := ih hrest
    simp only [Store.executeAll, he, hrest, Prod.mk.injEq] at h
    obtain ⟨rfl, rfl, -⟩ := h
    exact ⟨o₂, hsteps.trans hsteps₂, rfl, hw₂.trans hw⟩

/-! ## Commands -/

theorem Steps.version {outcomes : List Outcome} {o' : Overlap} (h : Steps admits o outcomes o') :
    o'.store = o.store ∨ o.store.version < o'.store.version := by
  induction h with
  | refl => exact .inl rfl
  | step hstep _ ih =>
    rcases hstep.version with heq | hlt
    · rwa [heq] at ih
    · right
      rcases ih with heq | ih
      · rw [heq, hlt]
        exact Nat.lt_succ_self _
      · omega

/-- Some steps lead to a store, after which the same runs wait. -/
def Leads (admits : Overlap → String → Prop) (o : Overlap) (store : Store) : Prop :=
  ∃ reported o', Steps admits o reported o' ∧ o'.store = store ∧ o'.waiting.Perm o.waiting

theorem Leads.refl : Leads admits o o.store := ⟨[], o, .refl, rfl, .refl _⟩

theorem Leads.step {o' : Overlap} {outcome? : Option Outcome} (h : Step admits o outcome? o')
    (hw : o'.waiting.Perm o.waiting) : Leads admits o o'.store :=
  ⟨_, o', .single h, rfl, hw⟩

theorem Leads.trans {o₁ : Overlap} {store : Store} {reported : List Outcome}
    (hsteps : Steps admits o reported o₁) (hw : o₁.waiting.Perm o.waiting)
    (h : Leads admits o₁ store) : Leads admits o store := by
  obtain ⟨reported', o', hsteps', rfl, hw'⟩ := h
  exact ⟨_, o', hsteps.trans hsteps', rfl, hw'.trans hw⟩

theorem leads_of_write {operation : Store → Option Store} {r r' : Rehearsal} {reply : Reply}
    (h : r.write operation = (reply, r')) (ho : o.store = r.store)
    (hl : ∀ store, operation o.store = some store → Leads admits o store) :
    Leads admits o r'.store := by
  rw [Rehearsal.write, ← ho] at h
  split at h
  next store hw =>
    obtain ⟨-, rfl⟩ := Prod.mk.inj h
    exact hl store hw
  next =>
    obtain ⟨-, rfl⟩ := Prod.mk.inj h
    rw [← ho]
    exact .refl

/-- A writer that extends a name and succeeds has renamed the block as it is. -/
theorem leads_of_swap {id suffix : String} {seen store : Store} {blocks : List Block}
    (hm : Block.changeFirst? id (Block.extendName suffix) seen.blocks = some blocks)
    (hs : seen.swap? blocks o.store = some store)
    (hseen : o.store = seen ∨ seen.version < o.store.version) : Leads admits o store := by
  have hu : o.store.update? id (Block.extendName suffix) = some store :=
    Store.write?_of_swap? hm hs fun heq => hseen.resolve_right (by omega)
  obtain ⟨before, block, after, hf, rfl⟩ := Store.exists_of_update? hu
  exact .step (.rename (Store.update?_of_first hf _)) (.refl _)

mutual

/-- Whatever an admitted command does is a sequence of steps. -/
theorem leads_of_perform {o : Overlap} (command : Command) (hc : command.Admitted admits)
    {r r' : Rehearsal} {reply : Reply} (h : command.perform r = (reply, r'))
    (ho : o.store = r.store) : Leads admits o r'.store := by
  cases command with
  | execute target =>
    rw [Command.perform, Rehearsal.execute, ← ho] at h
    rcases he : o.store.executeAll (target.ids o.store) r.provider with ⟨outcomes, store, provider⟩
    rw [he] at h
    obtain ⟨-, rfl⟩ := Prod.mk.inj h
    obtain ⟨o', hsteps, hstore, hw⟩ := steps_of_executeAll admits he
    exact ⟨outcomes, o', hsteps, hstore, hw⟩
  | add kind =>
    rw [Command.perform, Rehearsal.add, ← ho] at h
    obtain ⟨-, rfl⟩ := Prod.mk.inj h
    exact .step (.push (Block.isFresh_new _ kind) (hc o _)) (.refl _)
  | push block =>
    rw [Command.perform, ← ho] at h
    obtain ⟨-, rfl⟩ := Prod.mk.inj h
    rw [Command.Admitted] at hc
    exact .step (.push hc.1 (hc.2 o)) (.refl _)
  | remove id =>
    refine leads_of_write h ho fun store hr => ?_
    obtain ⟨o', hstep, rfl, hw⟩ := exists_step_of_remove admits hr
    exact .step hstep hw
  | rename id name => exact leads_of_write h ho fun _ hu => .step (.rename hu) (.refl _)
  | configure id patch => exact leads_of_write h ho fun _ hu => .step (.configure hu) (.refl _)
  | toggle id => exact leads_of_write h ho fun _ hu => .step (.toggle hu) (.refl _)
  | move source target => exact leads_of_write h ho fun _ hm => .step (.move hm) (.refl _)
  | contend id suffix between =>
    rw [Command.perform] at h
    rcases hw : contendWith (Block.changeFirst? id (Block.extendName suffix)) between r.store r
      with ⟨attempts, replies, version?, r₁⟩
    rw [hw] at h
    obtain ⟨-, rfl⟩ := Prod.mk.inj h
    rw [Command.Admitted] at hc
    exact leads_of_contendWith between hc hw ho (.inl ho)
  | mentionable | find | observe | hold | held | script | refused =>
    rw [Command.perform] at h
    obtain ⟨-, rfl⟩ := Prod.mk.inj h
    rw [← ho]
    exact .refl

/-- A writer that contends with admitted commands either lets them pass or writes to the
    version that they lead to. -/
theorem leads_of_contendWith {o : Overlap} {id suffix : String} (between : List Command)
    (hc : AllAdmitted admits between) {seen : Store} {r r' : Rehearsal} {attempts : Nat}
    {replies : List Reply} {version? : Option Nat}
    (h : contendWith (Block.changeFirst? id (Block.extendName suffix)) between seen r =
      (attempts, replies, version?, r')) (ho : o.store = r.store)
    (hseen : o.store = seen ∨ seen.version < o.store.version) : Leads admits o r'.store := by
  cases between with
  | nil =>
    rw [contendWith, ← ho] at h
    split at h
    next =>
      obtain ⟨-, -, -, rfl⟩ := by simpa only [Prod.mk.injEq] using h
      rw [← ho]
      exact .refl
    next store hb =>
      obtain ⟨-, -, -, rfl⟩ := by simpa only [Prod.mk.injEq] using h
      obtain ⟨blocks, hm, hs⟩ := Option.bind_eq_some_iff.1 hb
      exact leads_of_swap hm hs hseen
  | cons command rest =>
    rw [AllAdmitted] at hc
    rw [contendWith] at h
    rcases hp : command.perform r with ⟨reply, r₁⟩
    rw [hp] at h
    obtain ⟨reported, o₁, hsteps, hstore, hw⟩ := leads_of_perform command hc.1 hp ho
    -- What was seen is either still current, or has an earlier version than what is.
    have hseen₁ : o₁.store = seen ∨ seen.version < o₁.store.version := by
      rcases hseen with heq | hlt
      · rw [← heq]
        exact hsteps.version
      · rcases hsteps.version with heq | hlt₁
        · exact .inr (heq ▸ hlt)
        · exact .inr (Nat.lt_trans hlt hlt₁)
    refine .trans hsteps hw ?_
    dsimp only at h
    split at h
    next =>
      obtain ⟨-, -, -, rfl⟩ := by simpa only [Prod.mk.injEq] using h
      rw [← hstore]
      exact .refl
    next blocks hm =>
      rw [← hstore] at h
      split at h
      next store hs =>
        obtain ⟨-, -, -, rfl⟩ := by simpa only [Prod.mk.injEq] using h
        exact leads_of_swap hm hs hseen₁
      next =>
        rcases hrest : contendWith (Block.changeFirst? id (Block.extendName suffix)) rest
          o₁.store r₁ with ⟨attempts₂, replies₂, version₂?, r₂⟩
        rw [hrest] at h
        obtain ⟨-, -, -, rfl⟩ := by simpa only [Prod.mk.injEq] using h
        exact leads_of_contendWith rest hc.2 hrest hstore (.inl rfl)

end

/-! ## Schedules -/

/-- The runs that wait are those that the events to come resume, and the events may go on. -/
structure Agrees (admits : Overlap → String → Prop) (o : Overlap) (r : Rehearsal)
    (events : List Event) : Prop where
  store : o.store = r.store
  waiting : o.waiting.Perm (Event.runs events)
  admitted : ∀ event ∈ events, event.activity.Admitted admits

namespace Agrees

variable {r r' : Rehearsal} {event : Event} {rest : List Event}

/-- What happens at an event is a sequence of steps. -/
theorem steps_of_perform (h : Agrees admits o r (event :: rest)) {progress : Progress}
    (hp : event.activity.perform r = (progress, r')) :
    ∃ reported o', Steps admits o reported o' ∧ o'.store = r'.store ∧
      o'.waiting.Perm (progress.runs ++ Event.runs rest) ∧ progress.Answered := by
  have hadmitted := h.admitted event List.mem_cons_self
  have hwaiting : o.waiting.Perm (event.activity.runs ++ Event.runs rest) := h.waiting
  cases ha : event.activity with
  | start command =>
    rw [ha] at hp hadmitted hwaiting
    -- Only an execution can be interrupted; any other command is complete at once.
    by_cases hx : ∃ target, command = .execute target
    · obtain ⟨target, rfl⟩ := hx
      obtain ⟨reported, o', hsteps, hstore, hw, hanswered, -⟩ := steps_of_advance admits hp h.store
      exact ⟨reported, o', hsteps, hstore, hw.trans (hwaiting.append_left _), hanswered⟩
    · rw [Activity.perform] at hp
      · rcases hc : command.perform r with ⟨reply, r₁⟩
        rw [hc] at hp
        obtain ⟨rfl, rfl⟩ := Prod.mk.inj hp
        obtain ⟨reported, o', hsteps, hstore, hw⟩ := leads_of_perform command hadmitted hc h.store
        exact ⟨reported, o', hsteps, hstore, hw.trans hwaiting, trivial⟩
      · exact fun target heq => hx ⟨target, heq⟩
  | resume run result job =>
    rw [ha] at hp hadmitted hwaiting
    obtain ⟨answer, rfl⟩ := hadmitted
    obtain ⟨o₁, hstep, hstore₁, hw₁⟩ :=
      exists_step_of_waiting admits (hwaiting.mem_iff.2 List.mem_cons_self) answer
    obtain ⟨reported, o', hsteps, hstore, hw, hanswered, -⟩ :=
      steps_of_advance (o := o₁) admits hp (by rw [hstore₁, h.store])
    refine ⟨_, o', .step hstep hsteps, hstore, ?_, hanswered⟩
    exact hw.trans ((hw₁.symm.trans hwaiting).cons_inv.append_left _)

/-- Before anything has begun, no run waits. -/
theorem start {events : List Event} (h : ∀ event ∈ events,
    ∃ command, event.activity = .start command ∧ command.Admitted admits) :
    Agrees admits (.start r.store) r events := by
  refine ⟨rfl, .of_eq (List.flatMap_eq_nil_iff.2 fun event he => ?_).symm, fun event he => ?_⟩
  · obtain ⟨command, heq, -⟩ := h event he
    rw [heq]
    rfl
  · obtain ⟨command, heq, hc⟩ := h event he
    rw [heq]
    exact hc

end Agrees

/-- Events lead to stores that steps lead to, and in the end no run waits. -/
theorem Agrees.follow {r : Rehearsal} {events : List Event} (h : Agrees admits o r events) :
    (∀ completion ∈ (r.follow events).1, ∃ reported o', Steps admits o reported o' ∧
      o'.store = completion.store) ∧
    ∃ reported o', Steps admits o reported o' ∧ o'.store = (r.follow events).2.store ∧
      o'.waiting = [] := by
  induction r, events using Rehearsal.follow.induct generalizing o with
  | case1 r =>
    rw [Rehearsal.follow]
    exact ⟨fun _ hc => absurd hc List.not_mem_nil, [], o, .refl, h.store, h.waiting.eq_nil⟩
  | case2 r event rest reply r₁ hp completions last hrest ih =>
    obtain ⟨reported, o₁, hsteps, hstore, hw, -⟩ := h.steps_of_perform hp
    have hagrees : Agrees admits o₁ r₁ rest :=
      ⟨hstore, hw, fun event he => h.admitted event (List.mem_cons_of_mem _ he)⟩
    obtain ⟨hcompletions, reported', o', hsteps', hstore', hnone⟩ := ih hagrees
    rw [Rehearsal.follow_of_complete hp]
    refine ⟨fun completion hc => ?_, _, o', hsteps.trans hsteps', hstore', hnone⟩
    rcases List.mem_cons.1 hc with rfl | hc
    · exact ⟨reported, o₁, hsteps, hstore⟩
    · obtain ⟨reported', o', hsteps', hstore'⟩ := hcompletions completion hc
      exact ⟨_, o', hsteps.trans hsteps', hstore'⟩
  | case3 r event rest delay run result job r₁ hp _ ih =>
    obtain ⟨reported, o₁, hsteps, hstore, hw, hanswered⟩ := h.steps_of_perform hp
    -- The run that waits is the one that the planned event resumes.
    have hagrees : Agrees admits o₁ r₁
        (Event.plan ⟨event.due + delay, event.task, .resume run result job⟩ rest) := by
      have hplan : (Event.runs (Event.plan _ rest)).Perm (run :: Event.runs rest) :=
        Event.runs_plan ⟨event.due + delay, event.task, .resume run result job⟩ rest
      refine ⟨hstore, hw.trans hplan.symm, fun other ho => ?_⟩
      rcases List.mem_cons.1 ((Event.plan_perm _ rest).mem_iff.1 ho) with rfl | ho
      · exact hanswered
      · exact h.admitted other (List.mem_cons_of_mem _ ho)
    obtain ⟨hcompletions, reported', o', hsteps', hstore', hnone⟩ := ih hagrees
    rw [Rehearsal.follow_of_waiting hp]
    refine ⟨fun completion hc => ?_, _, o', hsteps.trans hsteps', hstore', hnone⟩
    obtain ⟨reported', o', hsteps', hstore'⟩ := hcompletions completion hc
    exact ⟨_, o', hsteps.trans hsteps', hstore'⟩

/-- A schedule of admitted commands is a run of an overlap: each completion shows a store
    that is reached, and in the end no run waits. -/
theorem reachable_of_overlap (r : Rehearsal) {tasks : List (Nat × Command)}
    (h : ∀ task ∈ tasks, task.2.Admitted admits) :
    (∀ completion ∈ (r.overlap tasks).1, ∃ o, Reachable admits r.store o ∧
      o.store = completion.store) ∧
    ∃ o, Reachable admits r.store o ∧ o.store = (r.overlap tasks).2.store ∧ o.waiting = [] := by
  have hagrees : Agrees admits (start r.store) r (Event.ofTasks tasks) := by
    refine .start fun event he => ?_
    obtain ⟨due, command, ht, heq⟩ := Event.exists_of_mem_ofTasks he
    exact ⟨command, congrArg Event.activity heq, h _ (List.mem_of_getElem? ht)⟩
  obtain ⟨hcompletions, reported, o, hsteps, hstore, hnone⟩ := hagrees.follow
  refine ⟨fun completion hc => ?_, o, hsteps.reachable .start, hstore, hnone⟩
  obtain ⟨reported, o, hsteps, hstore⟩ := hcompletions completion hc
  exact ⟨o, hsteps.reachable .start, hstore⟩

/-- In the end of a schedule that adds no blocks, no block is executing. -/
theorem idle_of_overlap (r : Rehearsal) {tasks : List (Nat × Command)} (hs : r.store.IsFresh)
    (h : ∀ task ∈ tasks, task.2.Admitted Unused) :
    ∀ block ∈ (r.overlap tasks).2.store.blocks, block.inFlight = 0 ∧ block.executing = false := by
  obtain ⟨-, o, ho, hstore, hnone⟩ := reachable_of_overlap r h
  rw [← hstore]
  exact ho.idle hs hnone

end Overlap

end PromptChain
