import PromptChain.Flow.Rehearsal

/-!
# Overlapping executions

Several commands share one clock. Each starts at its time and then goes on without
interruption, except where an execution waits for the delayed answer of the provider;
meanwhile others go on. The events are taken in the order of their times, and those of
one time in the order in which they were planned.

An execution of several blocks is a `Job`, which knows the blocks still to come. So
each event either starts a command or takes a job further, and the schedule ends.
-/

namespace PromptChain

/-- An execution of blocks, one after the other. -/
structure Job where
  target : Target
  /-- The outcomes so far. -/
  outcomes : List Outcome
  /-- The blocks still to be executed. -/
  ids : List String

/-- What a task does at its next event. -/
inductive Activity where
  /-- It starts. -/
  | start (command : Command)
  /-- Its run gets its result. -/
  | resume (run : Run) (result : Block.Result) (job : Job)

/-- An event of a task. -/
structure Event where
  /-- The time of the event. -/
  due : Nat
  /-- The position of the task among the tasks. -/
  task : Nat
  activity : Activity

/-- A task that is complete: its answer, and the store at that time. -/
structure Completion where
  task : Nat
  reply : Reply
  store : Store

/-- How far a job goes without interruption. -/
inductive Progress where
  | complete (reply : Reply)
  /-- The job waits for the result of a run that takes some time. -/
  | waiting (delay : Nat) (run : Run) (result : Block.Result) (job : Job)

/-- Take a job as far as it goes without interruption. -/
def Job.advance (target : Target) :
    List String → List Outcome → Rehearsal → Progress × Rehearsal
  | [], outcomes, r => (.complete (target.reply outcomes), r)
  | id :: rest, outcomes, r =>
    match r.store.start id r.provider with
    | (.absent, store, provider) => advance target rest outcomes { r with store, provider }
    | (.done outcome, store, provider) =>
      advance target rest (outcomes ++ [outcome]) { r with store, provider }
    | (.waiting run ticket, store, provider) =>
      let result := Block.Result.ofAnswer ticket.answer
      match ticket.delay? with
      | some delay =>
        (.waiting delay run result ⟨target, outcomes, rest⟩, { r with store, provider })
      | none =>
        advance target rest (outcomes ++ [run.outcome result])
          { r with store := store.finish run result, provider }

/-- What happens at an event. -/
def Activity.perform (r : Rehearsal) : Activity → Progress × Rehearsal
  | .start (.execute target) => Job.advance target (target.ids r.store) [] r
  | .start command =>
    let (reply, r) := command.perform r
    (.complete reply, r)
  | .resume run result job =>
    Job.advance job.target job.ids (job.outcomes ++ [run.outcome result])
      { r with store := r.store.finish run result }

/-- Plan an event after those that are due at the same time or earlier. -/
def Event.plan (event : Event) : List Event → List Event
  | [] => [event]
  | next :: rest =>
    if event.due < next.due then event :: next :: rest else next :: event.plan rest

/-! ## The end of a schedule

Every event takes away a start, or leaves the starts alone and takes away a resumption
with at least one block. -/

/-- The starts that an activity stands for. -/
def Activity.starts : Activity → Nat
  | .start _ => 1
  | .resume .. => 0

/-- The executions that an activity has before it, once started. -/
def Activity.executions : Activity → Nat
  | .start _ => 0
  | .resume _ _ job => job.ids.length + 1

/-- The starts that are still to come. -/
def starts : List Event → Nat
  | [] => 0
  | event :: rest => event.activity.starts + starts rest

/-- The executions that are still to be resumed. -/
def executions : List Event → Nat
  | [] => 0
  | event :: rest => event.activity.executions + executions rest

theorem starts_cons (event : Event) (events : List Event) :
    starts (event :: events) = event.activity.starts + starts events := rfl

theorem executions_cons (event : Event) (events : List Event) :
    executions (event :: events) = event.activity.executions + executions events := rfl

theorem starts_plan (event : Event) (events : List Event) :
    starts (event.plan events) = event.activity.starts + starts events := by
  induction events with
  | nil => simp [Event.plan, starts]
  | cons next rest ih =>
    simp only [Event.plan]
    split
    · simp only [starts_cons]
    · simp only [starts_cons, ih]
      omega

theorem executions_plan (event : Event) (events : List Event) :
    executions (event.plan events) = event.activity.executions + executions events := by
  induction events with
  | nil => simp [Event.plan, executions]
  | cons next rest ih =>
    simp only [Event.plan]
    split
    · simp only [executions_cons]
    · simp only [executions_cons, ih]
      omega

theorem length_ids_of_advance {target : Target} {ids : List String} {outcomes : List Outcome}
    {r r' : Rehearsal} {delay : Nat} {run : Run} {result : Block.Result} {job : Job}
    (h : Job.advance target ids outcomes r = (.waiting delay run result job, r')) :
    job.ids.length < ids.length := by
  induction ids generalizing outcomes r with
  | nil => simp [Job.advance] at h
  | cons id rest ih =>
    simp only [Job.advance] at h
    split at h
    · exact Nat.lt_succ_of_lt (ih h)
    · exact Nat.lt_succ_of_lt (ih h)
    · split at h
      · simp only [Prod.mk.injEq, Progress.waiting.injEq] at h
        obtain ⟨⟨-, -, -, rfl⟩, -⟩ := h
        simp
      · exact Nat.lt_succ_of_lt (ih h)

/-- An activity that is interrupted has taken a start away, or an execution. -/
theorem progress_of_perform {activity : Activity} {r r' : Rehearsal} {delay : Nat} {run : Run}
    {result : Block.Result} {job : Job}
    (h : activity.perform r = (.waiting delay run result job, r')) :
    activity.starts = 1 ∨ job.ids.length + 1 < activity.executions := by
  cases activity with
  | start command => exact .inl rfl
  | resume run' result' job' =>
    simp only [Activity.perform] at h
    exact .inr (Nat.succ_lt_succ (length_ids_of_advance h))

/-- Take the events one after the other, until no task has any left. The completions are
    in the order in which the tasks end. -/
def Rehearsal.follow (r : Rehearsal) : List Event → List Completion × Rehearsal
  | [] => ([], r)
  | event :: rest =>
    match h : event.activity.perform r with
    | (.complete reply, r) =>
      let (completions, last) := r.follow rest
      (⟨event.task, reply, r.store⟩ :: completions, last)
    | (.waiting delay run result job, r) =>
      have := progress_of_perform h
      r.follow (Event.plan ⟨event.due + delay, event.task, .resume run result job⟩ rest)
termination_by events => (starts events, executions events, events.length)
decreasing_by
  · rw [starts_cons, executions_cons]
    rcases Nat.eq_zero_or_pos event.activity.starts with h0 | h0
    · rw [h0, Nat.zero_add]
      rcases Nat.eq_zero_or_pos event.activity.executions with h1 | h1
      · rw [h1, Nat.zero_add]
        exact .right _ (.right _ (Nat.lt_succ_self _))
      · exact .right _ (.left _ _ (by omega))
    · exact .left _ _ (by omega)
  · rw [starts_plan, executions_plan, starts_cons, executions_cons]
    change Prod.Lex _ _ (0 + starts rest, (job.ids.length + 1 + executions rest, _)) _
    rcases this with h0 | h0
    · exact .left _ _ (by omega)
    · rcases Nat.eq_zero_or_pos event.activity.starts with h1 | h1
      · rw [h1]
        exact .right _ (.left _ _ (by omega))
      · exact .left _ _ (by omega)

/-- The events that start commands at the given times. -/
def Event.ofTasks (tasks : List (Nat × Command)) : List Event :=
  tasks.zipIdx.foldl
    (fun events ((due, command), task) => Event.plan ⟨due, task, .start command⟩ events) []

/-- Carry out commands that start at the given times. -/
def Rehearsal.overlap (r : Rehearsal) (tasks : List (Nat × Command)) :
    List Completion × Rehearsal :=
  r.follow (Event.ofTasks tasks)

end PromptChain
