import PromptChain.Proofs.Pass
import PromptChain.Proofs.Schedule

/-!
# The execution of all blocks amid others

The execution of all blocks is settled on their ids when it starts. Then each id has its turn,
and whenever a run waits for its answer, others may do to the list and to the provider whatever
they like: execute, edit, rename, move, add and remove blocks. A `Store.tour` is such an execution
in which the others are a parameter. It keeps, for each id, the list as its turn finds it and as
its turn leaves it.

* `Turn.Taken`: the three ways in which a turn can go;
* `Store.executeAll_eq_tour`: if the others do nothing, the tour is the execution of blocks that
  nothing disturbs;
* `Rehearsal.isOfTour_overlap`: what an execution reports in a schedule is what a tour reports
  that begins as the schedule comes to the start of its task (`Rehearsal.ComesTo`);
* `Store.tour_amid_others`: which blocks a tour executes, in which places and with which prompts.
-/

namespace PromptChain

/-! ## Turns -/

/-- The turn of an id. -/
structure Turn (π : Type) where
  id : String
  /-- The list as it is when the turn comes. -/
  seen : Store
  /-- The provider at that time. -/
  provider : π
  /-- The list once the execution has started. -/
  begun : Store
  /-- The list when the execution is about to end; others may have changed it meanwhile. -/
  met : Store
  /-- The list when the turn is over. -/
  left : Store
  outcome? : Option Outcome

/-- Whether there is a block with the id when its turn comes. -/
def Turn.finds {π : Type} (turn : Turn π) : Bool := (turn.seen.find? turn.id).isSome

variable {π : Type} [Provider π]

/-- Execute the first block with an id, while others do something as long as a run waits. -/
def Store.turn (others : Store × π → Store × π) (id : String) (store : Store) (provider : π) :
    Turn π × π :=
  match store.start id provider with
  | (.absent, begun, after) => (⟨id, store, provider, begun, begun, begun, none⟩, after)
  | (.done outcome, begun, after) =>
    (⟨id, store, provider, begun, begun, begun, some outcome⟩, after)
  | (.waiting run ticket, begun, after) =>
    let result := Block.Result.ofAnswer ticket.answer
    let (met, after) := others (begun, after)
    (⟨id, store, provider, begun, met, met.finish run result, some (run.outcome result)⟩, after)

/-- Execute blocks one after the other. What others do in a turn is found under the number of
    the turns after it. -/
def Store.tour (others : Nat → Store × π → Store × π) :
    List String → Store → π → List (Turn π) × Store × π
  | [], store, provider => ([], store, provider)
  | id :: rest, store, provider =>
    let (turn, provider) := store.turn (others rest.length) id provider
    let (turns, last) := tour others rest turn.left provider
    (turn :: turns, last)

/-- What a turn can be. -/
inductive Turn.Taken : Turn π → Prop
  /-- There is no block with the id. -/
  | skipped {id : String} {seen : Store} {provider : π} :
      (∀ block ∈ seen.blocks, block.id ≠ id) →
      Taken ⟨id, seen, provider, seen, seen, seen, none⟩
  /-- The first block with the id is an input block, and others do not get in between. -/
  | input {id : String} {seen begun : Store} {provider : π} {before after : List Block}
      {block : Block} :
      Block.First id seen.blocks before block after → block.kind = .input →
      begun = ⟨seen.version + 1, before ++ block.settle :: after⟩ →
      Taken ⟨id, seen, provider, begun, begun, begun,
        some (block.turn seen.blocks before.length provider).1⟩
  /-- A run of the first block with the id begins and ends, whatever others do meanwhile. -/
  | generate {id : String} {seen met : Store} {provider : π} {before after : List Block}
      {block : Block} {run : Run} {result : Block.Result} :
      Block.First id seen.blocks before block after → block.kind = .generate → run.id = id →
      run.outcome result = (block.turn seen.blocks before.length provider).1 →
      Taken ⟨id, seen, provider, ⟨seen.version + 1, before ++ block.begin :: after⟩, met,
        met.finish run result, some (run.outcome result)⟩

/-- There is no other way for a turn to go. -/
theorem Store.taken_turn (others : Store × π → Store × π) (id : String) (store : Store)
    (provider : π) : (store.turn others id provider).1.Taken := by
  rcases Block.first_or_absent id store.blocks with ⟨before, block, after, hf⟩ | ha
  · cases hk : block.kind with
    | input =>
      obtain rfl := hf.id_eq
      rw [turn, start_of_input provider hf hk]
      have houtcome : (⟨block.id, before.length, none, block.settings.input?.map .text⟩ : Outcome) =
          (block.turn store.blocks before.length provider).1 := by
        rw [Block.turn_of_input hk]
      dsimp only
      rw [houtcome]
      exact .input hf hk rfl
    | generate =>
      obtain rfl := hf.id_eq
      rw [turn, start_of_generate provider hf hk]
      refine .generate hf hk rfl ?_
      simp only [Block.turn_of_generate hk, ← promptAt_begin hf]
      rfl
  · rw [turn, start_of_absent provider ha]
    exact .skipped ha

namespace Turn

variable {turn : Turn π}

omit [Provider π] in
theorem finds_of_first {before after : List Block} {block : Block}
    (hf : Block.First turn.id turn.seen.blocks before block after) : turn.finds = true := by
  rw [finds, Store.find?, hf.find?]
  rfl

omit [Provider π] in
theorem finds_of_absent (ha : ∀ block ∈ turn.seen.blocks, block.id ≠ turn.id) :
    turn.finds = false := by
  have hnone : turn.seen.blocks.find? (·.id = turn.id) = none := by simpa using ha
  rw [finds, Store.find?, hnone]
  rfl

namespace Taken

/-- A turn reports its id just if there is a block. -/
theorem id_outcome? (h : turn.Taken) :
    turn.outcome?.map Outcome.id = if turn.finds then some turn.id else none := by
  cases h with
  | skipped ha => rw [finds_of_absent ha]; rfl
  | input hf hk =>
    rw [finds_of_first hf, Option.map_some, Block.turn_id, hf.id_eq]
    rfl
  | generate hf hk hid =>
    rw [finds_of_first hf, Option.map_some, Run.outcome, hid]
    rfl

theorem of_not_finds (h : turn.Taken) (hn : turn.finds = false) :
    turn.outcome? = none ∧ turn.left = turn.seen := by
  cases h with
  | skipped => exact ⟨rfl, rfl⟩
  | input hf | generate hf =>
    rw [finds_of_first hf] at hn
    cases hn

/-- The first block with the id is executed as it is when the turn comes, and its result is
    committed to the list as it is in the end. -/
theorem of_finds (h : turn.Taken) (ht : turn.finds = true) :
    ∃ before block after, Block.First turn.id turn.seen.blocks before block after ∧
      turn.outcome? = some (block.turn turn.seen.blocks before.length turn.provider).1 ∧
      (block.kind = .input → turn.left.blocks = before ++ block.settle :: after) ∧
      (block.kind = .generate → ∃ run result, turn.outcome? = some (run.outcome result) ∧
        turn.left = turn.met.finish run result) := by
  cases h with
  | skipped ha =>
    rw [finds_of_absent ha] at ht
    cases ht
  | input hf hk hbegun =>
    refine ⟨_, _, _, hf, rfl, fun _ => by rw [hbegun], fun hg => ?_⟩
    rw [hk] at hg
    cases hg
  | generate hf hk _ houtcome =>
    refine ⟨_, _, _, hf, congrArg some houtcome, fun hi => ?_, fun _ => ⟨_, _, rfl, rfl⟩⟩
    rw [hk] at hi
    cases hi

/-- The end of a run leaves the list as it is, if the block was removed meanwhile. -/
theorem left_of_absent (h : turn.Taken) (ha : ∀ block ∈ turn.met.blocks, block.id ≠ turn.id) :
    turn.left = turn.met := by
  cases h with
  | skipped | input => rfl
  | generate _ _ hid => exact Store.finish_of_absent (by rwa [hid]) _

/-- A turn writes to no block with another id. -/
theorem spares (h : turn.Taken) (spared : String → Bool) (hs : spared turn.id = false) :
    turn.begun.blocks.filter (spared ·.id) = turn.seen.blocks.filter (spared ·.id) ∧
      turn.left.blocks.filter (spared ·.id) = turn.met.blocks.filter (spared ·.id) := by
  cases h with
  | skipped => exact ⟨rfl, rfl⟩
  | input hf _ hbegun =>
    obtain rfl := hf.id_eq
    simp [hbegun, hf.split, Block.settle, hs]
  | @generate _ _ met _ _ _ _ run _ hf _ hid =>
    obtain rfl := hf.id_eq
    refine ⟨by simp [hf.split, Block.begin, hs], ?_⟩
    rcases Block.first_or_absent run.id met.blocks with ⟨before, block, after, hm⟩ | ha
    · have hsm : spared block.id = false := by rw [hm.id_eq, hid, hs]
      simp [Store.finish_of_first hm, hm.split, Block.finish, hsm]
    · rw [Store.finish_of_absent ha]

end Taken

end Turn

/-! ## Tours -/

namespace Store

variable (others : Nat → Store × π → Store × π) (ids : List String) (store : Store) (provider : π)

theorem ids_tour : (store.tour others ids provider).1.map Turn.id = ids := by
  induction ids generalizing store provider with
  | nil => rfl
  | cons id rest ih =>
    have hid : (store.turn (others rest.length) id provider).1.id = id := by
      unfold turn
      split <;> rfl
    simp [tour, hid, ih]

/-- Each turn finds the list as the turn before it leaves it. -/
theorem seen_tour :
    (store.tour others ids provider).1.map Turn.seen ++ [(store.tour others ids provider).2.1] =
      store :: (store.tour others ids provider).1.map Turn.left := by
  induction ids generalizing store provider with
  | nil => rfl
  | cons id rest ih =>
    have hseen : (store.turn (others rest.length) id provider).1.seen = store := by
      unfold turn
      split <;> rfl
    simp [tour, hseen, ih]

theorem taken_of_mem_tour : ∀ turn ∈ (store.tour others ids provider).1, turn.Taken := by
  induction ids generalizing store provider with
  | nil => exact fun _ ht => absurd ht List.not_mem_nil
  | cons id rest ih =>
    exact List.forall_mem_cons.2 ⟨taken_turn _ id store provider, ih _ _⟩

/-- What others do in turns that are over has no part in the turns to come. -/
theorem tour_congr {others others' : Nat → Store × π → Store × π}
    (h : ∀ left < ids.length, others left = others' left) :
    store.tour others ids provider = store.tour others' ids provider := by
  induction ids generalizing store provider with
  | nil => rfl
  | cons id rest ih =>
    have hrest := fun left hl => h left (Nat.lt_succ_of_lt hl)
    rw [tour, h rest.length (Nat.lt_succ_self _)]
    simp only [ih _ _ hrest]
    rfl

/-- If the others do nothing, nothing disturbs the executions. -/
theorem executeAll_eq_tour :
    store.executeAll ids provider =
      let toured := store.tour (fun _ => id) ids provider
      (toured.1.filterMap Turn.outcome?, toured.2) := by
  induction ids generalizing store provider with
  | nil => rfl
  | cons id rest ih =>
    rcases hs : store.start id provider with ⟨_ | outcome | ⟨run, ticket⟩, begun, after⟩ <;>
      simp [executeAll, execute, tour, turn, hs, ih]

end Store

/-! ## Schedules -/

/-- A schedule of events comes to an event, and finds things in a certain state. -/
inductive Rehearsal.ComesTo : Rehearsal → List Event → Event → Rehearsal → Prop
  | now {r : Rehearsal} {event : Event} {rest : List Event} : ComesTo r (event :: rest) event r
  | complete {r r' found : Rehearsal} {event later : Event} {rest : List Event} {reply : Reply} :
      event.activity.perform r = (.complete reply, r') → ComesTo r' rest later found →
      ComesTo r (event :: rest) later found
  | waiting {r r' found : Rehearsal} {event later : Event} {rest : List Event} {delay : Nat}
      {run : Run} {result : Block.Result} {job : Job} :
      event.activity.perform r = (.waiting delay run result job, r') →
      ComesTo r' (Event.plan ⟨event.due + delay, event.task, .resume run result job⟩ rest) later
        found →
      ComesTo r (event :: rest) later found

/-- What is reported of an execution is what a tour reports that begins with the list and the
    provider as the execution found them, and ends with the list as it is then. -/
def Reply.IsOfTour (reply : Reply) (target : Target) (first : Rehearsal) (last : Store) : Prop :=
  ∃ others,
    let toured := first.store.tour others (target.ids first.store) first.provider
    reply = target.reply (toured.1.filterMap Turn.outcome?) ∧ last = toured.2.1

/-- A job is on the tour that began with what it found at first. Whatever others go on to do, its
    outcomes so far and those of the blocks to come are those of a whole tour. -/
def Job.OnTour (job : Job) (first : Rehearsal) (store : Store) (provider : Scripted) : Prop :=
  ∀ others, ∃ others',
    let whole := first.store.tour others' (job.target.ids first.store) first.provider
    let rest := store.tour others job.ids provider
    whole.1.filterMap Turn.outcome? = job.outcomes ++ rest.1.filterMap Turn.outcome? ∧
      whole.2 = rest.2

/-- A job that was interrupted is on its tour, however the others go on. -/
def Job.OnTourAfter (job : Job) (first : Rehearsal) (run : Run) (result : Block.Result) : Prop :=
  ∀ met provider, Job.OnTour ⟨job.target, job.outcomes ++ [run.outcome result], job.ids⟩ first
    (Store.finish run result met) provider

/-- How far an execution has come on its tour. -/
def Progress.OnTour (target : Target) (first : Rehearsal) (last : Store) : Progress → Prop
  | .complete reply => reply.IsOfTour target first last
  | .waiting _ run result job => job.target = target ∧ job.OnTourAfter first run result

/-- An event that resumes a job goes on with the tour of its task, which began as that was
    started. -/
def Event.OnTour (Began : Event → Rehearsal → Prop) (event : Event) : Prop :=
  ∀ run result job, event.activity = .resume run result job → ∃ due first,
    Began ⟨due, event.task, .start (.execute job.target)⟩ first ∧ job.OnTourAfter first run result

/-- If a completion tells of an execution, it tells of the tour that began as its task was
    started. -/
def Completion.TellsOfTour (Began : Event → Rehearsal → Prop) (completion : Completion) : Prop :=
  ∃ due command first, Began ⟨due, completion.task, .start command⟩ first ∧
    ∀ target, command = .execute target →
      completion.reply.IsOfTour target first completion.store

namespace Job

theorem onTour_start (target : Target) (first : Rehearsal) :
    OnTour ⟨target, [], target.ids first.store⟩ first first.store first.provider :=
  fun others => ⟨others, rfl, rfl⟩

theorem OnTour.turn {target : Target} {first : Rehearsal} {outcomes : List Outcome} {id : String}
    {rest : List String} {store : Store} {provider : Scripted}
    (h : OnTour ⟨target, outcomes, id :: rest⟩ first store provider)
    (others : Store × Scripted → Store × Scripted) :
    let turned := store.turn others id provider
    OnTour ⟨target, outcomes ++ turned.1.outcome?.toList, rest⟩ first turned.1.left turned.2 := by
  intro turned next
  -- What the others do in this turn is put before what they do in the turns to come.
  obtain ⟨others', houtcomes, hlast⟩ := h (Function.update next rest.length others)
  have hrest (store : Store) (provider : Scripted) :
      store.tour (Function.update next rest.length others) rest provider =
        store.tour next rest provider :=
    Store.tour_congr _ _ _ fun left hl => Function.update_of_ne (Nat.ne_of_lt hl) _ _
  refine ⟨others', ?_, ?_⟩
  · rw [houtcomes]
    cases houtcome : turned.1.outcome? <;> simp [Store.tour, hrest, turned, houtcome]
  · rw [hlast]
    simp [Store.tour, hrest, turned]

/-- A job stays on its tour as far as it goes without interruption. -/
theorem OnTour.advance {target : Target} {first : Rehearsal} {ids : List String}
    {outcomes : List Outcome} {r r' : Rehearsal} {progress : Progress}
    (h : OnTour ⟨target, outcomes, ids⟩ first r.store r.provider)
    (ha : Job.advance target ids outcomes r = (progress, r')) :
    progress.OnTour target first r'.store := by
  induction ids generalizing outcomes r with
  | nil =>
    obtain ⟨rfl, rfl⟩ := Prod.mk.inj ha
    obtain ⟨others, houtcomes, hlast⟩ := h fun _ state => state
    refine ⟨others, ?_, (congrArg Prod.fst hlast).symm⟩
    rw [houtcomes]
    simp [Store.tour]
  | cons id rest ih =>
    rw [Job.advance] at ha
    split at ha
    next store provider hs =>
      refine ih ?_ ha
      simpa [Store.turn, hs] using h.turn fun state => state
    next outcome store provider hs =>
      refine ih ?_ ha
      simpa [Store.turn, hs] using h.turn fun state => state
    next run ticket store provider hs =>
      split at ha
      next delay hd =>
        obtain ⟨rfl, rfl⟩ := Prod.mk.inj ha
        refine ⟨rfl, fun met provider => ?_⟩
        simpa [Store.turn, hs] using h.turn fun _ => (met, provider)
      next hd =>
        refine ih ?_ ha
        simpa [Store.turn, hs] using h.turn fun state => state

end Job

namespace Rehearsal

variable {Began : Event → Rehearsal → Prop} {r r' : Rehearsal} {event : Event}

/-- What happens at an event is the beginning of a tour, or takes one further. Any other command
    than an execution is complete at once. -/
theorem onTour_of_perform {progress : Progress} (hbegan : Began event r)
    (h : event.OnTour Began) (hp : event.activity.perform r = (progress, r')) :
    ∃ due command first, Began ⟨due, event.task, .start command⟩ first ∧
      ((∃ target, command = .execute target ∧ progress.OnTour target first r'.store) ∨
        (∀ target, command ≠ .execute target) ∧ ∃ reply, progress = .complete reply) := by
  obtain ⟨due, task, activity⟩ := event
  cases activity with
  | start command =>
    refine ⟨due, command, r, hbegan, ?_⟩
    by_cases hx : ∃ target, command = .execute target
    · obtain ⟨target, rfl⟩ := hx
      exact .inl ⟨target, rfl, (Job.onTour_start target r).advance hp⟩
    · have hne : ∀ target, command ≠ .execute target := fun target heq => hx ⟨target, heq⟩
      rw [Activity.perform] at hp
      · obtain ⟨rfl, -⟩ := Prod.mk.inj hp
        exact .inr ⟨hne, _, rfl⟩
      · exact hne
  | resume run result job =>
    obtain ⟨due, first, hbegan, hjob⟩ := h run result job rfl
    exact ⟨due, _, first, hbegan, .inl ⟨job.target, rfl, (hjob r.store r.provider).advance hp⟩⟩

/-- Events that stay on their tours lead to completions that tell of tours. -/
theorem tellsOfTour_follow {events : List Event}
    (hbegan : ∀ event found, r.ComesTo events event found → Began event found)
    (h : ∀ event ∈ events, event.OnTour Began) :
    ∀ completion ∈ (r.follow events).1, completion.TellsOfTour Began := by
  induction r, events using Rehearsal.follow.induct with
  | case1 r =>
    rw [follow]
    exact fun _ hc => absurd hc List.not_mem_nil
  | case2 r event rest reply r₁ hp completions last hrest ih =>
    rw [List.forall_mem_cons] at h
    rw [follow_of_complete hp]
    refine List.forall_mem_cons.2 ⟨?_, ih (fun _ _ hc => hbegan _ _ (.complete hp hc)) h.2⟩
    rcases onTour_of_perform (hbegan _ _ .now) h.1 hp with
      ⟨due, command, first, hfirst, ⟨target, rfl, htold⟩ | ⟨hne, -⟩⟩
    · refine ⟨due, _, first, hfirst, fun other heq => ?_⟩
      obtain rfl := Command.execute.inj heq
      exact htold
    · exact ⟨due, command, first, hfirst, fun target heq => absurd heq (hne target)⟩
  | case3 r event rest delay run result job r₁ hp _ ih =>
    rw [List.forall_mem_cons] at h
    rw [follow_of_waiting hp]
    refine ih (fun _ _ hc => hbegan _ _ (.waiting hp hc)) fun other ho => ?_
    rcases List.mem_cons.1 ((Event.plan_perm _ rest).mem_iff.1 ho) with rfl | ho
    · rintro _ _ _ ⟨⟩
      rcases onTour_of_perform (hbegan _ _ .now) h.1 hp with
        ⟨due, command, first, hfirst, ⟨target, rfl, rfl, hjob⟩ | ⟨-, reply, heq⟩⟩
      · exact ⟨due, first, hfirst, hjob⟩
      · cases heq
    · exact h.2 other ho

/-- An event that a schedule comes to and that starts a command was there from the beginning. -/
theorem ComesTo.mem_of_start {events : List Event} {found : Rehearsal} {command : Command}
    (h : r.ComesTo events event found) (hstart : event.activity = .start command) :
    event ∈ events := by
  induction h with
  | now => exact List.mem_cons_self
  | complete _ _ ih => exact List.mem_cons_of_mem _ (ih hstart)
  | waiting _ _ ih =>
    rcases List.mem_cons.1 ((Event.plan_perm _ _).mem_iff.1 (ih hstart)) with rfl | hmem
    · cases hstart
    · exact List.mem_cons_of_mem _ hmem

/-- What an execution reports in a schedule is what a tour reports. The tour begins with the list
    and the provider as the schedule found them when it came to the start of the task, and ends
    with the list as it is when the task is complete. -/
theorem isOfTour_overlap (r : Rehearsal) (tasks : List (Nat × Command)) :
    ∀ completion ∈ (r.overlap tasks).1, ∃ due command first,
      tasks[completion.task]? = some (due, command) ∧
      r.ComesTo (Event.ofTasks tasks) ⟨due, completion.task, .start command⟩ first ∧
      ∀ target, command = .execute target →
        completion.reply.IsOfTour target first completion.store := by
  -- No job has begun that an event could resume.
  have hnone : ∀ event ∈ Event.ofTasks tasks, event.OnTour (r.ComesTo (Event.ofTasks tasks)) := by
    intro event he
    obtain ⟨due, command, -, heq⟩ := Event.exists_of_mem_ofTasks he
    rw [heq]
    rintro _ _ _ ⟨⟩
  intro completion hc
  obtain ⟨due, command, first, hcomes, htold⟩ :=
    tellsOfTour_follow (fun _ _ h => h) hnone completion hc
  obtain ⟨due', command', ht, heq⟩ := Event.exists_of_mem_ofTasks (hcomes.mem_of_start rfl)
  obtain ⟨rfl, ⟨⟩⟩ := by simpa only [Event.mk.injEq, true_and] using heq
  exact ⟨due, command, first, ht, hcomes, htold⟩

end Rehearsal

/-! ## What a tour executes -/

/-- The outcomes of turns are of the ids for which there is a block when their turn comes. -/
theorem Turn.ids_filterMap_outcome? {turns : List (Turn π)} (h : ∀ turn ∈ turns, turn.Taken) :
    (turns.filterMap Turn.outcome?).map Outcome.id = (turns.filter Turn.finds).map Turn.id := by
  rw [List.map_filterMap, ← List.filterMap_eq_map, List.filterMap_filter]
  exact List.filterMap_congr fun turn ht => (h turn ht).id_outcome?

/-- The execution of all blocks, whatever others do to the list and to the provider while it
    waits. -/
theorem Store.tour_amid_others (others : Nat → Store × π → Store × π) (store : Store)
    (provider : π) :
    let ids := store.blocks.map Block.id
    let toured := store.tour others ids provider
    let turns := toured.1
    let outcomes := turns.filterMap Turn.outcome?
    -- If the others leave all as it is, the tour is the execution that nothing disturbs.
    ((∀ left state, others left state = state) →
      store.executeFlow provider = (outcomes, toured.2)) ∧
    -- Each id of the list has its turn, in order, which finds what the turn before it leaves.
    turns.map Turn.id = ids ∧
    turns.map Turn.seen ++ [toured.2.1] = store :: turns.map Turn.left ∧
    -- Just the ids for which there is a block when their turn comes are reported.
    outcomes.map Outcome.id = (turns.filter Turn.finds).map Turn.id ∧
    ∀ turn ∈ turns,
      (turn.finds = false → turn.outcome? = none ∧ turn.left = turn.seen) ∧
      -- The first block with the id is executed as it is in the list when its turn comes. There
      -- is an outcome of it, whatever becomes of the block meanwhile.
      (turn.finds = true → ∃ before block after outcome,
        Block.First turn.id turn.seen.blocks before block after ∧
        turn.outcome? = some outcome ∧ outcome.index = before.length ∧
        (block.kind = .input →
          outcome.prompt? = none ∧ outcome.result? = block.settings.input?.map .text ∧
          turn.left.blocks = before ++ block.settle :: after) ∧
        (block.kind = .generate →
          let prompt :=
            (Template.resolve (block.settings.prompt?.getD "") turn.seen.blocks before.length).text
          let ticket := ((Request.ofSettings prompt block.settings).send turn.provider).1
          outcome.prompt? = some prompt ∧ outcome.result? = some (.ofAnswer ticket.answer) ∧
          ∃ run result, outcome = run.outcome result ∧ turn.left = turn.met.finish run result)) ∧
      -- If the block is removed while its run waits, the list stays as the others leave it.
      ((∀ block ∈ turn.met.blocks, block.id ≠ turn.id) → turn.left = turn.met) ∧
      -- The execution writes to no block whose id was not in the list when it started.
      turn.begun.blocks.filter (·.id ∉ ids) = turn.seen.blocks.filter (·.id ∉ ids) ∧
      turn.left.blocks.filter (·.id ∉ ids) = turn.met.blocks.filter (·.id ∉ ids) := by
  intro ids toured turns outcomes
  have htaken : ∀ turn ∈ turns, turn.Taken := taken_of_mem_tour others ids store provider
  have hids : turns.map Turn.id = ids := ids_tour others ids store provider
  refine ⟨fun hidle => ?_, hids, seen_tour others ids store provider,
    Turn.ids_filterMap_outcome? htaken, fun turn ht => ?_⟩
  · obtain rfl : others = fun _ => id := funext fun left => funext (hidle left)
    exact executeAll_eq_tour ids store provider
  have h := htaken turn ht
  refine ⟨h.of_not_finds, fun hfinds => ?_, h.left_of_absent, ?_⟩
  · obtain ⟨before, block, after, hf, houtcome, hinput, hgenerate⟩ := h.of_finds hfinds
    refine ⟨before, block, after, _, hf, houtcome, Block.turn_index .., fun hk => ?_, fun hk => ?_⟩
    · refine ⟨?_, ?_, hinput hk⟩ <;> rw [Block.turn_of_input hk]
    · obtain ⟨run, result, hrun, hleft⟩ := hgenerate hk
      refine ⟨?_, ?_, run, result, Option.some.inj (houtcome.symm.trans hrun), hleft⟩ <;>
        rw [Block.turn_of_generate hk]
  · have hmem : turn.id ∈ ids := hids ▸ List.mem_map_of_mem ht
    exact h.spares (· ∉ ids) (by simpa using hmem)

/-- While the first block waits, others remove it, give the last block another prompt and add a
    block. The first block is reported all the same, the others in the places that they have then,
    and the new one not at all. -/
theorem Store.tour_amid_others_removed :
    let store := ofBlocks [.generate "a" "A" "go", .input "b" "B" "hi", .generate "c" "C" "Sing"]
    let meddle (store : Store) : Store :=
      (((store.remove? "a").bind fun store => store.configure? "c"
        { Block.Patch.empty with prompt? := some "Say @[B](b)" }).getD store).push
          (.generate "d" "D" "go")
    let others (left : Nat) (state : Store × Scripted) : Store × Scripted :=
      if left = 2 then (meddle state.1, state.2) else state
    let toured := store.tour others (store.blocks.map Block.id) Scripted.echo
    toured.1.map Turn.id = ["a", "b", "c"] ∧
      ((toured.1.filterMap Turn.outcome?).map fun outcome =>
        (outcome.id, outcome.index, outcome.prompt?)) =
          [("a", 0, some "go"), ("b", 0, none), ("c", 1, some "Say hi")] ∧
      toured.2.1.blocks.map (fun block => (block.id, block.result?.isSome)) =
        [("b", true), ("c", true), ("d", false)] := by
  intro store meddle others toured
  obtain ⟨-, hids, -⟩ := tour_amid_others others store Scripted.echo
  exact ⟨hids, by decide +kernel, by decide +kernel⟩

end PromptChain
