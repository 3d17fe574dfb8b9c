import Mathlib.Data.List.Nodup
import Mathlib.Logic.Function.Basic
import PromptChain.Flow.Store

/-!
# Writers that contend

Several writers change one store, and none waits for another. A writer *looks* at the
current version, *makes* a list from the one it saw, and tries to *swap* it in
(`Store.swap?`). If another version came in between, it looks at that one and goes on
from there; it is done when its list is in place, or when it has nothing to change.

A *schedule* says whose turn it is, step after step. Any number of steps of other
writers may stand between two steps of a writer, in particular between its look and
its swap. Beside the store, a `Contention` keeps the *commits*: who put which version in
place, in order.

* `Linear`: what holds under every schedule. Most of it ties the versions to the
  commits: the version that a writer saw is the one that a certain number of commits
  led to, and comparing version numbers compares these numbers. So a swap succeeds just
  if nobody committed since the look (`Linear.swap_iff`).
* `replay`: what the writers achieve one after the other and undisturbed
  (`Store.write?`). They achieve the same under every schedule, in the order of their
  commits.
* `patience`: how many steps a writer has before it at most, while nobody else commits. So a
  writer is done after four steps, or another one has got on meanwhile (`Linear.progress`).
-/

namespace PromptChain

/-- A writer: what it makes of a list, after other lists that it was given in vain, the
    latest first. -/
abbrev Writer := List (List Block) → Store.Transform

/-- A look of a writer at the store. -/
structure Look where
  /-- The version that was current. -/
  seen : Store
  /-- The number of commits up to then. -/
  since : Nat
  /-- The lists that the writer was given in vain before, the latest first. -/
  vain : List (List Block)

/-- How far a writer has come. -/
inductive Stage where
  /-- It has not begun. -/
  | ready
  /-- It has looked, and makes a list next. -/
  | looked (look : Look)
  /-- It has made a list, and tries to swap it in next. -/
  | made (look : Look) (blocks : List Block)
  /-- It is done: it had nothing to change. -/
  | declined (look : Look)
  /-- It is done: it put a version in place. -/
  | committed (written : Store)

/-- A writer at this stage has nothing left to do. -/
def Stage.IsDone : Stage → Prop
  | .declined _ | .committed _ => True
  | .ready | .looked _ | .made .. => False

/-- How many steps a writer at this stage has before it at most, while nobody commits but that
    writer. A look that is out of date costs two steps more: the writer has to fail, and to look
    again. -/
def Stage.patience (commits : Nat) : Stage → Nat
  | .ready => 3
  | .looked look => if look.since = commits then 2 else 4
  | .made look _ => if look.since = commits then 1 else 3
  | .declined _ | .committed _ => 0

theorem Stage.patience_le (stage : Stage) (commits : Nat) : stage.patience commits ≤ 4 := by
  cases stage <;> simp only [patience] <;> (try split) <;> decide

theorem Stage.isDone_of_patience {stage : Stage} {commits : Nat}
    (h : stage.patience commits = 0) : stage.IsDone := by
  cases stage with
  | ready => cases h
  | looked look =>
    rw [patience] at h
    split at h <;> cases h
  | made look blocks =>
    rw [patience] at h
    split at h <;> cases h
  | declined look => trivial
  | committed written => trivial

/-- A version that was put in place. -/
structure Commit (ι : Type) where
  writer : ι
  /-- The lists that the writer was given in vain before. -/
  vain : List (List Block)
  written : Store

/-- A store among its writers. -/
structure Contention (ι : Type) where
  store : Store
  stage : ι → Stage
  /-- The commits so far, in order. -/
  commits : List (Commit ι)

/-- A swap that succeeds is a write to the current version. -/
theorem Store.write?_of_swap? {transform : Transform} {seen current written : Store}
    {blocks : List Block} (hm : transform seen.blocks = some blocks)
    (hs : seen.swap? blocks current = some written)
    (hseen : current.version = seen.version → current = seen) :
    current.write? transform = some written := by
  rw [swap?] at hs
  split at hs
  next heq =>
    rw [hseen heq, write?, hm]
    exact hs
  next => cases hs

namespace Contention

variable {ι : Type}

/-! ## Steps -/

/-- Before any writer has begun. -/
def start (ι : Type) (store : Store) : Contention ι := ⟨store, fun _ => .ready, []⟩

/-- A look at the current version. -/
def look (c : Contention ι) (vain : List (List Block)) : Look := ⟨c.store, c.commits.length, vain⟩

section

variable [DecidableEq ι]

/-- A writer comes to a stage. -/
def enter (c : Contention ι) (i : ι) (stage : Stage) : Contention ι :=
  { c with stage := Function.update c.stage i stage }

/-- A writer puts a version in place. -/
def commit (c : Contention ι) (i : ι) (vain : List (List Block)) (written : Store) :
    Contention ι where
  store := written
  stage := Function.update c.stage i (.committed written)
  commits := c.commits ++ [⟨i, vain, written⟩]

/-- A step of a writer. -/
def step (writers : ι → Writer) (c : Contention ι) (i : ι) : Contention ι :=
  match c.stage i with
  | .ready => c.enter i (.looked (c.look []))
  | .looked look =>
    match writers i look.vain look.seen.blocks with
    | none => c.enter i (.declined look)
    | some blocks => c.enter i (.made look blocks)
  | .made look blocks =>
    match look.seen.swap? blocks c.store with
    | none => c.enter i (.looked (c.look (look.seen.blocks :: look.vain)))
    | some written => c.commit i look.vain written
  | .declined _ | .committed _ => c

/-- The steps of a schedule, from a store on. -/
def run (writers : ι → Writer) (store : Store) (schedule : List ι) : Contention ι :=
  schedule.foldl (step writers) (start ι store)

end

/-! ## What holds under every schedule -/

/-- The version that some commits lead to. -/
def latest (initial : Store) (commits : List (Commit ι)) : Store :=
  (commits.getLast?.map Commit.written).getD initial

/-- What the writers of some commits make of a store, one after the other and
    undisturbed. -/
def replay (writers : ι → Writer) (commits : List (Commit ι)) (store : Store) : Option Store :=
  commits.foldlM (fun current commit => current.write? (writers commit.writer commit.vain)) store

/-- A look was at the version that the commits before it led to. A writer has been given
    no more lists in vain than there were commits. -/
structure Saw (initial : Store) (commits : List (Commit ι)) (look : Look) : Prop where
  since_le : look.since ≤ commits.length
  seen : look.seen = latest initial (commits.take look.since)
  version : look.seen.version = initial.version + look.since
  vain : look.vain.length ≤ look.since

/-- A writer is at a stage for the right reason. -/
def Reached (writers : ι → Writer) (initial : Store) (commits : List (Commit ι)) (i : ι) :
    Stage → Prop
  | .ready => True
  | .looked look => Saw initial commits look
  | .made look blocks =>
    Saw initial commits look ∧ writers i look.vain look.seen.blocks = some blocks
  | .declined look => Saw initial commits look ∧ writers i look.vain look.seen.blocks = none
  | .committed written => ∃ commit ∈ commits, commit.writer = i ∧ commit.written = written

/-- What holds under every schedule. -/
structure Linear (writers : ι → Writer) (initial : Store) (c : Contention ι) : Prop where
  /-- Each commit is a write to the version before it. -/
  write : ∀ before commit after, c.commits = before ++ commit :: after →
    (latest initial before).write? (writers commit.writer commit.vain) = some commit.written
  replayed : replay writers c.commits initial = some c.store
  latest : latest initial c.commits = c.store
  version : c.store.version = initial.version + c.commits.length
  reached : ∀ i, Reached writers initial c.commits i (c.stage i)
  /-- A writer that committed is done. -/
  reported : ∀ commit ∈ c.commits, c.stage commit.writer = .committed commit.written
  once : (c.commits.map Commit.writer).Nodup

variable {writers : ι → Writer} {initial : Store} {c : Contention ι} {i : ι}

@[simp] theorem latest_append (commits : List (Commit ι)) (commit : Commit ι) :
    latest initial (commits ++ [commit]) = commit.written := by
  simp [latest]

/-- Later commits do not matter to a look. -/
theorem Saw.append {commits : List (Commit ι)} {look : Look} (h : Saw initial commits look)
    (commit : Commit ι) : Saw initial (commits ++ [commit]) look where
  since_le := by
    rw [List.length_append]
    exact Nat.le_add_right_of_le h.since_le
  seen := by
    rw [List.take_append_of_le_length h.since_le]
    exact h.seen
  version := h.version
  vain := h.vain

theorem Reached.append {commits : List (Commit ι)} {stage : Stage}
    (h : Reached writers initial commits i stage) (commit : Commit ι) :
    Reached writers initial (commits ++ [commit]) i stage := by
  cases stage with
  | ready => trivial
  | looked look => exact Saw.append h commit
  | made look blocks => exact ⟨h.1.append commit, h.2⟩
  | declined look => exact ⟨h.1.append commit, h.2⟩
  | committed written =>
    obtain ⟨d, hd, hi, hw⟩ := h
    exact ⟨d, List.mem_append_left _ hd, hi, hw⟩

namespace Linear

theorem start (store : Store) : Linear writers store (start ι store) where
  write before commit after h := by
    exact absurd h (by simp [Contention.start])
  replayed := rfl
  latest := rfl
  version := rfl
  reached _ := trivial
  reported _ h := absurd h List.not_mem_nil
  once := List.nodup_nil

/-- A look shows the version that all commits so far led to. -/
theorem saw (h : Linear writers initial c) {vain : List (List Block)}
    (hv : vain.length ≤ c.commits.length) : Saw initial c.commits (c.look vain) where
  since_le := Nat.le_refl _
  seen := by
    rw [look, List.take_length, h.latest]
  version := h.version
  vain := hv

/-- A swap succeeds just if nobody committed since the look. -/
theorem swap_iff (h : Linear writers initial c) {look : Look} (hl : Saw initial c.commits look)
    (blocks : List Block) :
    (look.seen.swap? blocks c.store).isSome ↔ c.commits.length = look.since := by
  simp only [Store.swap?, h.version, hl.version, Nat.add_left_cancel_iff]
  split <;> simp [*]

/-- A swap that succeeds is a write to the current version. -/
theorem write_of_swap (h : Linear writers initial c) {look : Look} {blocks : List Block}
    {written : Store} (hr : Reached writers initial c.commits i (.made look blocks))
    (hs : look.seen.swap? blocks c.store = some written) :
    c.store.write? (writers i look.vain) = some written := by
  refine Store.write?_of_swap? hr.2 hs fun _ => ?_
  -- Nobody committed since the look, so the version that was seen is the current one.
  have hlen : c.commits.length = look.since := (h.swap_iff hr.1 blocks).1 (by simp [hs])
  rw [hr.1.seen, ← hlen, List.take_length, h.latest]

/-- A writer that is not done has not committed. -/
theorem writer_ne (h : Linear writers initial c) (hi : ∀ written, c.stage i ≠ .committed written) :
    ∀ commit ∈ c.commits, commit.writer ≠ i := by
  rintro commit hc rfl
  exact hi _ (h.reported commit hc)

/-- A commit is the only one of its writer. -/
theorem alone (h : Linear writers initial c) {before after : List (Commit ι)}
    {commit : Commit ι} (hc : c.commits = before ++ commit :: after) :
    ∀ other ∈ before ++ after, other.writer ≠ commit.writer := by
  have honce := h.once
  rw [hc, List.map_append, List.map_cons, List.nodup_middle, List.nodup_cons, ← List.map_append,
    List.mem_map] at honce
  exact fun other ho heq => honce.1 ⟨other, ho, heq⟩

/-- A swap fails just if another writer committed since the look. -/
theorem swap_eq_none_iff (h : Linear writers initial c) {look : Look} {blocks : List Block}
    (hs : c.stage i = .made look blocks) :
    look.seen.swap? blocks c.store = none ↔
      ∃ commit ∈ c.commits.drop look.since, commit.writer ≠ i := by
  have hl : Saw initial c.commits look := by
    have hr := h.reached i
    rw [hs] at hr
    exact hr.1
  rw [← Option.not_isSome_iff_eq_none, h.swap_iff hl]
  constructor
  · intro hne
    have hdrop : c.commits.drop look.since ≠ [] := by
      rw [Ne, List.drop_eq_nil_iff]
      have := hl.since_le
      omega
    obtain ⟨commit, hc⟩ := List.exists_mem_of_ne_nil _ hdrop
    exact ⟨commit, hc, h.writer_ne (by simp [hs]) commit (List.mem_of_mem_drop hc)⟩
  · rintro ⟨commit, hc, -⟩ heq
    rw [← heq, List.drop_length] at hc
    exact List.not_mem_nil hc

section

variable [DecidableEq ι]

/-- A writer that has not committed may come to another stage. -/
theorem enter (h : Linear writers initial c) (hi : ∀ written, c.stage i ≠ .committed written)
    {stage : Stage} (hr : Reached writers initial c.commits i stage) :
    Linear writers initial (c.enter i stage) where
  write := h.write
  replayed := h.replayed
  latest := h.latest
  version := h.version
  reached j := by
    by_cases hj : j = i
    · subst hj
      simpa [Contention.enter] using hr
    · simpa [Contention.enter, hj] using h.reached j
  reported commit hc := by
    simpa [Contention.enter, h.writer_ne hi commit hc] using h.reported commit hc
  once := h.once

/-- A writer that has not committed may write to the current version. -/
theorem commit (h : Linear writers initial c) (hi : ∀ written, c.stage i ≠ .committed written)
    {vain : List (List Block)} {written : Store}
    (hw : c.store.write? (writers i vain) = some written) :
    Linear writers initial (c.commit i vain written) where
  write before commit after hc := by
    -- Either this is the new commit, or it stands among the old ones.
    rcases after.eq_nil_or_concat' with rfl | ⟨after, last, rfl⟩
    · obtain ⟨rfl, hcommit⟩ := List.append_inj' hc rfl
      obtain rfl : commit = ⟨i, vain, written⟩ := by simpa using hcommit.symm
      rw [h.latest]
      exact hw
    · rw [← List.cons_append, ← List.append_assoc] at hc
      exact h.write before commit after (List.append_inj' hc rfl).1
  replayed := by
    have hlast : c.store.write? (writers i vain) = some written := hw
    rw [Contention.commit, replay, List.foldlM_append]
    change ((replay writers c.commits initial).bind _) = _
    rw [h.replayed]
    simpa using hw
  latest := latest_append _ _
  version := by
    obtain ⟨blocks, -, rfl⟩ := Option.map_eq_some_iff.1 hw
    simp [Contention.commit, h.version, Nat.add_assoc]
  reached j := by
    by_cases hj : j = i
    · subst hj
      simp [Contention.commit, Reached]
    · simpa [Contention.commit, hj] using (h.reached j).append _
  reported commit hc := by
    rcases List.mem_append.1 hc with hc | hc
    · simpa [Contention.commit, h.writer_ne hi commit hc] using h.reported commit hc
    · obtain rfl := List.mem_singleton.1 hc
      simp [Contention.commit]
  once := by
    rw [Contention.commit, List.map_append, List.nodup_append]
    refine ⟨h.once, List.nodup_singleton _, ?_⟩
    simpa using h.writer_ne hi

/-- What a step of a writer keeps. -/
theorem step (h : Linear writers initial c) (i : ι) :
    Linear writers initial (c.step writers i) := by
  have hr := h.reached i
  unfold Contention.step
  split
  next hs => exact h.enter (by simp [hs]) (h.saw (Nat.zero_le _))
  next look hs =>
    rw [hs] at hr
    split
    next hd => exact h.enter (by simp [hs]) ⟨hr, hd⟩
    next blocks hm => exact h.enter (by simp [hs]) ⟨hr, hm⟩
  next look blocks hs =>
    rw [hs] at hr
    split
    next hn =>
      -- Each failure is due to a commit that came after the look.
      have hlt : look.since < c.commits.length := by
        refine Nat.lt_of_le_of_ne hr.1.since_le fun heq => ?_
        have := (h.swap_iff hr.1 blocks).2 heq.symm
        simp [hn] at this
      refine h.enter (by simp [hs]) (h.saw ?_)
      rw [List.length_cons]
      exact Nat.succ_le_of_lt (Nat.lt_of_le_of_lt hr.1.vain hlt)
    next written hw => exact h.commit (by simp [hs]) (h.write_of_swap hr hw)
  next => exact h
  next => exact h

/-- What a schedule keeps. -/
theorem run (store : Store) (schedule : List ι) :
    Linear writers store (run writers store schedule) := by
  suffices h : ∀ c, Linear writers store c →
      Linear writers store (schedule.foldl (Contention.step writers) c) from h _ (.start store)
  induction schedule with
  | nil => exact fun _ h => h
  | cons i rest ih => exact fun _ h => ih _ (h.step i)

end

end Linear

section

variable [DecidableEq ι]

/-- A step commits nothing, or once and for its writer. -/
theorem commits_step (writers : ι → Writer) (c : Contention ι) (i : ι) :
    (c.step writers i).commits = c.commits ∨
      ∃ commit, commit.writer = i ∧ (c.step writers i).commits = c.commits ++ [commit] := by
  unfold step
  split
  next => exact .inl rfl
  next => split <;> exact .inl rfl
  next =>
    split
    next => exact .inl rfl
    next => exact .inr ⟨_, rfl, rfl⟩
  next => exact .inl rfl
  next => exact .inl rfl

theorem commits_prefix_step (writers : ι → Writer) (c : Contention ι) (i : ι) :
    c.commits <+: (c.step writers i).commits := by
  rcases commits_step writers c i with hnone | ⟨commit, -, hone⟩
  · exact hnone ▸ List.prefix_rfl
  · exact hone ▸ List.prefix_append _ _

theorem commits_prefix_foldl (writers : ι → Writer) (c : Contention ι) (more : List ι) :
    c.commits <+: (more.foldl (step writers) c).commits := by
  induction more generalizing c with
  | nil => exact List.prefix_rfl
  | cons i rest ih => exact (commits_prefix_step writers c i).trans (ih _)

theorem run_append (writers : ι → Writer) (initial : Store) (schedule more : List ι) :
    run writers initial (schedule ++ more) =
      more.foldl (step writers) (run writers initial schedule) :=
  List.foldl_append

/-- Whatever comes later, the commits so far stay the first ones. -/
theorem commits_prefix_run (writers : ι → Writer) (initial : Store) (schedule more : List ι) :
    (run writers initial schedule).commits <+:
      (run writers initial (schedule ++ more)).commits := by
  rw [run_append]
  exact commits_prefix_foldl writers _ more

/-! ## Progress -/

/-- How many steps a writer has before it at most, while nobody else commits. -/
def patience (c : Contention ι) (i : ι) : Nat := (c.stage i).patience c.commits.length

@[simp] theorem patience_enter (c : Contention ι) (i : ι) (stage : Stage) :
    (c.enter i stage).patience i = stage.patience c.commits.length := by
  simp [patience, enter]

@[simp] theorem patience_commit (c : Contention ι) (i : ι) (vain : List (List Block))
    (written : Store) : (c.commit i vain written).patience i = 0 := by
  simp [patience, commit, Stage.patience]

theorem stage_step_of_ne (writers : ι → Writer) (c : Contention ι) {i j : ι} (hij : i ≠ j) :
    (c.step writers j).stage i = c.stage i := by
  unfold step
  split
  next => simp [enter, hij]
  next => split <;> simp [enter, hij]
  next => split <;> simp [enter, commit, hij]
  next => rfl
  next => rfl

/-- A step of another writer costs no patience, unless that one commits. -/
theorem patience_step_of_ne (writers : ι → Writer) (c : Contention ι) {i j : ι} (hij : i ≠ j)
    (hc : (c.step writers j).commits = c.commits) :
    (c.step writers j).patience i = c.patience i := by
  rw [patience, patience, stage_step_of_ne writers c hij, hc]

namespace Linear

/-- A writer gets on with each of its own steps. -/
theorem patience_step (h : Linear writers initial c) (i : ι) :
    (c.step writers i).patience i ≤ c.patience i - 1 := by
  have hr := h.reached i
  change _ ≤ (c.stage i).patience c.commits.length - 1
  unfold Contention.step
  split
  next hs => simp [hs, look, Stage.patience]
  next look hs =>
    rw [hs, Stage.patience]
    split <;> simp only [patience_enter, Stage.patience] <;> split <;> decide
  next look blocks hs =>
    rw [hs] at hr
    have hswap := h.swap_iff hr.1 blocks
    split
    next hn =>
      -- The swap failed because the look was out of date. The next one is not.
      have hne : look.since ≠ c.commits.length := fun heq => by simp [hn, heq] at hswap
      simp [hs, hne, Contention.look, Stage.patience]
    next => simp
  next hs => simp [patience, hs, Stage.patience]
  next hs => simp [patience, hs, Stage.patience]

/-- The steps of a writer use up its patience, unless another one commits between them. -/
theorem patience_foldl (h : Linear writers initial c) (i : ι) (more : List ι) :
    let c' := more.foldl (Contention.step writers) c
    c'.patience i ≤ c.patience i - more.count i ∨
      ∃ commit ∈ c'.commits.drop c.commits.length, commit.writer ∈ more ∧ commit.writer ≠ i := by
  induction more generalizing c with
  | nil => exact .inl (Nat.le_refl _)
  | cons j rest ih =>
    have hprefix := commits_prefix_foldl writers (c.step writers j) rest
    rw [List.foldl_cons]
    rcases ih (h.step j) with hle | ⟨commit, hc, hmem, hne⟩
    · by_cases hj : i = j
      · subst hj
        have hstep := h.patience_step i
        rw [List.count_cons_self]
        exact .inl (by omega)
      · rcases commits_step writers c j with hnone | ⟨commit, rfl, hone⟩
        · rw [patience_step_of_ne writers c hj hnone] at hle
          rw [List.count_cons_of_ne (Ne.symm hj)]
          exact .inl hle
        · obtain ⟨later, hlater⟩ := hprefix
          refine .inr ⟨commit, ?_, List.mem_cons_self, Ne.symm hj⟩
          simp [← hlater, hone]
    · refine .inr ⟨commit, ?_, List.mem_cons_of_mem _ hmem, hne⟩
      exact List.drop_subset_drop_left _ (commits_prefix_step writers c j).length_le hc

/-- A writer that takes four steps is done, or another one has committed meanwhile. -/
theorem progress (h : Linear writers initial c) {i : ι} {more : List ι} (hi : 4 ≤ more.count i) :
    let c' := more.foldl (Contention.step writers) c
    (c'.stage i).IsDone ∨
      ∃ commit ∈ c'.commits.drop c.commits.length, commit.writer ∈ more ∧ commit.writer ≠ i := by
  have hlimit : c.patience i ≤ 4 := Stage.patience_le _ _
  refine (h.patience_foldl i more).imp_left fun hle => ?_
  have hnone := Nat.eq_zero_of_le_zero (Nat.le_trans hle (by omega))
  exact Stage.isDone_of_patience hnone

end Linear

/-! ## Every schedule -/

/-- Under every schedule, the writers achieve what they would achieve one after the other
    and undisturbed, in the order of their commits. One of them always gets on. -/
theorem run_linearizable (writers : ι → Writer) (initial : Store) (schedule : List ι) :
    let c := run writers initial schedule
    -- A writer that reports a version committed just this one, and made it from the version
    -- that its commit replaced.
    (∀ i written, c.stage i = .committed written →
      ∃ before commit after, c.commits = before ++ commit :: after ∧
        commit.writer = i ∧ commit.written = written ∧
        (∀ other ∈ before ++ after, other.writer ≠ i) ∧
        writers i commit.vain (latest initial before).blocks = some written.blocks ∧
        written.version = (latest initial before).version + 1) ∧
    -- A writer that declined committed nothing. It declined what was current at its last look.
    (∀ i look, c.stage i = .declined look →
      (∀ commit ∈ c.commits, commit.writer ≠ i) ∧
      writers i look.vain (latest initial (c.commits.take look.since)).blocks = none) ∧
    -- The store is what the commits make of the initial one, and no commit is taken back.
    (replay writers c.commits initial = some c.store ∧
      c.store.version = initial.version + c.commits.length ∧
      ∀ more, c.commits <+: (run writers initial (schedule ++ more)).commits) ∧
    -- A swap fails just if another writer committed since the look, which has happened at
    -- least as often as the writer has failed before.
    (∀ i look blocks, c.stage i = .made look blocks →
      (look.seen.swap? blocks c.store = none ↔
        ∃ commit ∈ c.commits.drop look.since, commit.writer ≠ i) ∧
      look.vain.length ≤ look.since) ∧
    -- However far it has come, a writer that takes four more steps is done, or another one has
    -- committed between them.
    (∀ i more, 4 ≤ more.count i →
      let c' := run writers initial (schedule ++ more)
      (c'.stage i).IsDone ∨
        ∃ commit ∈ c'.commits.drop c.commits.length, commit.writer ∈ more ∧ commit.writer ≠ i) ∧
    -- So a writer whom nobody disturbs is done.
    (∀ i, ((run writers initial (schedule ++ List.replicate 4 i)).stage i).IsDone) := by
  intro c
  have h : Linear writers initial c := .run initial schedule
  have hprogress : ∀ i more, 4 ≤ more.count i →
      let c' := run writers initial (schedule ++ more)
      (c'.stage i).IsDone ∨
        ∃ commit ∈ c'.commits.drop c.commits.length, commit.writer ∈ more ∧ commit.writer ≠ i := by
    intro i more hi
    rw [run_append]
    exact h.progress hi
  refine ⟨fun i written hi => ?_, fun i look hi => ?_,
    ⟨h.replayed, h.version, commits_prefix_run writers initial schedule⟩,
    fun i look blocks hi => ?_, hprogress, fun i => ?_⟩
  · have hr := h.reached i
    rw [hi] at hr
    obtain ⟨commit, hc, hw, rfl⟩ := hr
    obtain ⟨before, after, hsplit⟩ := List.append_of_mem hc
    have hwrite := h.write before commit after hsplit
    obtain ⟨blocks, hmade, heq⟩ := Option.map_eq_some_iff.1 hwrite
    refine ⟨before, commit, after, hsplit, hw, rfl, ?_, ?_, ?_⟩
    · rw [← hw]
      exact h.alone hsplit
    · rw [← heq, ← hw]
      exact hmade
    · rw [← heq]
  · have hr := h.reached i
    rw [hi] at hr
    refine ⟨h.writer_ne (by simp [hi]), ?_⟩
    rw [← hr.1.seen]
    exact hr.2
  · have hr := h.reached i
    rw [hi] at hr
    exact ⟨h.swap_eq_none_iff hi, hr.1.vain⟩
  · refine (hprogress i _ (by simp)).resolve_right ?_
    rintro ⟨commit, -, hmem, hne⟩
    exact hne (List.eq_of_mem_replicate hmem)

/-- Two writers add a block each. The second one looks too early and has to look again. -/
example (a b : Block) :
    let writers (second : Bool) : Writer := fun _ blocks =>
      some (blocks ++ [if second then b else a])
    let c := run writers (.ofBlocks []) [false, true, false, true, false, true, true, true]
    c.commits.map Commit.writer = [false, true] ∧ c.store = ⟨2, [a, b]⟩ := ⟨rfl, rfl⟩

end

end Contention

end PromptChain
