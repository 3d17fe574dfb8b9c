import PromptChain.Proofs.Overlap

/-!
# Blocks keep account of their runs

A block counts the runs that wait (`Block.inFlight`) and the runs that ever began
(`Block.run`), shows whether any waits (`Block.executing`), and holds the result of the
latest run, once that is complete. The numbers of the runs count from one, so a run is the
latest just if its number is the count of the block (`Counts.run_eq_number_iff`).

* `Counts`: what holds even if a run that has lost its block finishes on another one;
* `Accounts`: what holds if that does not happen, so in every state that comes up while no
  id of a run that waits is used again;
* `Overlap.Reachable.counters_le`: how far the counters of a block get. They are natural numbers
  here, which stand for words of 32 and 64 bits that are assumed not to overflow.
-/

namespace PromptChain

/-- A block agrees with its own counters, and has counted the runs that began. -/
structure Block.Counts (block : Block) (records : List Record) : Prop where
  executing : block.executing = decide (0 < block.inFlight)
  numbers : records.map (·.run.number) = List.range' 1 block.run
  input : block.kind = .input → records = []

/-- A block keeps account of its runs. -/
structure Block.Accounts (block : Block) (records : List Record) : Prop
    extends block.Counts records where
  inFlight : block.inFlight = (records.filter Record.waits).length
  latest : ∀ record result, records.getLast? = some record → record.result? = some result →
    block.result? = some result

namespace Block

variable {block block' : Block} {records before after : List Record} {run : Run}
  {result : Result}

namespace Counts

theorem run_eq (h : block.Counts records) : block.run = records.length := by
  have := congrArg List.length h.numbers
  simpa using this.symm

/-- The runs are numbered in the order in which they began. -/
theorem number_eq {record : Record} (h : block.Counts (before ++ record :: after)) :
    record.run.number = before.length + 1 := by
  have hget := congrArg (·[before.length]?) h.numbers
  have hlt : before.length < block.run := by simp [h.run_eq]
  simpa [List.getElem?_range' hlt, Nat.add_comm] using hget

/-- A run is the latest just if its number is the count of the block. -/
theorem run_eq_number_iff {record : Record} (h : block.Counts (before ++ record :: after)) :
    block.run = record.run.number ↔ after = [] := by
  rw [h.run_eq, h.number_eq, List.length_append, List.length_cons, ← List.length_eq_zero_iff]
  omega

theorem fresh (h : block.IsFresh) : block.Counts [] where
  executing := by simp [h.executing, h.inFlight]
  numbers := by simp [h.run]
  input _ := rfl

theorem alike (ha : block'.Alike block) (h : block.Counts records) : block'.Counts records where
  executing := by rw [ha.executing, ha.inFlight, h.executing]
  numbers := by rw [ha.run, h.numbers]
  input hk := h.input (ha.kind ▸ hk)

theorem begin (hk : block.kind = .generate) (hr : run.number = block.run + 1)
    (h : block.Counts records) : block.begin.Counts (records ++ [⟨run, none⟩]) where
  executing := by simp [Block.begin]
  numbers := by
    rw [List.map_append, h.numbers, Block.begin, List.range'_concat]
    simp [hr, Nat.add_comm]
  input hi := by
    rw [Block.begin, hk] at hi
    cases hi

/-- A run that finishes on the block need not be one of its own. -/
theorem finish (number : Nat) (result : Result) (h : block.Counts records) :
    (block.finish number result).Counts records where
  executing := rfl
  numbers := h.numbers
  input := h.input

theorem complete (h : block.Counts (before ++ ⟨run, none⟩ :: after)) (result : Result) :
    block.Counts (before ++ ⟨run, some result⟩ :: after) where
  executing := h.executing
  numbers := by simpa using h.numbers
  input hk := by
    have := h.input hk
    simp at this

end Counts

/-- What happens to a block keeps its counters in order. -/
theorem kept_counts : Overlap.Kept Counts where
  fresh := Counts.fresh
  alike := Counts.alike
  settle _ h := ⟨h.executing, h.numbers, h.input⟩
  begin := Counts.begin
  finish result h := (h.complete result).finish _ result

/-- What happens to a block keeps the account of its runs. -/
theorem kept_accounts : Overlap.Kept Accounts where
  fresh h := ⟨.fresh h, h.inFlight, fun _ _ h => by cases h⟩
  alike ha h := by
    refine ⟨h.toCounts.alike ha, ?_, fun record result hl hr => ?_⟩
    · rw [ha.inFlight, h.inFlight]
    · rw [ha.result, h.latest record result hl hr]
  settle hk h := by
    -- An input block has no runs at all.
    have hnil := h.input hk
    exact ⟨⟨h.executing, h.numbers, h.input⟩, h.inFlight, fun _ _ hl => by simp [hnil] at hl⟩
  begin hk hn h := by
    refine ⟨h.toCounts.begin hk hn, ?_, fun record result hl hr => ?_⟩
    · simp [Block.begin, h.inFlight, List.filter_cons, Record.waits]
    · -- The latest run is the one that begins, and it waits.
      rw [List.getLast?_concat, Option.some.injEq] at hl
      subst hl
      cases hr
  finish {block before after run} result h := by
    refine ⟨(h.toCounts.complete result).finish _ result, ?_, fun record latest hl hr => ?_⟩
    · simp [Block.finish, h.inFlight, List.filter_cons, Record.waits]
    · have hiff := h.run_eq_number_iff
      rcases after.eq_nil_or_concat' with rfl | ⟨middle, last, rfl⟩
      · -- The run is the latest one, and its result is stored.
        rw [List.getLast?_concat, Option.some.injEq] at hl
        subst hl
        cases hr
        simp [Block.finish, hiff]
      · -- A later run began, and it is the latest as before.
        have hlast := h.latest record latest
        rw [← List.cons_append, ← List.append_assoc, List.getLast?_concat] at hl hlast
        simpa [Block.finish, hiff] using hlast hl hr

end Block

namespace Overlap

variable {store : Store} {o : Overlap}

/-- While no id of a run that waits is used again, every block keeps account of its runs. -/
theorem Reachable.accounts (hs : store.IsFresh) (ho : Reachable Unused store o) :
    ∀ block ∈ o.store.blocks, block.Accounts (o.recordsOf block.id) :=
  (ho.every_of_unused Block.kept_accounts hs).holds

/-- When no run waits, no block is executing. -/
theorem Reachable.idle (hs : store.IsFresh) (ho : Reachable Unused store o) (hw : o.waiting = []) :
    ∀ block ∈ o.store.blocks, block.inFlight = 0 ∧ block.executing = false := by
  intro block hb
  have h := ho.accounts hs block hb
  have hnone : o.records.filter Record.waits = [] := by
    simpa using (List.append_eq_nil_iff.1 hw).1
  have hzero : block.inFlight = 0 := by
    rw [h.inFlight, List.length_eq_zero_iff, List.filter_eq_nil_iff]
    intro record hrec hwaits
    have hmem := List.mem_filter.2 ⟨List.mem_of_mem_filter hrec, hwaits⟩
    rw [hnone] at hmem
    exact List.not_mem_nil hmem
  exact ⟨hzero, by simp [h.executing, hzero]⟩

/-- No counter of a block runs ahead of the overlap as a whole. So a word of 32 bits is enough
    for the runs of a block that wait as long as fewer than 2³² runs wait in all, and one of 64
    bits for the number of its runs as long as the version fits one, too. -/
theorem Reachable.counters_le (hs : store.IsFresh) (ho : Reachable Unused store o) :
    ∀ block ∈ o.store.blocks,
      block.inFlight ≤ o.waiting.length ∧ store.version + block.run ≤ o.store.version := by
  intro block hb
  have h := ho.accounts hs block hb
  have hown : (o.recordsOf block.id).Sublist o.records := List.filter_sublist
  constructor
  · rw [h.inFlight, waiting, List.length_append, List.length_map]
    exact Nat.le_add_right_of_le (hown.filter _).length_le
  · rw [h.run_eq]
    exact Nat.le_trans (Nat.add_le_add_left hown.length_le _) ho.length_records_le

/-- While no id of a run that waits is used again, the accounts of the blocks are right. The
    counters stand for words of 32 bits (`Block.inFlight`) and of 64 bits (`Block.run`,
    `Store.version`) and are assumed not to overflow; the last part says how far they get. -/
theorem runs_accounted (hs : store.IsFresh) (ho : Reachable Unused store o) :
    -- A block counts the runs that wait, shows whether there is one, and has counted all
    -- that began. No run of an input block ever begins.
    (∀ block ∈ o.store.blocks,
      block.inFlight = (o.waitingOf block.id).length ∧
      (block.executing = true ↔ 0 < (o.waitingOf block.id).length) ∧
      block.run = (o.recordsOf block.id).length ∧
      (block.kind = .input → o.recordsOf block.id = [])) ∧
    -- A run that waits is counted by its block, which is in the list unless it was removed.
    (∀ run ∈ o.waiting, (∃ block ∈ o.store.blocks, block.id = run.id ∧ 0 < block.inFlight) ∨
      run ∈ o.orphans ∧ o.Absent run.id) ∧
    -- When no run waits, no block is executing.
    (o.waiting = [] → ∀ block ∈ o.store.blocks, block.inFlight = 0 ∧ block.executing = false) ∧
    -- A start gives up only where there is no block, and leaves no run behind that is counted.
    (∀ (id : String) {π : Type} [Provider π] (provider : π),
      ((o.store.start id provider).1 = .absent ↔ o.Absent id) ∧
      (o.Absent id → (o.store.start id provider).2.1 = o.store)) ∧
    -- A block counts no more runs than wait in all, and has begun no more than there were
    -- versions written. So its counters fit their words as long as these do.
    (∀ block ∈ o.store.blocks,
      block.inFlight ≤ o.waiting.length ∧ store.version + block.run ≤ o.store.version) := by
  have hacc := ho.accounts hs
  have hevery := ho.every_of_unused Block.kept_accounts hs
  refine ⟨fun block hb => ?_, fun run hr => ?_, ho.idle hs, fun id π _ provider => ?_,
    ho.counters_le hs⟩
  · have h := hacc block hb
    refine ⟨h.inFlight, ?_, h.run_eq, h.input⟩
    rw [h.executing, h.inFlight, decide_eq_true_eq]
    rfl
  · rcases List.mem_append.1 hr with hr | hr
    · obtain ⟨record, hrec, rfl⟩ := List.mem_map.1 hr
      obtain ⟨hrec, hwaits⟩ := List.mem_filter.1 hrec
      obtain ⟨block, hb, hid⟩ := hevery.owned record hrec
      refine .inl ⟨block, hb, hid, ?_⟩
      rw [(hacc block hb).inFlight]
      have hown : record ∈ o.recordsOf block.id := List.mem_filter.2 ⟨hrec, by simp [hid]⟩
      exact List.length_pos_of_mem (List.mem_filter.2 ⟨hown, hwaits⟩)
    · exact .inr ⟨hr, ho.apart hs run hr⟩
  · rcases hstart : o.store.start id provider with ⟨start, store', provider'⟩
    obtain ⟨ha, rfl, rfl⟩ |
      ⟨before, block, after, hf, ⟨-, rfl, rfl⟩ | ⟨-, ⟨ticket, rfl⟩, rfl⟩⟩ :=
      Store.start_cases hstart
    · simp [show o.Absent id from ha]
    · simp [show ¬o.Absent id from fun ha => ha block hf.mem hf.id_eq]
    · simp [show ¬o.Absent id from fun ha => ha block hf.mem hf.id_eq]

/-- Two runs of a block overlap, and the first one is complete: the other still waits. -/
theorem runs_accounted_overlapping :
    (Store.ofBlocks [.generate "g" "G" "go"]).IsFresh ∧
      ∃ o, Reachable Unused (.ofBlocks [.generate "g" "G" "go"]) o ∧ (o.recordsOf "g").length = 2 ∧
        ∀ block ∈ o.store.blocks, block.inFlight = 1 ∧ block.executing = true := by
  have hs := Store.isFresh_singleton _ (Block.isFresh_generate "g" "G" "go")
  let provider : Failing := ⟨.missingPrompt⟩
  have h₀ : Reachable Unused (.ofBlocks [.generate "g" "G" "go"]) _ := .start
  have h₁ := h₀.step (.start (Store.start_of_generate provider (Block.first_singleton _) rfl))
  have h₂ := h₁.step (.start (Store.start_of_generate provider (Block.first_singleton _) rfl))
  have ho := h₂.step (.complete (.error .missingPrompt) rfl)
  refine ⟨hs, _, ho, rfl, fun block hb => ?_⟩
  obtain rfl := List.mem_singleton.1 (show block ∈ [_] from hb)
  obtain ⟨hcount, hshow, -⟩ := (runs_accounted hs ho).1 _ hb
  exact ⟨hcount, hshow.2 Nat.one_pos⟩

end Overlap

end PromptChain
