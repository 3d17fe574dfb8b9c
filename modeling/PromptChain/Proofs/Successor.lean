import PromptChain.Proofs.Accounting

/-!
# Runs that outlive their block

A run knows its block by the id alone. Once the block is removed, nothing keeps the id for
the run that still waits: a new block may get it, and count runs of its own from one. When
the old run ends, it finishes on the new block (`Store.finish`), takes one from the runs
that wait there, and stores its result if its number happens to be the count of the new
block. When none of this shows can be said exactly (`Reachable.finish_orphan_iff`), and as
long as it does not, each block keeps account of its own runs (`Spared.accounts`).
-/

namespace PromptChain

/-- A run that finishes on a block leaves no trace just if the block counts no run that
    waits, and takes the run for another than its latest or has its result already. -/
theorem Block.finish_eq_self_iff {block : Block} (h : block.executing = decide (0 < block.inFlight))
    (number : Nat) (result : Result) :
    block.finish number result = block ↔
      block.inFlight = 0 ∧ (number = block.run → block.result? = some result) := by
  constructor
  · intro heq
    have hcount : block.inFlight - 1 = block.inFlight := congrArg Block.inFlight heq
    have hresult : (if block.run = number then some result else block.result?) = block.result? :=
      congrArg Block.result? heq
    refine ⟨by omega, fun hrun => ?_⟩
    rw [if_pos hrun.symm] at hresult
    exact hresult.symm
  · rintro ⟨hzero, hresult⟩
    have hstored : (if block.run = number then some result else block.result?) = block.result? := by
      split
      next hrun => exact (hresult hrun.symm).symm
      next => rfl
    rw [Block.finish, hstored, hzero]
    cases block
    simp_all

namespace Overlap

variable {store : Store} {o : Overlap}

/-- Whatever ids are used again, the blocks agree with their own counters. -/
theorem Reachable.counts (hs : store.IsFresh) (ho : Reachable Absent store o) :
    Every Block.Counts o :=
  ho.every Block.kept_counts (fun _ _ h => h) (fun _ number result _ h => h.finish number result) hs

/-- The states that come up while the list stays as it is whenever an orphan ends. -/
inductive Spared (store : Store) : Overlap → Prop
  | start : Spared store (start store)
  | step {o o' : Overlap} {outcome? : Option Outcome} :
      Spared store o → Step Absent o outcome? o' →
      (o'.orphans.length < o.orphans.length → o'.store.blocks = o.store.blocks) → Spared store o'

/-- As long as no orphan touches the list, each block keeps account of its own runs. -/
theorem Spared.accounts (hs : store.IsFresh) (ho : Spared store o) : Every Block.Accounts o := by
  induction ho with
  | start => exact .start Block.kept_accounts hs
  | step _ hstep hspare ih =>
    refine ih.step Block.kept_accounts (fun _ h => h) hstep fun before run after result hr heq => ?_
    have hsame := hspare (by simp [heq, hr])
    subst heq
    exact ih.perm (.of_eq hsame) _

/-- The end of an orphan leaves the list alone just if the block that now has its id counts
    no run that waits, and not as many runs began there as the number of the orphan says, or
    the block has its result already. -/
theorem Reachable.finish_orphan_iff (hs : store.IsFresh) (ho : Reachable Absent store o) {run : Run}
    {block : Block} (hb : block ∈ o.store.blocks) (hid : block.id = run.id)
    (result : Block.Result) :
    (o.store.finish run result).blocks = o.store.blocks ↔
      block.inFlight = 0 ∧
        (run.number = (o.recordsOf run.id).length → block.result? = some result) := by
  have hevery := ho.counts hs
  obtain ⟨before, after, hf⟩ := Block.exists_first_of_mem hevery.distinct hb
  rw [hid] at hf
  have hcounts := hevery.of_first hf
  rw [Store.finish_of_first hf, ← hcounts.run_eq, ← Block.finish_eq_self_iff hcounts.executing,
    hf.split, List.append_cancel_left_eq, List.cons_eq_cons]
  exact and_iff_left rfl

/-- When the end of an orphan spares the block that now has its id. As long as all do, the
    block shows its own runs, and the latest of these decides on its result. -/
theorem orphans_spare_iff (hs : store.IsFresh) :
    (∀ o, Reachable Absent store o → ∀ run ∈ o.orphans, ∀ block ∈ o.store.blocks,
      block.id = run.id → ∀ result,
        ((o.store.finish run result).blocks = o.store.blocks ↔
          block.inFlight = 0 ∧
            (run.number = (o.recordsOf run.id).length → block.result? = some result))) ∧
    (∀ o, Spared store o → ∀ block ∈ o.store.blocks,
      block.inFlight = (o.waitingOf block.id).length ∧
      (block.executing = true ↔ 0 < (o.waitingOf block.id).length) ∧
      ∀ record result, (o.recordsOf block.id).getLast? = some record →
        record.result? = some result → block.result? = some result) := by
  refine ⟨fun o ho run _ block hb hid result => ho.finish_orphan_iff hs hb hid result,
    fun o ho block hb => ?_⟩
  have h := (ho.accounts hs).holds block hb
  refine ⟨h.inFlight, ?_, h.latest⟩
  rw [h.executing, h.inFlight, decide_eq_true_eq]
  rfl

/-- A block is removed while a run of it waits, and another one gets its id. As long as it
    is not executed, the old run leaves it alone. -/
theorem orphans_spare_idle :
    (Store.ofBlocks [.generate "g" "G" "go"]).IsFresh ∧
      ∃ o run, Reachable Absent (.ofBlocks [.generate "g" "G" "go"]) o ∧ o.orphans = [run] ∧
        o.store.blocks = [.generate "g" "H" "on"] ∧
        (o.store.finish run (.text "old")).blocks = o.store.blocks := by
  have hs := Store.isFresh_singleton _ (Block.isFresh_generate "g" "G" "go")
  let provider : Failing := ⟨.missingPrompt⟩
  have h₀ : Reachable Absent (.ofBlocks [.generate "g" "G" "go"]) _ := .start
  have h₁ := h₀.step (.start (Store.start_of_generate provider (Block.first_singleton _) rfl))
  have h₂ := h₁.step (.remove (Store.remove?_of_first (Block.first_singleton _)))
  have hfresh := Block.isFresh_generate "g" "H" "on"
  have ho := h₂.step (.push hfresh fun _ hb => absurd hb List.not_mem_nil)
  refine ⟨hs, _, _, ho, rfl, rfl, ?_⟩
  refine ((orphans_spare_iff hs).1 _ ho _ List.mem_cons_self _ List.mem_cons_self rfl _).2 ?_
  exact ⟨rfl, fun h => by cases h⟩

/-- A block is removed while a run of it waits, and another one gets its id and is executed.
    When the old run ends, the new block holds the result of a run that it never saw, and
    does not show that a run of its own waits. -/
theorem orphan_disturbs_successor :
    ∃ o run, Reachable Absent (.ofBlocks [.generate "g" "G" "go"]) o ∧ o.orphans = [run] ∧
      (o.waitingOf "g").length = 1 ∧
      o.store.blocks.map (fun block => (block.id, block.executing)) = [("g", true)] ∧
      o.store.blocks.map Block.result? = [none] ∧
      (o.store.finish run (.text "old")).blocks.map (fun block => (block.id, block.executing)) =
        [("g", false)] ∧
      (o.store.finish run (.text "old")).blocks.map Block.result? = [some (.text "old")] := by
  let provider : Failing := ⟨.missingPrompt⟩
  have h₀ : Reachable Absent (.ofBlocks [.generate "g" "G" "go"]) _ := .start
  have h₁ := h₀.step (.start (Store.start_of_generate provider (Block.first_singleton _) rfl))
  have h₂ := h₁.step (.remove (Store.remove?_of_first (Block.first_singleton _)))
  have hfresh := Block.isFresh_generate "g" "G" "go"
  have h₃ := h₂.step (.push hfresh fun _ hb => absurd hb List.not_mem_nil)
  have ho := h₃.step (.start (Store.start_of_generate provider (Block.first_singleton _) rfl))
  exact ⟨_, _, ho, rfl, rfl, rfl, rfl, rfl, rfl⟩

end Overlap

end PromptChain
