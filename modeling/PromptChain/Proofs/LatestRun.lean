import PromptChain.Proofs.Accounting

/-!
# The latest run wins

Runs of one block may end in any order. The one that began last decides on the result of
the block: a run that ends after a later one has begun reports its result, and leaves no
trace of it in the list. Nor does a run whose block was removed.
-/

namespace PromptChain

namespace Overlap

variable {store : Store} {o : Overlap}

/-- What finishing a run does to a list that holds its block. The result is stored if no
    later run of the block began. -/
theorem Reachable.finish (hs : store.IsFresh) (ho : Reachable Unused store o)
    {before after : List Record} {run : Run} (hr : o.records = before ++ ⟨run, none⟩ :: after) :
    ∃ front block back, Block.First run.id o.store.blocks front block back ∧ ∀ result,
      (o.store.finish run result).blocks = front ++
        { block with
          inFlight := block.inFlight - 1
          executing := decide (1 < block.inFlight)
          result? := if after.any (·.run.id = run.id) then block.result? else some result } ::
        back := by
  have hevery := ho.every_of_unused Block.kept_accounts hs
  rcases Block.first_or_absent run.id o.store.blocks with ⟨front, block, back, hf⟩ | ha
  · refine ⟨front, block, back, hf, fun result => ?_⟩
    have hacc := hevery.of_first hf
    simp only [recordsOf, hr, List.filter_append, List.filter_cons, decide_true, if_true] at hacc
    -- The run has the number that the block has counted to, just if no later one began.
    have hlatest : block.run = run.number ↔ ¬after.any (·.run.id = run.id) = true := by
      rw [hacc.run_eq_number_iff, List.filter_eq_nil_iff]
      simp
    have hexec : (0 < block.inFlight - 1) = (1 < block.inFlight) := by
      rw [Nat.sub_pos_iff_lt]
    rw [Store.finish_of_first hf]
    by_cases hany : after.any (·.run.id = run.id) = true <;>
      simp [Block.finish, hlatest, hany, hexec]
  · obtain ⟨owner, hmem, hid⟩ := hevery.owned ⟨run, none⟩ (by simp [hr])
    exact absurd hid (ha owner hmem)

/-- The run of a block that began last decides on its result. -/
theorem latest_run_wins (hs : store.IsFresh) (ho : Reachable Unused store o) :
    -- A run ends whose block is in the list. Its result is stored if no later run of the
    -- block began; apart from this, all that changes is who waits.
    (∀ before run after, o.records = before ++ ⟨run, none⟩ :: after →
      ∃ front block back, Block.First run.id o.store.blocks front block back ∧ ∀ result,
        (o.store.finish run result).blocks = front ++
          { block with
            inFlight := block.inFlight - 1
            executing := decide (1 < block.inFlight)
            result? := if after.any (·.run.id = run.id) then block.result? else some result } ::
          back) ∧
    -- A run ends whose block was removed. Nothing changes.
    (∀ run ∈ o.orphans, ∀ result, o.store.finish run result = o.store) ∧
    -- Once the latest run of a block is complete, the block holds its result.
    (∀ block ∈ o.store.blocks, ∀ record result, (o.recordsOf block.id).getLast? = some record →
      record.result? = some result → block.result? = some result) ∧
    -- Every run that waits reports the result that it gets.
    (∀ run ∈ o.waiting, ∀ answer, ∃ o',
      Step Unused o (some ⟨run.id, run.index, some run.prompt, some (.ofAnswer answer)⟩) o') :=
  ⟨fun _ _ _ hr => ho.finish hs hr,
    fun run hr result => Store.finish_of_absent (ho.apart hs run hr) result,
    fun block hb => (ho.accounts hs block hb).latest,
    fun _ hr answer => (exists_step_of_waiting Unused hr answer).imp fun _ h => h.1⟩

/-- The second run of a block is complete before the first one, which comes too late. -/
theorem latest_run_wins_overlapping :
    (Store.ofBlocks [.generate "g" "G" "go"]).IsFresh ∧
      ∃ o, Reachable Unused (.ofBlocks [.generate "g" "G" "go"]) o ∧
        (o.recordsOf "g").map Record.result? =
          [some (.failed "Prompt is required"), some (.text "fast")] ∧
        ∀ block ∈ o.store.blocks, block.result? = some (.text "fast") := by
  have hs := Store.isFresh_singleton _ (Block.isFresh_generate "g" "G" "go")
  let provider : Failing := ⟨.missingPrompt⟩
  have h₀ : Reachable Unused (.ofBlocks [.generate "g" "G" "go"]) _ := .start
  have h₁ := h₀.step (.start (Store.start_of_generate provider (Block.first_singleton _) rfl))
  have h₂ := h₁.step (.start (Store.start_of_generate provider (Block.first_singleton _) rfl))
  have h₃ := h₂.step (.complete (.ok (.text "fast")) (show _ = [_] ++ _ :: [] from rfl))
  have ho := h₃.step (.complete (.error .missingPrompt) (show _ = [] ++ _ :: [_] from rfl))
  obtain ⟨-, -, hlatest, -⟩ := latest_run_wins hs ho
  refine ⟨hs, _, ho, rfl, fun block hb => ?_⟩
  obtain rfl := List.mem_singleton.1 (show block ∈ [_] from hb)
  exact hlatest _ hb _ _ rfl rfl

end Overlap

end PromptChain
