import PromptChain.Proofs.Overlap

/-!
# Edits of the user

The user adds blocks, moves them, and alters them: an *alteration* removes a block or changes
its name, its settings or whether it is expanded, and it goes to the first block with an id. An
edit does all this to a list in which ids may be repeated and in which runs may wait for their
answers.

What an edit makes of the list is said by a relation (`Edit.Makes`), and when there is nothing to
do, by a condition on the list (`Edit.IsVain`). Either way at most one block is taken out of the
list and at most one put in, and all the others stay as they are (`Exchanged`). If a block is put
in for one that is taken out, it has the same id, and what has to do with runs is the same, too:
so an edit never comes between a run and its block (`edits_spare_runs`).
-/

namespace PromptChain

/-! ## Alterations -/

/-- What the user does to a block. -/
inductive Block.Alteration where
  | remove
  | rename (name : String)
  | configure (patch : Block.Patch)
  | toggle

namespace Block.Alteration

/-- The block as it is afterwards, unless it is removed. -/
def altered? : Alteration → Block → Option Block
  | remove, _ => none
  | rename name, block => some { block with name }
  | configure patch, block => some { block with settings := block.settings.apply patch }
  | toggle, block => some { block with expanded := !block.expanded }

/-- An alteration leaves the id alone, the kind, and what has to do with runs. -/
theorem spares {alteration : Alteration} {block block' : Block}
    (h : alteration.altered? block = some block') : block'.id = block.id ∧ block'.Alike block := by
  cases alteration with
  | remove => cases h
  | rename | configure | toggle =>
    obtain rfl := Option.some.inj h
    exact ⟨rfl, rfl, rfl, rfl, rfl, rfl⟩

end Block.Alteration

namespace Store

open Block

variable {id : String} {store : Store} {before after : List Block} {block : Block}

/-- Alter the first block with an id. -/
def alter? (id : String) : Alteration → Store → Option Store
  | .remove => remove? id
  | .rename name => rename? id name
  | .configure patch => configure? id patch
  | .toggle => toggle? id

theorem alter?_of_first (h : First id store.blocks before block after) (alteration : Alteration) :
    store.alter? id alteration =
      some ⟨store.version + 1, before ++ (alteration.altered? block).toList ++ after⟩ := by
  cases alteration with
  | remove => simp [alter?, remove?_of_first h, Alteration.altered?]
  | rename | configure | toggle =>
    simp [alter?, rename?, configure?, toggle?, update?_of_first h, Alteration.altered?]

theorem alter?_of_absent (h : ∀ block ∈ store.blocks, block.id ≠ id) (alteration : Alteration) :
    store.alter? id alteration = none := by
  cases alteration with
  | remove => exact remove?_of_absent h
  | rename | configure | toggle => exact update?_of_absent h _

end Store

/-! ## Edits -/

/-- What the user does to the list. -/
inductive Edit where
  /-- Add a new block of a kind. -/
  | add (kind : Block.Kind)
  /-- Put a block at the end. -/
  | push (block : Block)
  /-- Alter the first block with an id. -/
  | alter (id : String) (alteration : Block.Alteration)
  | move (source target : Nat)

/-- At most one block is taken out of a list and at most one put in. The others stay as they are,
    and in their order. -/
def Exchanged (taken? put? : Option Block) (blocks blocks' : List Block) : Prop :=
  ∃ before after before' after', blocks = before ++ taken?.toList ++ after ∧
    blocks' = before' ++ put?.toList ++ after' ∧ before' ++ after' = before ++ after

namespace Edit

/-- The command for an edit. -/
def command : Edit → Command
  | add kind => .add kind
  | push block => .push block
  | alter id .remove => .remove id
  | alter id (.rename name) => .rename id name
  | alter id (.configure patch) => .configure id patch
  | alter id .toggle => .toggle id
  | move source target => .move source target

/-- There is nothing to do: no block has the id, or the positions are the same or not both in the
    list. -/
def IsVain (blocks : List Block) : Edit → Prop
  | add _ | push _ => False
  | alter id _ => ∀ block ∈ blocks, block.id ≠ id
  | move source target => blocks.length ≤ source ∨ blocks.length ≤ target ∨ source = target

/-- What an edit makes of a list. -/
inductive Makes (blocks : List Block) : Edit → List Block → Prop
  | add {kind : Block.Kind} (id : String) : Makes blocks (.add kind) (blocks ++ [.new id kind])
  | push {block : Block} : Makes blocks (.push block) (blocks ++ [block])
  | alter {id : String} {alteration : Block.Alteration} {before after : List Block}
      {block : Block} : Block.First id blocks before block after →
      Makes blocks (.alter id alteration) (before ++ (alteration.altered? block).toList ++ after)
  | move {source target : Nat} {blocks' : List Block} :
      Block.Moved source target blocks blocks' → Makes blocks (.move source target) blocks'

end Edit

/-- A move takes a block out and puts the same one in. -/
theorem Block.Moved.exchanged {source target : Nat} {blocks blocks' : List Block}
    (h : Moved source target blocks blocks') :
    ∃ block, Exchanged (some block) (some block) blocks blocks' := by
  obtain ⟨block, hb, hb'⟩ := h.block
  obtain ⟨hs, rfl⟩ := List.getElem?_eq_some_iff.1 hb
  obtain ⟨ht, heq⟩ := List.getElem?_eq_some_iff.1 hb'
  refine ⟨blocks[source], blocks.take source, blocks.drop (source + 1), blocks'.take target,
    blocks'.drop (target + 1), ?_, ?_, ?_⟩
  · simp
  · simp [← heq]
  · rw [← List.eraseIdx_eq_take_drop_succ, ← List.eraseIdx_eq_take_drop_succ]
    exact h.others

namespace Edit

/-- Beside the block that an edit takes out or puts in, nothing changes, and a block that stays in
    the list keeps its id, its kind, and what has to do with runs. -/
theorem Makes.exchanged {blocks blocks' : List Block} {edit : Edit}
    (h : edit.Makes blocks blocks') :
    ∃ taken? put?, Exchanged taken? put? blocks blocks' ∧
      ∀ block ∈ taken?, ∀ block' ∈ put?, block'.id = block.id ∧ block'.Alike block := by
  cases h with
  | @add kind id =>
    exact ⟨none, some (.new id kind), ⟨blocks, [], blocks, [], by simp⟩, by simp⟩
  | @push block => exact ⟨none, some block, ⟨blocks, [], blocks, [], by simp⟩, by simp⟩
  | @alter id alteration before after block hf =>
    refine ⟨some block, alteration.altered? block, ⟨before, after, before, after, ?_, rfl, rfl⟩, ?_⟩
    · simp [hf.split]
    · rintro _ ⟨⟩ block' hb'
      exact Block.Alteration.spares hb'
  | move hm =>
    obtain ⟨block, hx⟩ := hm.exchanged
    refine ⟨some block, some block, hx, ?_⟩
    rintro _ ⟨⟩ _ ⟨⟩
    exact ⟨rfl, rfl, rfl, rfl, rfl, rfl⟩

/-- The command for an alteration writes it. -/
theorem perform_alter (id : String) (alteration : Block.Alteration) (r : Rehearsal) :
    (command (.alter id alteration)).perform r = r.write (Store.alter? id alteration) := by
  cases alteration <;> rw [command, Command.perform] <;> rfl

/-- An edit answers no and changes nothing, or it leads to the next version. -/
theorem perform_cases (edit : Edit) (r : Rehearsal) :
    (edit.command.perform r = (.flag false, r) ∧ edit.IsVain r.store.blocks) ∨
    ¬edit.IsVain r.store.blocks ∧ (edit.command.perform r).1 ≠ .flag false ∧
      ∃ blocks, (edit.command.perform r).2.store = ⟨r.store.version + 1, blocks⟩ ∧
        edit.Makes r.store.blocks blocks := by
  cases edit with
  | add kind =>
    rw [command, Command.perform]
    exact .inr ⟨not_false, by simp [Rehearsal.add], _, rfl, .add _⟩
  | push block =>
    rw [command, Command.perform]
    exact .inr ⟨not_false, by simp, _, rfl, .push⟩
  | alter id alteration =>
    rw [perform_alter]
    rcases Block.first_or_absent id r.store.blocks with ⟨before, block, after, hf⟩ | ha
    · rw [Rehearsal.write_of_some (Store.alter?_of_first hf alteration)]
      exact .inr ⟨fun hvain => hvain block hf.mem hf.id_eq, by simp, _, rfl, .alter hf⟩
    · exact .inl ⟨Rehearsal.write_of_none (Store.alter?_of_absent ha alteration), ha⟩
  | move source target =>
    rw [command, Command.perform]
    rcases r.store.move?_cases source target with ⟨hvain, hnone⟩ | ⟨hvain, moved, hm, hsome⟩
    · exact .inl ⟨Rehearsal.write_of_none hnone, hvain⟩
    · rw [Rehearsal.write_of_some hsome]
      exact .inr ⟨hvain, by simp, moved, rfl, .move hm⟩

end Edit

/-- An edit answers no just if there is nothing to do, and then changes nothing. Otherwise it
    leads to the next version, and to the list that it is to make. In any case the blocks that it
    is not about stay as they are, and a block that it is about but does not remove keeps its id,
    its kind, and what has to do with runs. -/
theorem edits_spare_runs (edit : Edit) (r : Rehearsal) :
    let after := edit.command.perform r
    ((after.1 = .flag false ∧ edit.IsVain r.store.blocks ∧ after.2 = r) ∨
      (after.1 ≠ .flag false ∧ ¬edit.IsVain r.store.blocks ∧
        after.2.store.version = r.store.version + 1 ∧
        edit.Makes r.store.blocks after.2.store.blocks)) ∧
    ∃ taken? put?, Exchanged taken? put? r.store.blocks after.2.store.blocks ∧
      ∀ block ∈ taken?, ∀ block' ∈ put?, block'.id = block.id ∧ block'.Alike block := by
  intro after
  rcases edit.perform_cases r with ⟨hno, hvain⟩ | ⟨hvain, hyes, blocks, hstore, hmakes⟩
  · have hafter : after = (.flag false, r) := hno
    rw [hafter]
    exact ⟨.inl ⟨rfl, hvain, rfl⟩, none, none, ⟨r.store.blocks, [], r.store.blocks, [], by simp⟩,
      by simp⟩
  · have hafter : after.2.store = ⟨r.store.version + 1, blocks⟩ := hstore
    rw [hafter]
    exact ⟨.inr ⟨hyes, hvain, rfl, hmakes⟩, hmakes.exchanged⟩

end PromptChain
