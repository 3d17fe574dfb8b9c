import PromptChain.Proofs.Execution
import PromptChain.Proofs.Fresh
import PromptChain.Proofs.Moves

/-!
# Overlapping runs

While a run of a block waits for its answer, anything may happen to the list: other runs
begin and end, also of the same block, and the user changes the list. An `Overlap` is a
store with the runs that were begun on it. The runs of the blocks in the list are kept in
the order in which they began, the complete ones with their results. When a block is
removed, its complete runs are forgotten, and those that still wait are *orphans*. A run
waits while its provider has not answered; up to that and from there on, nothing comes in
between, so the start of an execution is one step (`Store.start`) and its completion
another (`Store.finish`).

Blocks are told apart by their ids, and the ids of the blocks in a list are distinct. What
depends on the rule for new blocks is which runs an id may belong to: the rule `Absent`
only keeps the ids in the list distinct, under the rule `Unused` also an orphan keeps its
id for itself.

`Every.step` is the way to an invariant that relates each block to its runs: a property of
a block and its runs holds in every reachable state if it is `Kept` by what happens to one
block.
-/

namespace PromptChain

/-- Two blocks agree in kind and in all that has to do with runs. -/
structure Block.Alike (block block' : Block) : Prop where
  kind : block.kind = block'.kind
  result : block.result? = block'.result?
  executing : block.executing = block'.executing
  inFlight : block.inFlight = block'.inFlight
  run : block.run = block'.run

/-- A store to begin with: its ids are distinct and its blocks fresh. -/
structure Store.IsFresh (store : Store) : Prop where
  distinct : (store.blocks.map Block.id).Nodup
  blocks : ∀ block ∈ store.blocks, block.IsFresh

/-- A store that holds one fresh block. -/
theorem Store.isFresh_singleton (block : Block) (h : block.IsFresh) :
    (Store.ofBlocks [block]).IsFresh :=
  ⟨List.nodup_singleton _, List.forall_mem_singleton.2 h⟩

/-- A run that began, and its result once it is complete. -/
structure Record where
  run : Run
  result? : Option Block.Result

/-- Whether the run still waits for its answer. -/
def Record.waits (record : Record) : Bool := record.result?.isNone

/-- What is on record of the start of an execution. -/
def Start.records : Start → List Record
  | .absent | .done _ => []
  | .waiting run _ => [⟨run, none⟩]

/-- What the start of an execution reports at once. -/
def Start.outcome? : Start → Option Outcome
  | .done outcome => some outcome
  | .absent | .waiting .. => none

/-- A store with the runs that were begun on it. -/
structure Overlap where
  store : Store
  /-- The runs of the blocks in the list, in the order in which they began. -/
  records : List Record
  /-- The runs that wait though their blocks were removed. -/
  orphans : List Run

namespace Overlap

/-- Nothing has begun yet. -/
def start (store : Store) : Overlap := ⟨store, [], []⟩

/-- The runs of the block with an id, in the order in which they began. -/
def recordsOf (o : Overlap) (id : String) : List Record := o.records.filter (·.run.id = id)

/-- The runs of the block with an id that wait. -/
def waitingOf (o : Overlap) (id : String) : List Record := (o.recordsOf id).filter Record.waits

/-- All runs that wait. -/
def waiting (o : Overlap) : List Run := (o.records.filter Record.waits).map Record.run ++ o.orphans

/-- No block in the list has the id. -/
def Absent (o : Overlap) (id : String) : Prop := ∀ block ∈ o.store.blocks, block.id ≠ id

/-- No block in the list has the id, and no run that waits. -/
def Unused (o : Overlap) (id : String) : Prop := o.Absent id ∧ ∀ run ∈ o.waiting, run.id ≠ id

/-- What happens next, and what is reported of it. An execution may be triggered in several
    ways (`Target`); each of them names the ids of blocks to start. A block that is pushed
    is new or was read from a document, and its id is admitted. A change that finds nothing
    to do is no step. -/
inductive Step (admits : Overlap → String → Prop) : Overlap → Option Outcome → Overlap → Prop
  | start {o : Overlap} {id : String} {π : Type} [Provider π] {provider provider' : π}
      {start : Start} {store : Store} :
      o.store.start id provider = (start, store, provider') →
      Step admits o start.outcome? { o with store, records := o.records ++ start.records }
  | complete {o : Overlap} {before after : List Record} {run : Run}
      (answer : Except Failure Answer) :
      o.records = before ++ ⟨run, none⟩ :: after →
      Step admits o (some (run.outcome (.ofAnswer answer)))
        { o with
          store := o.store.finish run (.ofAnswer answer)
          records := before ++ ⟨run, some (.ofAnswer answer)⟩ :: after }
  | completeOrphan {o : Overlap} {before after : List Run} {run : Run}
      (answer : Except Failure Answer) :
      o.orphans = before ++ run :: after →
      Step admits o (some (run.outcome (.ofAnswer answer)))
        { o with store := o.store.finish run (.ofAnswer answer), orphans := before ++ after }
  | push {o : Overlap} {block : Block} :
      block.IsFresh → admits o block.id → Step admits o none { o with store := o.store.push block }
  | remove {o : Overlap} {id : String} {store : Store} :
      o.store.remove? id = some store →
      Step admits o none
        { store
          records := o.records.filter (·.run.id ≠ id)
          orphans := o.orphans ++ (o.waitingOf id).map Record.run }
  | rename {o : Overlap} {id name : String} {store : Store} :
      o.store.rename? id name = some store → Step admits o none { o with store }
  | configure {o : Overlap} {id : String} {patch : Block.Patch} {store : Store} :
      o.store.configure? id patch = some store → Step admits o none { o with store }
  | toggle {o : Overlap} {id : String} {store : Store} :
      o.store.toggle? id = some store → Step admits o none { o with store }
  | move {o : Overlap} {source target : Nat} {store : Store} :
      o.store.move? source target = some store → Step admits o none { o with store }

/-- The states that are reached from a store on which nothing has begun yet. -/
inductive Reachable (admits : Overlap → String → Prop) (store : Store) : Overlap → Prop
  | start : Reachable admits store (start store)
  | step {o o' : Overlap} {outcome? : Option Outcome} :
      Reachable admits store o → Step admits o outcome? o' → Reachable admits store o'

/-- A run that waits can complete with any answer, and reports the result. -/
theorem exists_step_of_waiting (admits : Overlap → String → Prop) {o : Overlap} {run : Run}
    (hr : run ∈ o.waiting) (answer : Except Failure Answer) :
    ∃ o', Step admits o (some (run.outcome (.ofAnswer answer))) o' ∧
      o'.store = o.store.finish run (.ofAnswer answer) ∧ o.waiting.Perm (run :: o'.waiting) := by
  rcases List.mem_append.1 hr with hr | hr
  · obtain ⟨⟨run, result?⟩, hrec, rfl⟩ := List.mem_map.1 hr
    obtain ⟨hrec, hwaits⟩ := List.mem_filter.1 hrec
    obtain rfl : result? = none := Option.isNone_iff_eq_none.1 hwaits
    obtain ⟨before, after, hsplit⟩ := List.append_of_mem hrec
    refine ⟨_, .complete answer hsplit, rfl, ?_⟩
    simp [waiting, hsplit, Record.waits, List.filter_cons]
  · obtain ⟨before, after, hsplit⟩ := List.append_of_mem hr
    refine ⟨_, .completeOrphan answer hsplit, rfl, ?_⟩
    rw [waiting, waiting, hsplit, ← List.append_assoc, ← List.append_assoc]
    exact List.perm_middle

/-- A step leaves the store as it is, or leads to the next version. -/
theorem Step.version {admits : Overlap → String → Prop} {o o' : Overlap}
    {outcome? : Option Outcome} (h : Step admits o outcome? o') :
    o'.store = o.store ∨ o'.store.version = o.store.version + 1 := by
  cases h with
  | start hs => exact Store.version_of_start hs
  | complete answer _ | completeOrphan answer _ => exact Store.version_of_finish _ _ _
  | push => exact .inr rfl
  | remove hw | rename hw | configure hw | toggle hw | move hw =>
    exact .inr (Store.version_of_write? hw)

/-- A run that begins writes a version of its own. -/
theorem Step.length_records_le {admits : Overlap → String → Prop} {o o' : Overlap}
    {outcome? : Option Outcome} (h : Step admits o outcome? o') :
    o.store.version + o'.records.length ≤ o'.store.version + o.records.length := by
  have hversion : o.store.version ≤ o'.store.version := by
    rcases h.version with heq | heq <;> simp [heq]
  cases h with
  | start hs =>
    obtain ⟨-, rfl, rfl⟩ |
      ⟨before, block, after, -, ⟨-, rfl, rfl⟩ | ⟨-, ⟨ticket, rfl⟩, rfl⟩⟩ := Store.start_cases hs
    · simp [Start.records]
    · simp [Start.records]
    · simp only [Start.records, List.length_append, List.length_singleton]
      omega
  | complete answer hr => simpa [hr] using hversion
  | remove => exact Nat.add_le_add hversion (List.length_filter_le _ _)
  | completeOrphan | push | rename | configure | toggle | move =>
    exact Nat.add_le_add_right hversion _

/-- There are no more runs on record than versions were written. -/
theorem Reachable.length_records_le {admits : Overlap → String → Prop} {store : Store}
    {o : Overlap} (ho : Reachable admits store o) :
    store.version + o.records.length ≤ o.store.version := by
  induction ho with
  | start => exact Nat.le_refl _
  | step _ hstep ih =>
    have := hstep.length_records_le
    omega

/-! ## Invariants of a block and its runs -/

/-- A property of a block and its runs is kept by all that happens to one block. It holds of
    a block without runs, looks at nothing but the kind and what has to do with runs, and
    outlives the start of an execution and the completion of a run. -/
structure Kept (P : Block → List Record → Prop) : Prop where
  fresh {block : Block} : block.IsFresh → P block []
  alike {block block' : Block} {records : List Record} :
    block'.Alike block → P block records → P block' records
  settle {block : Block} {records : List Record} :
    block.kind = .input → P block records → P block.settle records
  begin {block : Block} {records : List Record} {run : Run} :
    block.kind = .generate → run.number = block.run + 1 → P block records →
      P block.begin (records ++ [⟨run, none⟩])
  finish {block : Block} {before after : List Record} {run : Run} (result : Block.Result) :
    P block (before ++ ⟨run, none⟩ :: after) →
      P (block.finish run.number result) (before ++ ⟨run, some result⟩ :: after)

/-- Each block and its runs have a property. The ids in the list are distinct, and the runs
    on record are of blocks in the list. -/
structure Every (P : Block → List Record → Prop) (o : Overlap) : Prop where
  distinct : (o.store.blocks.map Block.id).Nodup
  owned : ∀ record ∈ o.records, ∃ block ∈ o.store.blocks, block.id = record.run.id
  holds : ∀ block ∈ o.store.blocks, P block (o.recordsOf block.id)

namespace Every

variable {P : Block → List Record → Prop} {o : Overlap}

theorem start {store : Store} (hk : Kept P) (hs : store.IsFresh) : Every P (start store) where
  distinct := hs.distinct
  owned _ hr := absurd hr List.not_mem_nil
  holds block hb := hk.fresh (hs.blocks block hb)

theorem of_first (h : Every P o) {id : String} {before after : List Block} {block : Block}
    (hf : Block.First id o.store.blocks before block after) : P block (o.recordsOf id) := by
  have := h.holds block hf.mem
  rwa [hf.id_eq] at this

/-- A block and its runs change, and no other does. -/
theorem replace (h : Every P o) {id : String} {before after : List Block} {block : Block}
    (hf : Block.First id o.store.blocks before block after) (block' : Block) (hid : block'.id = id)
    {records : List Record}
    (hother : ∀ other, other ≠ id → records.filter (·.run.id = other) = o.recordsOf other)
    (hblock : P block' (records.filter (·.run.id = id))) (version : Nat) (orphans : List Run) :
    Every P ⟨⟨version, before ++ block' :: after⟩, records, orphans⟩ where
  distinct := by
    have hd := h.distinct
    rw [hf.split] at hd
    simpa [hid, hf.id_eq] using hd
  owned record hr := by
    by_cases hrid : record.run.id = id
    · exact ⟨block', by simp, hid.trans hrid.symm⟩
    · -- A run of another block was on record before, and its block is beside the one replaced.
      have hmem : record ∈ o.recordsOf record.run.id := by
        rw [← hother _ hrid]
        simpa using hr
      obtain ⟨owner, ho, heq⟩ := h.owned record (List.mem_of_mem_filter hmem)
      have hne : owner ≠ block := fun hob => hrid (by rw [← heq, hob, hf.id_eq])
      have hside : owner ∈ before ∨ owner ∈ after := by simpa [hf.split, hne] using ho
      exact ⟨owner, by rcases hside with hb | ha <;> simp [*], heq⟩
  holds other ho := by
    have hside : other = block' ∨ other ∈ o.store.blocks ∧ other.id ≠ id := by
      rcases List.mem_append.1 ho with hb | hb
      · exact .inr ⟨by simp [hf.split, hb], hf.before_ne other hb⟩
      rcases List.mem_cons.1 hb with rfl | ha
      · exact .inl rfl
      · exact .inr ⟨by simp [hf.split, ha], hf.after_ne h.distinct other ha⟩
    rcases hside with rfl | ⟨hb, hne⟩
    · rw [recordsOf, hid]
      exact hblock
    · rw [recordsOf, hother other.id hne]
      exact h.holds other hb

/-- A block changes, and none of its runs. -/
theorem update (h : Every P o) {id : String} {change : Block → Block} {store : Store}
    (hu : o.store.update? id change = some store) (hid : ∀ block, (change block).id = block.id)
    (hc : ∀ block ∈ o.store.blocks, block.id = id → ∀ records, P block records →
      P (change block) records)
    (orphans : List Run) : Every P { o with store, orphans } := by
  obtain ⟨before, block, after, hf, rfl⟩ := Store.exists_of_update? hu
  refine h.replace hf _ ((hid block).trans hf.id_eq) (fun _ _ => rfl) ?_ _ _
  exact hc block hf.mem hf.id_eq _ (h.of_first hf)

/-- A block is added at the end, of which no run is on record. -/
theorem push (hk : Kept P) (h : Every P o) {block : Block} (hb : block.IsFresh)
    (ha : o.Absent block.id) : Every P { o with store := o.store.push block } where
  distinct := by
    simp only [Store.push, List.map_append, List.map_cons, List.map_nil]
    rw [List.nodup_append]
    refine ⟨h.distinct, List.nodup_singleton _, ?_⟩
    simpa using fun other ho => ha other ho
  owned record hr := by
    obtain ⟨owner, ho, heq⟩ := h.owned record hr
    exact ⟨owner, List.mem_append_left _ ho, heq⟩
  holds other ho := by
    rcases List.mem_append.1 ho with ho | ho
    · exact h.holds other ho
    · obtain rfl := List.mem_singleton.1 ho
      -- A run on record has its block in the list, where the new one has not been yet.
      have hnone : o.recordsOf other.id = [] := by
        rw [recordsOf, List.filter_eq_nil_iff]
        intro record hr
        obtain ⟨owner, ho, heq⟩ := h.owned record hr
        simpa [← heq] using ha owner ho
      change P other (o.recordsOf other.id)
      rw [hnone]
      exact hk.fresh hb

/-- A block is removed, and its runs are off the record. -/
theorem remove (h : Every P o) {id : String} {store : Store} (hr : o.store.remove? id = some store)
    (orphans : List Run) :
    Every P ⟨store, o.records.filter (·.run.id ≠ id), orphans⟩ := by
  obtain ⟨before, block, after, hf, rfl⟩ := Store.exists_of_remove? hr
  have hbeside := hf.beside h.distinct
  refine ⟨?_, fun record hrec => ?_, fun other ho => ?_⟩
  · have hd := h.distinct
    rw [hf.split, List.map_append, List.map_cons, List.nodup_middle, List.nodup_cons] at hd
    rw [List.map_append]
    exact hd.2
  · obtain ⟨hrec, hne⟩ := List.mem_filter.1 hrec
    obtain ⟨owner, ho, heq⟩ := h.owned record hrec
    have hob : owner ≠ block := by
      rintro rfl
      simp [← heq, hf.id_eq] at hne
    exact ⟨owner, by simpa [hf.split, hob] using ho, heq⟩
  · obtain ⟨hmem, hne⟩ := hbeside other ho
    have hrecords : (o.records.filter (·.run.id ≠ id)).filter (·.run.id = other.id) =
        o.recordsOf other.id := by
      rw [List.filter_filter, recordsOf]
      refine List.filter_congr fun record _ => ?_
      by_cases heq : record.run.id = other.id <;> simp [heq, hne]
    rw [recordsOf, hrecords]
    exact h.holds other hmem

/-- The list is put in another order. -/
theorem perm (h : Every P o) {store : Store} (hp : store.blocks.Perm o.store.blocks)
    (orphans : List Run) : Every P { o with store, orphans } where
  distinct := (hp.map Block.id).nodup_iff.2 h.distinct
  owned record hr := by
    obtain ⟨owner, ho, heq⟩ := h.owned record hr
    exact ⟨owner, hp.mem_iff.2 ho, heq⟩
  holds block hb := h.holds block (hp.mem_iff.1 hb)

/-- What the start of an execution keeps. -/
theorem begin (hk : Kept P) (h : Every P o) {id : String} {π : Type} [Provider π]
    {provider provider' : π} {start : Start} {store : Store}
    (hs : o.store.start id provider = (start, store, provider')) :
    Every P { o with store, records := o.records ++ start.records } := by
  obtain ⟨-, rfl, rfl⟩ |
    ⟨before, block, after, hf, ⟨hkind, rfl, rfl⟩ | ⟨hkind, ⟨ticket, rfl⟩, rfl⟩⟩ :=
    Store.start_cases hs
  · rw [Start.records, List.append_nil]
    exact h
  · rw [Start.records, List.append_nil]
    exact h.replace hf block.settle hf.id_eq (fun _ _ => rfl) (hk.settle hkind (h.of_first hf)) _ _
  · refine h.replace hf block.begin hf.id_eq (fun other hne => ?_) ?_ _ _
    · simp [Start.records, recordsOf, Ne.symm hne]
    · simpa [Start.records, recordsOf] using hk.begin hkind rfl (h.of_first hf)

/-- What the completion of a run keeps whose block is in the list. -/
theorem complete (hk : Kept P) (h : Every P o) {before after : List Record} {run : Run}
    (hr : o.records = before ++ ⟨run, none⟩ :: after) (result : Block.Result) :
    Every P { o with
      store := o.store.finish run result, records := before ++ ⟨run, some result⟩ :: after } := by
  rcases Block.first_or_absent run.id o.store.blocks with ⟨front, block, back, hf⟩ | ha
  · rw [Store.finish_of_first hf]
    refine h.replace hf (block.finish run.number result) hf.id_eq (fun other hne => ?_) ?_ _ _
    · simp [recordsOf, hr, Ne.symm hne]
    · have := h.of_first hf
      simp only [recordsOf, hr, List.filter_append, List.filter_cons, decide_true, if_true] at this
      simpa using hk.finish result this
  · obtain ⟨owner, ho, heq⟩ := h.owned ⟨run, none⟩ (by simp [hr])
    exact absurd heq (ha owner ho)

/-- What the completion of an orphan keeps. -/
theorem completeOrphan (h : Every P o) {run : Run}
    (hc : ∀ block ∈ o.store.blocks, block.id = run.id → ∀ result records, P block records →
      P (block.finish run.number result) records)
    (result : Block.Result) (orphans : List Run) :
    Every P { o with store := o.store.finish run result, orphans } := by
  cases hu : o.store.update? run.id (Block.finish run.number result) with
  | none =>
    rw [Store.finish, hu]
    exact ⟨h.distinct, h.owned, h.holds⟩
  | some store =>
    rw [Store.finish, hu]
    exact h.update hu (fun _ => rfl) (fun block hb hid => hc block hb hid result) orphans

/-- What a step keeps, if the completion of an orphan keeps it, too. -/
theorem step {admits : Overlap → String → Prop} {outcome? : Option Outcome} {o' : Overlap}
    (hk : Kept P) (hadmits : ∀ id, admits o id → o.Absent id) (h : Every P o)
    (hs : Step admits o outcome? o')
    (horphan : ∀ before run after result, o.orphans = before ++ run :: after →
      o' = ⟨o.store.finish run result, o.records, before ++ after⟩ → Every P o') : Every P o' := by
  cases hs with
  | start hs => exact h.begin hk hs
  | complete answer hr => exact h.complete hk hr _
  | completeOrphan answer hr => exact horphan _ _ _ _ hr rfl
  | push hb ha => exact h.push hk hb (hadmits _ ha)
  | remove hr => exact h.remove hr _
  | rename hu | configure hu | toggle hu =>
    exact h.update hu (fun _ => rfl) (fun _ _ _ _ => hk.alike ⟨rfl, rfl, rfl, rfl, rfl⟩) _
  | move hm =>
    obtain ⟨blocks, hb, rfl⟩ := Option.map_eq_some_iff.1 hm
    exact h.perm (Block.moved?_eq_some_iff.1 hb).perm _

end Every

/-- A property holds in every reachable state, if also what finishes on behalf of an orphan
    keeps it. -/
theorem Reachable.every {P : Block → List Record → Prop} {admits : Overlap → String → Prop}
    {store : Store} {o : Overlap} (hk : Kept P) (hadmits : ∀ o id, admits o id → o.Absent id)
    (hfinish : ∀ block number result records, P block records →
      P (block.finish number result) records)
    (hs : store.IsFresh) (ho : Reachable admits store o) : Every P o := by
  induction ho with
  | start => exact .start hk hs
  | step _ hstep ih =>
    refine ih.step hk (hadmits _) hstep fun before run after result _ heq => ?_
    rw [heq]
    exact ih.completeOrphan (fun block _ _ result => hfinish block run.number result) result _

/-- The ids in the list stay distinct. -/
theorem Reachable.distinct {admits : Overlap → String → Prop} {store : Store} {o : Overlap}
    (hadmits : ∀ o id, admits o id → o.Absent id) (hs : store.IsFresh)
    (ho : Reachable admits store o) : (o.store.blocks.map Block.id).Nodup := by
  have hk : Kept fun _ _ => True := by constructor <;> intros <;> trivial
  exact (ho.every hk hadmits (fun _ _ _ _ _ => trivial) hs).distinct

/-! ## Orphans whose ids are not used again -/

/-- No block has the id of an orphan. -/
def Apart (o : Overlap) : Prop := ∀ run ∈ o.orphans, o.Absent run.id

theorem absent_of_ids {o o' : Overlap} {id : String} (h : o.Absent id)
    (hids : o'.store.blocks.map Block.id = o.store.blocks.map Block.id) : o'.Absent id := by
  intro block hb heq
  have hmem : id ∈ o'.store.blocks.map Block.id := List.mem_map.2 ⟨block, hb, heq⟩
  rw [hids] at hmem
  obtain ⟨owner, ho, hid⟩ := List.mem_map.1 hmem
  exact h owner ho hid

theorem Apart.step {o o' : Overlap} {outcome? : Option Outcome} (h : o.Apart)
    (hd : (o.store.blocks.map Block.id).Nodup) (hs : Step Unused o outcome? o') : o'.Apart := by
  cases hs with
  | start hs => exact fun run hr => absent_of_ids (h run hr) (Store.ids_of_start hs)
  | complete answer _ => exact fun run hr => absent_of_ids (h run hr) (Store.ids_of_finish _ _ _)
  | completeOrphan answer heq =>
    refine fun run hr => absent_of_ids (h run ?_) (Store.ids_of_finish _ _ _)
    rw [heq]
    rcases List.mem_append.1 hr with hr | hr <;> simp [hr]
  | push _ ha =>
    intro run hr other ho
    rcases List.mem_append.1 ho with ho | ho
    · exact h run hr other ho
    · obtain rfl := List.mem_singleton.1 ho
      exact (ha.2 run (List.mem_append_right _ hr)).symm
  | @remove id _ hr =>
    obtain ⟨before, block, after, hf, rfl⟩ := Store.exists_of_remove? hr
    intro run hrun other ho
    obtain ⟨hmem, hne⟩ := hf.beside hd other ho
    rcases List.mem_append.1 hrun with hold | hnew
    · exact h run hold other hmem
    · -- An orphan that this removal makes has the id of the block removed.
      obtain ⟨record, hrec, rfl⟩ := List.mem_map.1 hnew
      have hid : record.run.id = id := by
        simpa using (List.mem_filter.1 (List.mem_of_mem_filter hrec)).2
      rwa [hid]
  | rename hu | configure hu | toggle hu =>
    exact fun run hr => absent_of_ids (h run hr) (Store.ids_of_update? hu fun _ => rfl)
  | move hm =>
    obtain ⟨blocks, hb, rfl⟩ := Option.map_eq_some_iff.1 hm
    exact fun run hr other ho => h run hr other ((Block.moved?_eq_some_iff.1 hb).perm.mem_iff.1 ho)

theorem Reachable.apart {store : Store} {o : Overlap} (hs : store.IsFresh)
    (ho : Reachable Unused store o) : o.Apart := by
  induction ho with
  | start => exact fun _ hr => absurd hr List.not_mem_nil
  | step ho hstep ih => exact ih.step (ho.distinct (fun _ _ h => h.1) hs) hstep

/-- If no id of an orphan is used again, a property holds in every reachable state. -/
theorem Reachable.every_of_unused {P : Block → List Record → Prop} {store : Store} {o : Overlap}
    (hk : Kept P) (hs : store.IsFresh) (ho : Reachable Unused store o) : Every P o := by
  induction ho with
  | start => exact .start hk hs
  | step ho hstep ih =>
    refine ih.step hk (fun _ h => h.1) hstep fun before run after result hr heq => ?_
    have hapart := ho.apart hs run (by simp [hr])
    rw [heq]
    exact ih.completeOrphan (fun block hb hid => absurd hid (hapart block hb)) result _

end Overlap

end PromptChain
