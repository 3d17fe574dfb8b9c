import PromptChain.Proofs.Edits

/-!
# Amendments in any order

An *amendment* goes to the first block with an id: either the user alters the block, or a run of
it is complete and leaves its result there. What it does depends on nothing but this block. So
amendments with different ids do not notice each other, even if one of them removes a block
and thereby shifts the others: in whatever order they are committed, each gets the same
answer and the list and its version are the same in the end (`every_order_agrees`).

The way there: a pass over the list that amends the first block with an id
(`Block.amendFirst`) can be exchanged with a pass for another id, and does not change which
other ids there are.
-/

namespace PromptChain

/-! ## Passes over the list -/

namespace Block

variable {id other : String} {amend? amend'? : Block → Option Block} {blocks : List Block}

/-- Amend the first block with an id, if there is one; if nothing is left of it, it is removed. -/
def amendFirst (id : String) (amend? : Block → Option Block) : List Block → List Block
  | [] => []
  | block :: rest =>
    if block.id = id then (amend? block).toList ++ rest else block :: amendFirst id amend? rest

/-- Blocks with other ids in front are passed by. -/
theorem amendFirst_append {front : List Block} (h : ∀ block ∈ front, block.id ≠ id)
    (amend? : Block → Option Block) (blocks : List Block) :
    amendFirst id amend? (front ++ blocks) = front ++ amendFirst id amend? blocks := by
  induction front with
  | nil => rfl
  | cons head rest ih =>
    rw [List.forall_mem_cons] at h
    simp [amendFirst, h.1, ih h.2]

theorem First.amendFirst {before after : List Block} {block : Block}
    (h : First id blocks before block after) (amend? : Block → Option Block) :
    amendFirst id amend? blocks = before ++ (amend? block).toList ++ after := by
  rw [h.split, amendFirst_append h.before_ne, Block.amendFirst, if_pos h.id_eq, List.append_assoc]

theorem amendFirst_of_absent (h : ∀ block ∈ blocks, block.id ≠ id)
    (amend? : Block → Option Block) : amendFirst id amend? blocks = blocks := by
  simpa [amendFirst] using amendFirst_append h amend? []

/-- What is left of a block keeps its id. -/
def KeepsId (amend? : Block → Option Block) : Prop :=
  ∀ block, ∀ block' ∈ amend? block, block'.id = block.id

/-- Which other ids there are does not change. -/
theorem mem_ids_amendFirst (hk : KeepsId amend?) (hne : other ≠ id) :
    other ∈ (amendFirst id amend? blocks).map Block.id ↔ other ∈ blocks.map Block.id := by
  induction blocks with
  | nil => rfl
  | cons head rest ih =>
    by_cases hid : head.id = id
    · have hhead : other ∉ (amend? head).toList.map Block.id := by
        intro hmem
        obtain ⟨left, hleft, heq⟩ := List.mem_map.1 hmem
        exact hne (by rw [← heq, hk head left (Option.mem_toList.1 hleft), hid])
      have hother : other ≠ head.id := hid ▸ hne
      rw [amendFirst, if_pos hid, List.map_append, List.mem_append, List.map_cons, List.mem_cons]
      simp only [hhead, hother, false_or]
    · rw [amendFirst, if_neg hid, List.map_cons, List.map_cons, List.mem_cons, List.mem_cons, ih]

/-- The order of two passes for different ids does not matter. -/
theorem amendFirst_comm (hk : KeepsId amend?) (hk' : KeepsId amend'?) (hne : id ≠ other)
    (blocks : List Block) :
    amendFirst other amend'? (amendFirst id amend? blocks) =
      amendFirst id amend? (amendFirst other amend'? blocks) := by
  -- What is left of a block is passed by, like the block itself.
  have hleft {id id' : String} {amend? : Block → Option Block} (hk : KeepsId amend?)
      (hne : id ≠ id') {block : Block} (hid : block.id = id) :
      ∀ left ∈ (amend? block).toList, left.id ≠ id' := by
    intro left hl
    rw [hk block left (Option.mem_toList.1 hl), hid]
    exact hne
  induction blocks with
  | nil => rfl
  | cons head rest ih =>
    by_cases hid : head.id = id
    · have hother : head.id ≠ other := hid ▸ hne
      rw [amendFirst, if_pos hid, amendFirst_append (hleft hk hne hid), amendFirst, if_neg hother,
        amendFirst, if_pos hid]
    · by_cases hother : head.id = other
      · rw [amendFirst, if_neg hid, amendFirst, if_pos hother, amendFirst, if_pos hother,
          amendFirst_append (hleft hk' hne.symm hother)]
      · rw [amendFirst, if_neg hid, amendFirst, if_neg hother, ih, amendFirst, if_neg hother,
          amendFirst, if_neg hid]

end Block

/-! ## Amendments -/

/-- A write that goes to the first block with an id. -/
inductive Amendment where
  /-- The user alters the block. -/
  | alter (id : String) (alteration : Block.Alteration)
  /-- A run of the block is complete. -/
  | complete (run : Run) (result : Block.Result)

namespace Amendment

/-- The id of the block. -/
def target : Amendment → String
  | alter id _ => id
  | complete run _ => run.id

/-- What is left of the block. -/
def amended? : Amendment → Block → Option Block
  | alter _ alteration, block => alteration.altered? block
  | complete run result, block => some (block.finish run.number result)

/-- Commit an amendment. The answer is whether there is a block with the id. -/
def commit (store : Store) : Amendment → Bool × Store
  | alter id alteration =>
    match store.alter? id alteration with
    | some store' => (true, store')
    | none => (false, store)
  | complete run result => ((store.find? run.id).isSome, store.finish run result)

/-- Commit amendments one after the other. -/
def commitAll : List Amendment → Store → List Bool × Store
  | [], store => ([], store)
  | amendment :: rest, store =>
    let committed := amendment.commit store
    let others := commitAll rest committed.2
    (committed.1 :: others.1, others.2)

variable {amendment other : Amendment} {store : Store}

theorem keepsId (amendment : Amendment) : Block.KeepsId amendment.amended? := by
  intro block block' hb'
  cases amendment with
  | alter id alteration => exact (Block.Alteration.spares hb').1
  | complete run result =>
    obtain rfl := Option.some.inj hb'
    rfl

theorem commit_of_first {before after : List Block} {block : Block}
    (h : Block.First amendment.target store.blocks before block after) :
    amendment.commit store =
      (true, ⟨store.version + 1, before ++ (amendment.amended? block).toList ++ after⟩) := by
  cases amendment with
  | alter id alteration =>
    have hf : Block.First id store.blocks before block after := h
    rw [commit, Store.alter?_of_first hf]
    rfl
  | complete run result =>
    have hf : Block.First run.id store.blocks before block after := h
    rw [commit, Store.find?, hf.find?, Store.finish_of_first hf]
    simp [amended?]

theorem commit_of_absent (h : ∀ block ∈ store.blocks, block.id ≠ amendment.target) :
    amendment.commit store = (false, store) := by
  cases amendment with
  | alter id alteration =>
    have ha : ∀ block ∈ store.blocks, block.id ≠ id := h
    rw [commit, Store.alter?_of_absent ha]
  | complete run result =>
    have ha : ∀ block ∈ store.blocks, block.id ≠ run.id := h
    have hfind : store.find? run.id = none := by
      simpa [Store.find?, List.find?_eq_none] using ha
    rw [commit, hfind, Store.finish_of_absent ha]
    rfl

/-- The answer to an amendment and its effect, for a list with its block and a list without. -/
theorem commit_eq (amendment : Amendment) (store : Store) :
    let answer := decide (amendment.target ∈ store.blocks.map Block.id)
    amendment.commit store = (answer, ⟨store.version + answer.toNat,
      Block.amendFirst amendment.target amendment.amended? store.blocks⟩) := by
  rcases Block.first_or_absent amendment.target store.blocks with ⟨before, block, after, hf⟩ | ha
  · have hmem : amendment.target ∈ store.blocks.map Block.id :=
      List.mem_map.2 ⟨block, hf.mem, hf.id_eq⟩
    simp [commit_of_first hf, hf.amendFirst, hmem]
  · have hnot : amendment.target ∉ store.blocks.map Block.id := by
      simpa using ha
    simp [commit_of_absent ha, Block.amendFirst_of_absent ha, hnot]

/-- An amendment does not change the answer to another one. -/
theorem answer_commit (h : amendment.target ≠ other.target) :
    (other.commit (amendment.commit store).2).1 = (other.commit store).1 := by
  simp only [commit_eq, Block.mem_ids_amendFirst amendment.keepsId h.symm]

/-- The order of two amendments does not matter. -/
theorem commit_comm (h : amendment.target ≠ other.target) (store : Store) :
    (other.commit (amendment.commit store).2).2 = (amendment.commit (other.commit store).2).2 := by
  simp only [commit_eq, Block.mem_ids_amendFirst amendment.keepsId h.symm,
    Block.mem_ids_amendFirst other.keepsId h,
    Block.amendFirst_comm amendment.keepsId other.keepsId h, Nat.add_right_comm]

/-- With different ids, every amendment is answered as if it came first. -/
theorem commitAll_eq {amendments : List Amendment} (hd : (amendments.map target).Nodup)
    (store : Store) :
    commitAll amendments store = (amendments.map fun amendment => (amendment.commit store).1,
      amendments.foldl (fun store amendment => (amendment.commit store).2) store) := by
  induction amendments generalizing store with
  | nil => rfl
  | cons first rest ih =>
    rw [List.map_cons, List.nodup_cons] at hd
    have hanswers : (rest.map fun amendment => (amendment.commit (first.commit store).2).1) =
        rest.map fun amendment => (amendment.commit store).1 := by
      refine List.map_congr_left fun amendment hmem => answer_commit fun heq => hd.1 ?_
      exact heq ▸ List.mem_map_of_mem hmem
    simp only [commitAll, ih hd.2, hanswers, List.map_cons, List.foldl_cons]

end Amendment

open Amendment in
/-- Whatever the order in which amendments with different ids are committed, each gets the same
    answer, and the list and its version are the same in the end. -/
theorem every_order_agrees {amendments : List Amendment} (hd : (amendments.map target).Nodup)
    (store : Store) {order : List Amendment} (ho : order.Perm amendments) :
    commitAll order store =
      (order.map fun amendment => (amendment.commit store).1, (commitAll amendments store).2) := by
  have hd' : (order.map target).Nodup := (ho.map target).nodup_iff.2 hd
  rw [commitAll_eq hd', commitAll_eq hd]
  refine congrArg _ (ho.foldl_eq' (fun first hf second hs current => ?_) store)
  by_cases heq : first.target = second.target
  · rw [List.inj_on_of_nodup_map hd' hf hs heq]
  · exact commit_comm heq current

/-- Four amendments are committed backwards. One of the two blocks with the same id is removed, and
    one amendment is for a block that is not there. -/
theorem every_order_agrees_backwards :
    let amendments : List Amendment := [.alter "a" .remove, .alter "b" (.rename "B"),
      .alter "x" .toggle, .complete ⟨"c", 3, "", 1⟩ (.text "done")]
    let store := Store.ofBlocks [.new "a" .input, .new "b" .generate, .new "a" .generate,
      (Block.new "c" .generate).begin]
    (amendments.map Amendment.target).Nodup ∧ amendments.reverse.Perm amendments ∧
      Amendment.commitAll amendments.reverse store =
        ([true, false, true, true], ⟨3, [{ Block.new "b" .generate with name := "B" },
          .new "a" .generate, (Block.new "c" .generate).begin.finish 1 (.text "done")]⟩) := by
  intro amendments store
  have hd : (amendments.map Amendment.target).Nodup := by decide
  have ho : amendments.reverse.Perm amendments := List.reverse_perm _
  refine ⟨hd, ho, ?_⟩
  rw [every_order_agrees hd store ho]
  rfl

end PromptChain
