import PromptChain.Flow.Store
import PromptChain.Proofs.Resolution

/-!
# Variables are offered as mentions

A block may mention the one before it, which is offered to it as a variable
(`Store.variablesAt`). The mention is written for it (`Variable.mention`), with the name and the id
of the block as they are. Both may be any texts: a block can be renamed to nothing, or to a name
with a bracket in it.

What is written is good for what it is offered for if it is one mention, of the variable, and
stands for the value of the block before (`Variable.Serves`). It is so just if the name and the id
can be written in a mention (`Variable.serves_iff`).
-/

namespace PromptChain

namespace Variable

open Template

/-- The name and the id of a variable can stand in a mention. -/
structure IsWritable (v : Variable) : Prop where
  name_ne : v.name ≠ ""
  name_open : ']' ∉ v.name.toList
  id_ne : v.id ≠ ""
  id_open : ')' ∉ v.id.toList

/-- What is written for a variable is one mention, with its name and its id, and stands for the
    value of the block before. -/
def Serves (v : Variable) (blocks : List Block) (index : Nat) : Prop :=
  ∃ (m : Template.Mention) (value : String), m.display = v.name ∧ m.identifier = v.id ∧
    m.StandsFor blocks index (.resolved value) value ∧
    resolve v.mention blocks index = ⟨value, [(m, .resolved value)]⟩

variable {v : Variable}

/-- A mention of the variable that stands in a text is written with its name and its id. -/
theorem isWritable_of_standsIn {m : Template.Mention} {template : String} (h : m.StandsIn template)
    (hdisplay : m.display = v.name) (hidentifier : m.identifier = v.id) : v.IsWritable where
  name_ne := hdisplay ▸ h.display_ne
  name_open := hdisplay ▸ h.display_open
  id_ne := hidentifier ▸ h.identifier_ne
  id_open := hidentifier ▸ h.identifier_open

/-- What is written for a variable is one mention, if its name and its id can stand in it. -/
theorem pieces_mention (h : v.IsWritable) :
    pieces v.mention.toList = [.mention v.name.toList v.id.toList] := by
  have hat : mentionAt? v.mention.toList = some (v.name.toList, v.id.toList, []) := by
    refine mentionAt?_eq_some_iff.2 ⟨⟨?_, h.name_open⟩, ⟨?_, h.id_open⟩, ?_⟩
    · rw [Ne, String.toList_eq_nil_iff]
      exact h.name_ne
    · rw [Ne, String.toList_eq_nil_iff]
      exact h.id_ne
    · simp [mention, Piece.source]
  rw [pieces_of_mentionAt? hat, pieces]
  rfl

/-- What is offered at a position is the block before it. -/
theorem exists_of_mem_variablesAt {store : Store} {index : Nat} (h : v ∈ store.variablesAt index) :
    ∃ block, Precedes block store.blocks index ∧ v = ⟨block.id, block.name, block.kind⟩ := by
  cases index with
  | zero => cases h
  | succ i =>
    obtain ⟨block, hblock, rfl⟩ := Option.map_eq_some_iff.1 (Option.mem_toList.1 h)
    exact ⟨block, previous?_eq_some_iff.1 hblock, rfl⟩

/-- If the name and the id of the block before can stand in a mention, what is written for it
    stands for its value. -/
theorem serves_of_isWritable {block : Block} {blocks : List Block} {index : Nat}
    (hblock : Precedes block blocks index)
    (hwritable : IsWritable ⟨block.id, block.name, block.kind⟩) :
    Serves ⟨block.id, block.name, block.kind⟩ blocks index := by
  have hpieces := pieces_mention hwritable
  let m : Template.Mention := ⟨block.name, block.id, 0,
    byteLength (Piece.mention block.name.toList block.id.toList).source⟩
  have houtcome : outcome (previous? blocks index) m.display = .resolved (blockText block) := by
    rw [previous?_eq_some_iff.2 hblock]
    exact if_pos rfl
  have hstands := m.standsFor_outcome blocks index
  rw [houtcome] at hstands
  refine ⟨m, blockText block, rfl, rfl, hstands, ?_⟩
  rw [resolve, mentions, hpieces]
  simp [mentionsFrom, pieceText, m, houtcome, Outcome.text]

/-- The mention that is written for a variable is good for what it is offered for just if the name
    and the id can stand in a mention. -/
theorem serves_iff {store : Store} {index : Nat} (h : v ∈ store.variablesAt index) :
    v.Serves store.blocks index ↔ v.IsWritable := by
  obtain ⟨block, hblock, rfl⟩ := exists_of_mem_variablesAt h
  refine ⟨?_, serves_of_isWritable hblock⟩
  rintro ⟨m, value, hdisplay, hidentifier, -, hresolve⟩
  have hmentions : mentions (mention ⟨block.id, block.name, block.kind⟩) = [m] := by
    have hfirst := congrArg (fun resolution => resolution.mentions.map Prod.fst) hresolve
    simpa [resolve, Function.comp_def] using hfirst
  have hleftmost : Leftmost _ (byteLength [])
      (mentions (mention ⟨block.id, block.name, block.kind⟩)) :=
    leftmost_mentionsFrom (List.nil_append _).symm
  have hstands := (hleftmost.standsIn m (hmentions ▸ List.mem_singleton_self m)).1
  exact isWritable_of_standsIn hstands hdisplay hidentifier

/-- Openings and parentheses in a name, and brackets in an id, can be written. -/
theorem serves_marks :
    let store := Store.ofBlocks [Block.input "b](@[" "@[s(" "hi", Block.generate "g" "G" ""]
    let v : Variable := ⟨"b](@[", "@[s(", .input⟩
    v ∈ store.variablesAt 1 ∧ v.Serves store.blocks 1 := by
  intro store v
  have h : v ∈ store.variablesAt 1 := by decide
  exact ⟨h, (serves_iff h).2 ⟨by decide, by decide, by decide, by decide⟩⟩

/-- A block that is renamed to a name with a bracket is offered with a text that is no mention. -/
theorem not_serves_renamed :
    let store := Store.ofBlocks [Block.input "a" "s" "hi", Block.generate "g" "G" "@[x]y](a)"]
    let v : Variable := ⟨"a", "x]y", .input⟩
    ∃ renamed, store.rename? "a" "x]y" = some renamed ∧ renamed.variablesAt 1 = [v] ∧
      (resolve v.mention renamed.blocks 1).text = "@[x]y](a)" ∧
      (resolve v.mention renamed.blocks 1).mentions = [] ∧
      ¬v.Serves renamed.blocks 1 := by
  intro store v
  refine ⟨_, rfl, by decide, by decide +kernel, ?_⟩
  have hnone : (resolve v.mention
      [Block.input "a" "x]y" "hi", Block.generate "g" "G" "@[x]y](a)"] 1).mentions = [] := by
    decide +kernel
  refine ⟨hnone, ?_⟩
  rintro ⟨m, value, -, -, -, hresolve⟩
  have hmentions := hnone.symm.trans (congrArg Resolution.mentions hresolve)
  cases hmentions

end Variable

end PromptChain
