import Mathlib.Data.List.Forall2
import PromptChain.Proofs.Mentions
import PromptChain.Template.Resolution

/-!
# Mentions are replaced once

The mentions of a template leave *gaps*: the texts before, between and behind them. To resolve
the template is to put values in the places of the mentions and to keep the gaps
(`resolve_text_eq_weave`). Neither a value nor what it makes up together with a gap is looked at
again.

Where mentions are known by their bytes only, the gaps must be cut out of the template by bytes,
which can go wrong: a byte may lie inside a character, or behind the end (`slice?`). `splice?`
puts a resolved template together in this way, with a cursor that follows the mentions. No cut
of it goes wrong, and what it gives is the resolved template (`splice?_eq_some_resolve`).

What a mention stands for is `Mention.StandsFor`, with one case for each way in which the block
before can have a value for it, or have none.
-/

namespace PromptChain.Template

/-! ## Slices -/

/-- The texts before and from a byte on, if a character begins there or the text ends there. -/
def splitAt? : Nat → List Char → Option (List Char × List Char)
  | 0, cs => some ([], cs)
  | _ + 1, [] => none
  | n + 1, c :: cs =>
    if c.utf8Size ≤ n + 1 then
      (splitAt? (n + 1 - c.utf8Size) cs).map fun (before, after) => (c :: before, after)
    else none

/-- The part of a text from one byte to before another one. Both must be places between
    characters, in order. -/
def slice? (text : String) (start stop : Nat) : Option String :=
  if start ≤ stop then do
    let (_, rest) ← splitAt? start text.toList
    let (part, _) ← splitAt? (stop - start) rest
    return String.ofList part
  else none

theorem splitAt?_eq_some_iff {n : Nat} {cs before after : List Char} :
    splitAt? n cs = some (before, after) ↔ cs = before ++ after ∧ byteLength before = n := by
  induction cs generalizing n before after with
  | nil => cases n <;> cases before <;> simp [splitAt?, byteLength, eq_comm]
  | cons c cs ih =>
    have hpos := c.utf8Size_pos
    cases n with
    | zero =>
      cases before with
      | nil => simp [splitAt?, byteLength, eq_comm]
      | cons d before =>
        simp [splitAt?, byteLength, d.utf8Size_pos.ne']
    | succ n =>
      cases before with
      | nil => simp [splitAt?, byteLength]
      | cons d before =>
        -- The first character must fit, and the rest of the bytes are split off behind it.
        simp only [splitAt?, byteLength, List.cons_append, List.cons.injEq]
        split
        next hle =>
          simp only [Option.map_eq_some_iff, Prod.exists, Prod.mk.injEq, List.cons.injEq, ih]
          constructor
          · rintro ⟨_, _, ⟨rfl, hlen⟩, ⟨rfl, rfl⟩, rfl⟩
            exact ⟨⟨rfl, rfl⟩, by omega⟩
          · rintro ⟨⟨rfl, rfl⟩, hlen⟩
            exact ⟨before, after, ⟨rfl, by omega⟩, ⟨rfl, rfl⟩, rfl⟩
        next hlt =>
          simp only [reduceCtorEq, false_iff]
          rintro ⟨⟨rfl, -⟩, hlen⟩
          omega

/-- A slice is the text between two places of the whole. -/
theorem slice?_eq_some_iff {text part : String} {start stop : Nat} :
    slice? text start stop = some part ↔
      ∃ before after : String, text = before ++ part ++ after ∧ before.utf8ByteSize = start ∧
        (before ++ part).utf8ByteSize = stop := by
  simp only [slice?, utf8ByteSize_eq, String.toList_append, byteLength_append]
  constructor
  · intro h
    split at h
    next hle =>
      simp only [Option.bind_eq_bind, Option.bind_eq_some_iff, Prod.exists,
        splitAt?_eq_some_iff] at h
      obtain ⟨before, rest, ⟨htext, hstart⟩, cs, after, ⟨rfl, hstop⟩, hpart⟩ := h
      obtain rfl := Option.some.inj hpart
      refine ⟨String.ofList before, String.ofList after, ?_, by simpa using hstart, ?_⟩
      · rw [← String.toList_inj, htext]
        simp
      · simp only [String.toList_ofList]
        omega
    next => cases h
  · rintro ⟨before, after, rfl, rfl, rfl⟩
    have hbefore : splitAt? (byteLength before.toList)
        (before.toList ++ (part.toList ++ after.toList)) =
          some (before.toList, part.toList ++ after.toList) :=
      splitAt?_eq_some_iff.2 ⟨rfl, rfl⟩
    have hpart : splitAt? (byteLength part.toList) (part.toList ++ after.toList) =
        some (part.toList, after.toList) :=
      splitAt?_eq_some_iff.2 ⟨rfl, rfl⟩
    simp [hbefore, hpart]

theorem slice?_eq_some {text : String} {before part after : List Char}
    (h : text.toList = before ++ part ++ after) :
    slice? text (byteLength before) (byteLength (before ++ part)) = some (String.ofList part) := by
  refine slice?_eq_some_iff.2 ⟨String.ofList before, String.ofList after, ?_, ?_, ?_⟩
  · rw [← String.toList_inj, h]
    simp
  · simp [utf8ByteSize_eq]
  · simp [utf8ByteSize_eq]

/-! ## Gaps -/

/-- Gaps with parts in between. -/
def weave : List String → List String → String
  | gap :: gaps, part :: parts => gap ++ part ++ weave gaps parts
  | gap :: _, [] => gap
  | [], _ => ""

/-- The gaps that mentions leave in a template, from a byte on. -/
def gapsFrom? (template : String) : Nat → List Mention → Option (List String)
  | cursor, [] => (slice? template cursor template.utf8ByteSize).map ([·])
  | cursor, m :: rest => do
    let gap ← slice? template cursor m.start
    return gap :: (← gapsFrom? template m.stop rest)

/-- The gaps that the mentions of a template leave. -/
def gaps? (template : String) : Option (List String) := gapsFrom? template 0 (mentions template)

/-- The gaps among pieces, the first one beginning with the given characters. -/
def gapsAmong (pending : List Char) : List Piece → List String
  | [] => [String.ofList pending]
  | .char c :: rest => gapsAmong (pending ++ [c]) rest
  | .mention _ _ :: rest => String.ofList pending :: gapsAmong [] rest

theorem flatMap_source_pieces (cs : List Char) : (pieces cs).flatMap Piece.source = cs := by
  induction cs using pieces.induct with
  | case1 cs display identifier rest hcs _ ih =>
    rw [pieces_of_mentionAt? hcs, List.flatMap_cons, ih, (mentionAt?_eq_some_iff.1 hcs).2.2]
  | case2 hnone =>
    rw [pieces]
    rfl
  | case3 c rest hnone ih =>
    rw [pieces_cons hnone, List.flatMap_cons, ih]
    rfl

/-- No cut goes wrong: the gaps by bytes are the gaps among the pieces. -/
theorem gapsFrom?_eq_gapsAmong {template : String} {before pending : List Char} {ps : List Piece}
    (h : template.toList = before ++ pending ++ ps.flatMap Piece.source) :
    gapsFrom? template (byteLength before) (mentionsFrom (byteLength (before ++ pending)) ps) =
      some (gapsAmong pending ps) := by
  induction ps generalizing before pending with
  | nil =>
    have hslice := @slice?_eq_some template before pending [] (by simpa using h)
    rw [show byteLength (before ++ pending) = template.utf8ByteSize by
      rw [utf8ByteSize_eq, h, List.flatMap_nil, List.append_nil]] at hslice
    simp [mentionsFrom, gapsFrom?, gapsAmong, hslice]
  | cons piece rest ih =>
    rw [List.flatMap_cons] at h
    cases piece with
    | char c =>
      have hrest := @ih before (pending ++ [c]) (by simpa [Piece.source] using h)
      simpa [mentionsFrom, gapsAmong, Piece.source, byteLength_append, Nat.add_assoc] using hrest
    | mention display identifier =>
      have hslice := slice?_eq_some h
      have hrest := @ih (before ++ pending ++ (Piece.mention display identifier).source) []
        (by rw [h]; simp only [List.append_assoc, List.nil_append])
      rw [List.append_nil, byteLength_append _ (Piece.source _)] at hrest
      simp [mentionsFrom, gapsFrom?, gapsAmong, hslice, hrest]

theorem gaps?_eq_gapsAmong (template : String) :
    gaps? template = some (gapsAmong [] (pieces template.toList)) :=
  @gapsFrom?_eq_gapsAmong template [] [] _ (flatMap_source_pieces _).symm

/-- The parts in the places of the mentions and the gaps around them make up the whole. -/
theorem weave_gapsAmong {part : Mention → String} (text : Piece → List Char)
    (hchar : ∀ c, text (.char c) = [c])
    (hmention : ∀ display identifier start stop,
      text (.mention display identifier) =
        (part ⟨String.ofList display, String.ofList identifier, start, stop⟩).toList)
    (pending : List Char) (ps : List Piece) (start : Nat) :
    weave (gapsAmong pending ps) ((mentionsFrom start ps).map part) =
      String.ofList (pending ++ ps.flatMap text) := by
  induction ps generalizing pending start with
  | nil => simp [gapsAmong, mentionsFrom, weave]
  | cons piece rest ih =>
    cases piece with
    | char c => simp [gapsAmong, mentionsFrom, ih, hchar]
    | mention display identifier =>
      simp [gapsAmong, mentionsFrom, weave, ih, String.append_assoc,
        hmention display identifier start
          (start + byteLength (Piece.mention display identifier).source)]

/-- The text of pieces is their tokens with the gaps around them. -/
theorem weave_gapsAmong_tokens (ps : List Piece) (start : Nat) :
    weave (gapsAmong [] ps) ((mentionsFrom start ps).map Mention.token) =
      String.ofList (ps.flatMap Piece.source) := by
  refine weave_gapsAmong Piece.source (fun _ => rfl) ?_ [] ps start
  intro display identifier start stop
  rw [Mention.toList_token, String.toList_ofList, String.toList_ofList]

/-- A template is its tokens with its gaps around them. -/
theorem weave_tokens (template : String) :
    weave (gapsAmong [] (pieces template.toList)) ((mentions template).map Mention.token) =
      template := by
  rw [mentions, weave_gapsAmong_tokens, flatMap_source_pieces, String.ofList_toList]

/-- A resolved template is the values of its mentions with its gaps around them. -/
theorem resolve_text_eq_weave (template : String) (blocks : List Block) (index : Nat) :
    (resolve template blocks index).text =
      weave (gapsAmong [] (pieces template.toList))
        ((resolve template blocks index).mentions.map fun (_, outcome) => outcome.text) := by
  rw [resolve, List.map_map, mentions,
    weave_gapsAmong (pieceText (previous? blocks index)) (fun _ => rfl) (fun _ _ _ _ => rfl),
    List.nil_append]

/-! ## Splicing -/

/-- A template that is resolved up to a cursor. -/
structure Splice where
  text : List Char
  /-- The byte behind the last mention that was replaced. -/
  cursor : Nat
  /-- The mentions that were replaced, and what they stand for. -/
  mentions : List (Mention × Outcome)

/-- Copy the gap before a mention and replace the mention. -/
def Splice.step? (template : String) (previous? : Option Block) (done : Splice) (m : Mention) :
    Option Splice := do
  let gap ← slice? template done.cursor m.start
  let outcome := outcome previous? m.display
  return ⟨done.text ++ gap.toList ++ outcome.text.toList, m.stop, done.mentions ++ [(m, outcome)]⟩

/-- Copy what is left of the template. -/
def Splice.finish? (template : String) (done : Splice) : Option Resolution := do
  let gap ← slice? template done.cursor template.utf8ByteSize
  return ⟨String.ofList (done.text ++ gap.toList), done.mentions⟩

/-- A block is the one before a position. -/
def Precedes (block : Block) (blocks : List Block) (index : Nat) : Prop :=
  0 < index ∧ blocks[index - 1]? = some block

/-- What a mention stands for at a position, and the text that takes its place. -/
inductive Mention.StandsFor (m : Mention) (blocks : List Block) (index : Nat) :
    Outcome → String → Prop
  /-- There is no block before. -/
  | nothing : (∀ block, ¬Precedes block blocks index) →
      StandsFor m blocks index (.unresolved .noPredecessor) ""
  /-- The block before has another name. -/
  | other {block : Block} : Precedes block blocks index → block.name ≠ m.display →
      StandsFor m blocks index (.unresolved (.nameMismatch m.display block.name)) ""
  /-- The text of an input block. -/
  | input {block : Block} {text : String} : Precedes block blocks index → block.name = m.display →
      block.kind = .input → text = block.settings.input?.getD "" →
      StandsFor m blocks index (.resolved text) text
  /-- The result of a generate block, as a text. -/
  | result {block : Block} {text : String} : Precedes block blocks index → block.name = m.display →
      block.kind = .generate → text = (block.result?.map resultText).getD "" →
      StandsFor m blocks index (.resolved text) text

theorem previous?_eq_some_iff {blocks : List Block} {index : Nat} {block : Block} :
    previous? blocks index = some block ↔ Precedes block blocks index := by
  cases index <;> simp [previous?, Precedes]

theorem Mention.standsFor_outcome (m : Mention) (blocks : List Block) (index : Nat) :
    m.StandsFor blocks index (outcome (previous? blocks index) m.display)
      (outcome (previous? blocks index) m.display).text := by
  cases hprevious : previous? blocks index with
  | none =>
    refine .nothing fun block hblock => ?_
    rw [previous?_eq_some_iff.2 hblock] at hprevious
    cases hprevious
  | some block =>
    have hblock := previous?_eq_some_iff.1 hprevious
    by_cases hname : block.name = m.display
    · rw [outcome, if_pos hname, Outcome.text]
      cases hkind : block.kind with
      | input => exact .input hblock hname hkind (by rw [blockText, hkind])
      | generate => exact .result hblock hname hkind (by rw [blockText, hkind])
    · rw [outcome, if_neg hname]
      exact .other hblock hname

/-- A value is not looked at again, even if it reads like a mention. -/
example : (resolve "a@[s](1)b" [Block.input "1" "s" "@[s](2)"] 1).text = "a@[s](2)b" := by
  decide +kernel

end PromptChain.Template
