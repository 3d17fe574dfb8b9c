import Mathlib.Data.List.TakeWhile
import PromptChain.Template.Mention

/-!
# Mentions stand leftmost

The written form of a mention is a *token* (`Mention.token`). A mention stands in a template
if its token is there, at the bytes that it says (`Mention.StandsIn`). The tokens of a template
may overlap, and the mentions in it are those that are taken from left to right: each is the
first one that starts behind the one before it, and the last one is followed by none
(`Leftmost`). There is one such list for a template.

* `mentionAt?_eq_some_iff`: a token at the start of a text, and nothing else, is read there;
* `Mention.StandsIn.eq_of_start_eq`: a token is known by its start;
* `leftmost_mentionsFrom`: the scan goes on leftmost from wherever it is.
-/

namespace PromptChain.Template

/-- A mention as it is written. -/
def Mention.token (m : Mention) : String := "@[" ++ m.display ++ "](" ++ m.identifier ++ ")"

/-- A mention stands in a template, at the bytes of its token in UTF-8. -/
structure Mention.StandsIn (m : Mention) (template : String) : Prop where
  display_ne : m.display ≠ ""
  display_open : ']' ∉ m.display.toList
  identifier_ne : m.identifier ≠ ""
  identifier_open : ')' ∉ m.identifier.toList
  span : ∃ before after, template = before ++ m.token ++ after ∧
    m.start = before.utf8ByteSize ∧ m.stop = (before ++ m.token).utf8ByteSize

/-- Mentions are taken from left to right, from a byte on. -/
inductive Leftmost (template : String) : Nat → List Mention → Prop
  /-- No token starts there or later. -/
  | nil {start : Nat} :
      (∀ m : Mention, m.StandsIn template → m.start < start) → Leftmost template start []
  /-- The first token that starts there or later is taken, and what follows it is searched. -/
  | cons {start : Nat} {m : Mention} {rest : List Mention} :
      m.StandsIn template → start ≤ m.start →
      (∀ other : Mention, other.StandsIn template → start ≤ other.start → m.start ≤ other.start) →
      Leftmost template m.stop rest → Leftmost template start (m :: rest)

/-! ## Bytes -/

theorem byteLength_append (cs ds : List Char) :
    byteLength (cs ++ ds) = byteLength cs + byteLength ds := by
  induction cs with
  | nil => simp [byteLength]
  | cons c cs ih => rw [List.cons_append, byteLength, byteLength, ih, Nat.add_assoc]

theorem byteLength_pos {cs : List Char} (h : cs ≠ []) : 0 < byteLength cs := by
  cases cs with
  | nil => exact absurd rfl h
  | cons c cs => exact Nat.lt_add_right _ c.utf8Size_pos

theorem utf8ByteSize_eq (s : String) : s.utf8ByteSize = byteLength s.toList := by
  obtain ⟨cs, rfl⟩ : ∃ cs, s = String.ofList cs := ⟨s.toList, String.ofList_toList.symm⟩
  rw [String.toList_ofList]
  induction cs with
  | nil => rfl
  | cons c cs ih =>
    rw [byteLength, ← ih, ← List.singleton_append, String.ofList_append,
      String.utf8ByteSize_append, ← String.singleton_eq_ofList, String.utf8ByteSize_singleton]

/-- Of two places in a text, the one with no fewer bytes before it comes no earlier. -/
theorem exists_between {before here before' here' : List Char}
    (h : before ++ here = before' ++ here') (hle : byteLength before ≤ byteLength before') :
    ∃ between, before' = before ++ between ∧ here = between ++ here' := by
  rcases List.append_eq_append_iff.1 h with ⟨between, hb, hh⟩ | ⟨between, rfl, hh⟩
  · exact ⟨between, hb, hh⟩
  · rw [byteLength_append] at hle
    have hnil : between = [] := by
      by_contra hne
      have := byteLength_pos hne
      omega
    exact ⟨[], by simp [hnil], by simp [hh, hnil]⟩

/-! ## A token at the start of a text -/

theorem after?_eq_some_iff {mark cs rest : List Char} :
    Text.after? mark cs = some rest ↔ cs = mark ++ rest := by
  induction mark generalizing cs with
  | nil => simp [Text.after?]
  | cons m ms ih =>
    cases cs with
    | nil => simp [Text.after?]
    | cons c cs =>
      by_cases hc : m = c
      · simp [Text.after?, hc, ih]
      · simp [Text.after?, hc, Ne.symm hc]

/-- A text ends in one place only, if it ends where a character stands for the first time. -/
theorem eq_of_append_cons {last : Char} {part part' rest rest' : List Char} (h : last ∉ part)
    (h' : last ∉ part') (heq : part ++ last :: rest = part' ++ last :: rest') :
    part = part' ∧ rest = rest' := by
  have hclosed {part : List Char} (h : last ∉ part) (rest : List Char) :
      (part ++ last :: rest).takeWhile (· ≠ last) = part := by
    have hopen : ∀ c ∈ part, decide (c ≠ last) = true :=
      fun c hc => decide_eq_true fun heq => h (heq ▸ hc)
    rw [List.takeWhile_append_of_pos hopen]
    simp
  have hpart : part = part' := by rw [← hclosed h rest, heq, hclosed h' rest']
  subst hpart
  exact ⟨rfl, (List.cons.inj (List.append_cancel_left heq)).2⟩

/-- A text up to a mark is read just if it is there: it is not empty, and the mark begins with
    the first character that is the end of the text. -/
theorem upTo?_eq_some_iff {last : Char} {mark cs text rest : List Char} :
    upTo? last (last :: mark) cs = some (text, rest) ↔
      text ≠ [] ∧ last ∉ text ∧ cs = text ++ (last :: mark ++ rest) := by
  rw [upTo?]
  constructor
  · intro h
    split at h
    next => cases h
    next hne =>
      obtain ⟨rest', hafter, heq⟩ := Option.map_eq_some_iff.1 h
      obtain ⟨rfl, rfl⟩ := Prod.mk.inj heq
      refine ⟨fun hnil => hne (List.isEmpty_iff.2 hnil), fun hmem => ?_, ?_⟩
      · simpa using List.mem_takeWhile_imp hmem
      · rw [← after?_eq_some_iff.1 hafter, List.takeWhile_append_dropWhile]
  · rintro ⟨hne, hlast, rfl⟩
    have hopen : ∀ c ∈ text, decide (c ≠ last) = true :=
      fun c hc => decide_eq_true fun heq => hlast (heq ▸ hc)
    have htake : (text ++ (last :: mark ++ rest)).takeWhile (· ≠ last) = text := by
      rw [List.takeWhile_append_of_pos hopen]
      simp
    have hdrop : (text ++ (last :: mark ++ rest)).dropWhile (· ≠ last) = last :: mark ++ rest := by
      rw [List.dropWhile_append_of_pos hopen]
      simp
    rw [htake, hdrop, if_neg (mt List.isEmpty_iff.1 hne), after?_eq_some_iff.2 rfl]
    rfl

/-- A mention is read at the start of a text just if its token is there. -/
theorem mentionAt?_eq_some_iff {cs display identifier rest : List Char} :
    mentionAt? cs = some (display, identifier, rest) ↔
      (display ≠ [] ∧ ']' ∉ display) ∧ (identifier ≠ [] ∧ ')' ∉ identifier) ∧
        cs = (Piece.mention display identifier).source ++ rest := by
  simp only [mentionAt?, Option.bind_eq_bind, Option.bind_eq_some_iff, Prod.exists,
    Option.pure_def, Option.some.injEq, Prod.mk.injEq, after?_eq_some_iff, upTo?_eq_some_iff]
  constructor
  · rintro ⟨_, rfl, d, _, ⟨hd, hd', rfl⟩, i, _, ⟨hi, hi', rfl⟩, rfl, rfl, rfl⟩
    exact ⟨⟨hd, hd'⟩, ⟨hi, hi'⟩, by simp [Piece.source]⟩
  · rintro ⟨⟨hd, hd'⟩, ⟨hi, hi'⟩, rfl⟩
    refine ⟨_, ?_, display, _, ⟨hd, hd', rfl⟩, identifier, rest, ⟨hi, hi', rfl⟩, rfl, rfl, rfl⟩
    simp [Piece.source]

/-! ## Where mentions stand -/

theorem Mention.toList_token (m : Mention) :
    m.token.toList = (Piece.mention m.display.toList m.identifier.toList).source := by
  simp [Mention.token, Piece.source]

/-- A mention stands in a template just if it is read at some place of the characters. -/
theorem Mention.standsIn_iff {m : Mention} {template : String} :
    m.StandsIn template ↔
      ∃ before here display identifier rest, template.toList = before ++ here ∧
        mentionAt? here = some (display, identifier, rest) ∧
        m = ⟨String.ofList display, String.ofList identifier, byteLength before,
          byteLength before + byteLength (Piece.mention display identifier).source⟩ := by
  constructor
  · rintro ⟨hd, hd', hi, hi', before, after, rfl, hstart, hstop⟩
    refine ⟨before.toList, m.token.toList ++ after.toList, m.display.toList, m.identifier.toList,
      after.toList, by simp, mentionAt?_eq_some_iff.2 ⟨⟨?_, hd'⟩, ⟨?_, hi'⟩, ?_⟩, ?_⟩
    · rwa [Ne, String.toList_eq_nil_iff]
    · rwa [Ne, String.toList_eq_nil_iff]
    · rw [m.toList_token]
    · rw [utf8ByteSize_eq] at hstart hstop
      rw [String.toList_append, byteLength_append, m.toList_token, ← hstart] at hstop
      rw [String.ofList_toList, String.ofList_toList, ← hstart, ← hstop]
  · rintro ⟨before, here, display, identifier, rest, htemplate, hhere, rfl⟩
    obtain ⟨⟨hd, hd'⟩, ⟨hi, hi'⟩, rfl⟩ := mentionAt?_eq_some_iff.1 hhere
    refine ⟨?_, ?_, ?_, ?_, String.ofList before, String.ofList rest, ?_, ?_, ?_⟩
    · simpa using hd
    · simpa using hd'
    · simpa using hi
    · simpa using hi'
    · rw [← String.toList_inj, htemplate]
      simp [Mention.toList_token]
    · simp [utf8ByteSize_eq]
    · simp [utf8ByteSize_eq, Mention.toList_token, byteLength_append]

/-- A token is known by its start. -/
theorem Mention.StandsIn.eq_of_start_eq {m m' : Mention} {template : String}
    (h : m.StandsIn template) (h' : m'.StandsIn template) (hs : m.start = m'.start) : m = m' := by
  obtain ⟨before, here, display, identifier, rest, htemplate, hhere, rfl⟩ := standsIn_iff.1 h
  obtain ⟨before', here', display', identifier', rest', htemplate', hhere', rfl⟩ :=
    standsIn_iff.1 h'
  obtain ⟨between, rfl, rfl⟩ := exists_between (htemplate.symm.trans htemplate') hs.le
  dsimp only at hs
  have hnil : between = [] := by
    by_contra hne
    have := byteLength_pos hne
    rw [byteLength_append] at hs
    omega
  subst hnil
  rw [List.nil_append, hhere', Option.some.injEq, Prod.mk.injEq, Prod.mk.injEq] at hhere
  obtain ⟨rfl, rfl, -⟩ := hhere
  simp

theorem Mention.StandsIn.start_lt_stop {m : Mention} {template : String}
    (h : m.StandsIn template) : m.start < m.stop := by
  obtain ⟨before, here, display, identifier, rest, -, -, rfl⟩ := standsIn_iff.1 h
  exact Nat.lt_add_of_pos_right (byteLength_pos (List.cons_ne_nil _ _))

/-! ## From left to right -/

namespace Leftmost

variable {template : String} {start : Nat} {ms : List Mention}

/-- Where no token starts, the search may go on. -/
theorem of_le {start' : Nat} (hle : start ≤ start')
    (hnone : ∀ m : Mention, m.StandsIn template → start ≤ m.start → start' ≤ m.start)
    (h : Leftmost template start' ms) : Leftmost template start ms := by
  cases h with
  | nil hlast =>
    refine .nil fun m hm => Nat.lt_of_not_le fun hs => ?_
    exact absurd (hnone m hm hs) (Nat.not_le_of_lt (hlast m hm))
  | cons hm hs hfirst hrest =>
    exact .cons hm (hle.trans hs) (fun other ho hs' => hfirst other ho (hnone other ho hs')) hrest

/-- What is taken stands in the template, and not before the start of the search. -/
theorem standsIn (h : Leftmost template start ms) :
    ∀ m ∈ ms, m.StandsIn template ∧ start ≤ m.start := by
  induction h with
  | nil => exact fun _ hm => absurd hm List.not_mem_nil
  | cons hm hs _ _ ih =>
    refine List.forall_mem_cons.2 ⟨⟨hm, hs⟩, fun later hl => ?_⟩
    exact ⟨(ih later hl).1, hs.trans (hm.start_lt_stop.le.trans (ih later hl).2)⟩

/-- The spans are in order and do not overlap. -/
theorem pairwise (h : Leftmost template start ms) :
    ms.Pairwise fun m later => m.stop ≤ later.start := by
  induction h with
  | nil => exact .nil
  | cons _ _ _ hrest ih => exact .cons (fun later hl => (hrest.standsIn later hl).2) ih

/-- There is one list of leftmost mentions. -/
theorem unique {ms' : List Mention} (h : Leftmost template start ms)
    (h' : Leftmost template start ms') : ms = ms' := by
  induction h generalizing ms' with
  | nil hnone =>
    cases h' with
    | nil => rfl
    | cons hm hs => exact absurd (hnone _ hm) (Nat.not_lt_of_le hs)
  | cons hm hs hfirst _ ih =>
    cases h' with
    | nil hnone => exact absurd (hnone _ hm) (Nat.not_lt_of_le hs)
    | cons hm' hs' hfirst' hrest' =>
      obtain rfl := hm.eq_of_start_eq hm' (le_antisymm (hfirst _ hm' hs') (hfirst' _ hm hs))
      rw [ih hrest']

end Leftmost

theorem pieces_of_mentionAt? {cs display identifier rest : List Char}
    (h : mentionAt? cs = some (display, identifier, rest)) :
    pieces cs = .mention display identifier :: pieces rest := by
  rw [pieces]
  split
  next heq =>
    rw [h] at heq
    cases heq
    rfl
  next heq =>
    rw [h] at heq
    cases heq

theorem pieces_cons {c : Char} {cs : List Char} (h : mentionAt? (c :: cs) = none) :
    pieces (c :: cs) = .char c :: pieces cs := by
  rw [pieces]
  split
  next heq =>
    rw [h] at heq
    cases heq
  next => rfl

/-- Where the characters that are left do not begin with a token, none starts before the next
    character. -/
theorem le_start_of_none {template : String} {before rest : List Char} {c : Char}
    (ht : template.toList = before ++ c :: rest) (hnone : mentionAt? (c :: rest) = none)
    {m : Mention} (hm : m.StandsIn template) (hs : byteLength before ≤ m.start) :
    byteLength (before ++ [c]) ≤ m.start := by
  obtain ⟨before', here, display, identifier, rest', ht', hhere, rfl⟩ := m.standsIn_iff.1 hm
  obtain ⟨between, rfl, heq⟩ := exists_between (ht.symm.trans ht') hs
  cases between with
  | nil =>
    rw [List.nil_append] at heq
    rw [heq, hhere] at hnone
    cases hnone
  | cons d between =>
    obtain ⟨rfl, -⟩ := List.cons.inj heq
    simp [byteLength_append, byteLength]

/-- The scan of what is left of a template takes the leftmost mentions from there on. -/
theorem leftmost_mentionsFrom {template : String} {before cs : List Char}
    (ht : template.toList = before ++ cs) :
    Leftmost template (byteLength before) (mentionsFrom (byteLength before) (pieces cs)) := by
  induction cs using pieces.induct generalizing before with
  | case1 cs display identifier rest hcs _ ih =>
    obtain ⟨-, -, heq⟩ := mentionAt?_eq_some_iff.1 hcs
    have hm := Mention.standsIn_iff.2 ⟨before, cs, display, identifier, rest, ht, hcs, rfl⟩
    have hrest := @ih (before ++ (Piece.mention display identifier).source)
      (by rw [ht, heq, List.append_assoc])
    rw [byteLength_append] at hrest
    rw [pieces_of_mentionAt? hcs]
    exact .cons hm le_rfl (fun _ _ hs => hs) hrest
  | case2 hnone =>
    -- A token has at least one character, so it starts before the end.
    rw [pieces]
    refine .nil fun m hm => ?_
    obtain ⟨before', here, display, identifier, rest, ht', hhere, rfl⟩ := m.standsIn_iff.1 hm
    rw [ht, List.append_nil] at ht'
    have hne : here ≠ [] := fun hnil => by simp [hnil, hnone] at hhere
    have := byteLength_pos hne
    rw [ht', byteLength_append]
    exact Nat.lt_add_of_pos_right this
  | case3 c rest hnone ih =>
    have hrest := @ih (before ++ [c]) (by simp [ht])
    rw [pieces_cons hnone]
    refine .of_le ?_ (fun m hm hs => le_start_of_none ht hnone hm hs) ?_
    · simp [byteLength_append]
    · simpa [byteLength_append, mentionsFrom, Piece.source] using hrest

/-- The mentions in a template stand there, in order and without overlap. Each is the first
    one behind the one before it, and behind the last one no token starts. This is true of no
    other list. -/
theorem mentions_leftmost (template : String) :
    (∀ m ∈ mentions template, m.StandsIn template) ∧
    (mentions template).Pairwise (fun m later => m.start < later.start ∧ m.stop ≤ later.start) ∧
    Leftmost template 0 (mentions template) ∧
    ∀ ms, Leftmost template 0 ms → ms = mentions template := by
  have h : Leftmost template (byteLength []) (mentions template) :=
    leftmost_mentionsFrom (List.nil_append _).symm
  refine ⟨fun m hm => (h.standsIn m hm).1, ?_, h, fun ms hms => hms.unique h⟩
  refine h.pairwise.imp_of_mem fun hm _ hle => ⟨?_, hle⟩
  exact (h.standsIn _ hm).1.start_lt_stop.trans_le hle

/-- An opening within a display belongs to the display, and one without an end is no mention. -/
theorem mentions_leftmost_nested :
    mentions "é@[](x)@[@[b](1)@[" = [⟨"@[b", "1", 8, 17⟩] ∧
      Leftmost "é@[](x)@[@[b](1)@[" 0 [⟨"@[b", "1", 8, 17⟩] := by
  have h : mentions "é@[](x)@[@[b](1)@[" = [⟨"@[b", "1", 8, 17⟩] := by decide +kernel
  exact ⟨h, h ▸ (mentions_leftmost _).2.2.1⟩

end PromptChain.Template
