import PromptChain.Proofs.Extraction

/-!
# What is found in prose

The text of an object is found in whatever prose it stands, also in a fence
(`Answer.object_found`). The text of a list is not always: the part between braces is looked at
before the one between brackets. If the first brace of the list opens an object and the last one
closes it, this object is found in place of the list that it stands in (`Answer.BracesHold`). In
all other cases the list is found (`Answer.list_found_iff`): it may hold no object, or two side by
side, or there may be no prose around it.
-/

namespace PromptChain

namespace Answer

/-- A value is found in a text. -/
def Finds (content : String) (v : Json) : Prop := (Extraction.ofContent content).value? = some v

theorem finds_iff {content : String} {v : Json} : Finds content v ↔ extract? content = some v :=
  Iff.rfl

/-! ## Objects -/

/-- A text is kept as it is. The text of an object is found in it among prose, and in a fence
    among prose, whatever stands in its strings. -/
theorem object_found {p t s : String} {members : List (String × Json)}
    (hfirst : t.toList.head? = some '\x7b') (hlast : t.toList.getLast? = some '\x7d')
    (ht : Json.parse t = .ok (.object members)) (hp : IsProse p.toList) (hs : IsProse s.toList) :
    (∀ content, (Extraction.ofContent content).raw = content) ∧
      Finds (p ++ "```json\n" ++ t ++ "\n```" ++ s) (.object members) ∧
      Finds (p ++ "```\n" ++ t ++ "\n```" ++ s) (.object members) ∧
      (¬fence <:+: t.toList → Finds (p ++ t ++ s) (.object members)) := by
  have hfinds {content : String} (hwraps : Wraps t.toList content.toList) :
      Finds content (.object members) :=
    finds_iff.2 (extract?_of_wraps hfirst hlast ht hwraps)
  refine ⟨fun _ => rfl, hfinds ?_, hfinds ?_, fun hfence => hfinds ?_⟩
  · have hwraps := @Wraps.fenced t.toList _ _ "json".toList hp hs (.inr rfl)
    simpa [fence] using hwraps
  · have hwraps := @Wraps.fenced t.toList _ _ [] hp hs (.inl rfl)
    simpa [fence] using hwraps
  · rw [String.toList_append, String.toList_append]
    exact .bare hp hs hfence

/-- An object with a fence, braces and brackets in a string, in a fence that is marked. -/
theorem object_found_nested :
    let t := "\x7b\"a\": \"```json \x7b]\x7d ```\"\x7d"
    t.toList.head? = some '\x7b' ∧ t.toList.getLast? = some '\x7d' ∧
      Json.parse t = .ok (.object [("a", .string "```json \x7b]\x7d ```")]) ∧
      IsProse "Sure:\n".toList ∧ IsProse " Done.".toList ∧
      Finds ("Sure:\n" ++ "```json\n" ++ t ++ "\n```" ++ " Done.")
        (.object [("a", .string "```json \x7b]\x7d ```")]) := by
  intro t
  have hfirst : t.toList.head? = some '\x7b' := by decide +kernel
  have hlast : t.toList.getLast? = some '\x7d' := by decide +kernel
  have ht : Json.parse t = .ok (.object [("a", .string "```json \x7b]\x7d ```")]) := by
    decide +kernel
  have hp : IsProse "Sure:\n".toList := by decide +kernel
  have hs : IsProse " Done.".toList := by decide +kernel
  exact ⟨hfirst, hlast, ht, hp, hs, (object_found hfirst hlast ht hp hs).2.1⟩

/-! ## Lists -/

/-- The braces of a text hold an object: its text reaches from the first one that opens to the last
    one that closes. -/
def BracesHold (t : List Char) (w : Json) : Prop :=
  ∃ before part after, t = before ++ part ++ after ∧ '\x7b' ∉ before ∧ '\x7d' ∉ after ∧
    part.head? = some '\x7b' ∧ part.getLast? = some '\x7d' ∧ Json.parseChars part = .ok w

theorem bracesHold_iff {t : List Char} {w : Json} :
    BracesHold t w ↔ (Text.widest? '\x7b' '\x7d' t).bind value? = some w := by
  simp only [BracesHold, Option.bind_eq_some_iff, Text.widest?_eq_some_iff, value?_eq_some_iff]
  constructor
  · rintro ⟨before, part, after, ht, hbefore, hafter, hfirst, hlast, hw⟩
    exact ⟨part, ⟨before, after, ht, hbefore, hafter, hfirst, hlast⟩, hw⟩
  · rintro ⟨part, ⟨before, after, ht, hbefore, hafter, hfirst, hlast⟩, hw⟩
    exact ⟨before, part, after, ht, hbefore, hafter, hfirst, hlast, hw⟩

/-- What the braces of a text hold is an object. -/
theorem BracesHold.exists_object {t : List Char} {w : Json} (h : BracesHold t w) :
    ∃ members, w = .object members := by
  obtain ⟨before, part, after, -, -, -, hfirst, -, hw⟩ := h
  obtain ⟨rest, rfl⟩ := List.head?_eq_some_iff.1 hfirst
  exact Json.exists_object_of_parseChars hw

/-- The braces hold no object if another brace closes behind the object that is opened first. -/
theorem not_bracesHold_of_beside {before part after : List Char} {v w : Json}
    (hbefore : '\x7b' ∉ before) (hfirst : part.head? = some '\x7b')
    (hv : Json.parseChars part = .ok v) (hafter : '\x7d' ∈ after) :
    ¬BracesHold (before ++ part ++ after) w := by
  rintro ⟨before', part', after', heq, hbefore', hafter', hfirst', -, hw⟩
  obtain ⟨rest, rfl⟩ := List.head?_eq_some_iff.1 hfirst
  obtain ⟨rest', rfl⟩ := List.head?_eq_some_iff.1 hfirst'
  rw [List.append_assoc, List.append_assoc, List.cons_append, List.cons_append] at heq
  obtain ⟨rfl, hrest⟩ := Template.eq_of_append_cons hbefore hbefore' heq
  rcases List.append_eq_append_iff.1 hrest with ⟨between, rfl, rfl⟩ | ⟨between, rfl, rfl⟩
  · -- The text of the first object would go on with a brace.
    obtain ⟨-, hblank⟩ := Json.parseChars_append (by decide) hv hw
    have hclose : '\x7d' ∈ between := (List.mem_append.1 hafter).resolve_right hafter'
    have hspace := List.dropWhile_eq_nil_iff.1 hblank _ hclose
    cases hspace
  · exact hafter' (List.mem_append_right _ hafter)

/-- A text that begins and ends with marks is trimmed to itself and the prose next to it. -/
theorem trim_list {p t s : List Char} (hfirst : t.head? = some '[')
    (hlast : t.getLast? = some ']') :
    Text.trim (p ++ t ++ s) =
      p.dropWhile Text.isBlank ++ t ++ (s.reverse.dropWhile Text.isBlank).reverse := by
  have hne : t ≠ [] := by
    rintro rfl
    cases hfirst
  exact Text.trim_append (notBlank_of_eq_some hfirst (by decide))
    (notBlank_of_eq_some hlast (by decide)) hne

/-- With prose around it, the text of a list is not that of a value. -/
theorem value?_list_of_prose {p t s : List Char} {v : Json} (hp : IsProse p)
    (hfirst : t.head? = some '[') (ht : Json.parseChars t = .ok v)
    (hprose : ¬∀ c ∈ p ++ s, Text.isBlank c = true) :
    value? (p.dropWhile Text.isBlank ++ t ++ (s.reverse.dropWhile Text.isBlank).reverse) =
      none := by
  obtain ⟨rest, rfl⟩ := List.head?_eq_some_iff.1 hfirst
  by_cases hblank : p.dropWhile Text.isBlank = []
  · -- What follows the list does not end with a blank.
    rw [hblank, List.nil_append]
    cases hvalue : value? ('[' :: rest ++ (s.reverse.dropWhile Text.isBlank).reverse) with
    | none => rfl
    | some w =>
      obtain ⟨-, hspace⟩ := Json.parseChars_append (by decide) ht (value?_eq_some_iff.1 hvalue)
      have hend : s.reverse.dropWhile Text.isBlank = [] := by
        cases hlast : s.reverse.dropWhile Text.isBlank with
        | nil => rfl
        | cons c before =>
          have hc := List.dropWhile_eq_nil_iff.1 hspace c (by simp [hlast])
          have hblank' := isBlank_of_dropWhile hlast
          rw [isBlank_of_isSpace hc] at hblank'
          cases hblank'
      refine absurd (fun c hc => ?_) hprose
      rcases List.mem_append.1 hc with hc | hc
      · exact List.dropWhile_eq_nil_iff.1 hblank c hc
      · exact List.dropWhile_eq_nil_iff.1 hend c (List.mem_reverse.2 hc)
  · rw [List.append_assoc]
    exact value?_of_prose (x := '[') hp hblank (by simp) (by decide)

/-- A list that has only blanks around it is found. -/
theorem extract?_list_of_blank {p t s : String} {v : Json} (hfirst : t.toList.head? = some '[')
    (hlast : t.toList.getLast? = some ']') (ht : Json.parse t = .ok v)
    (hblank : ∀ c ∈ p.toList ++ s.toList, Text.isBlank c = true) :
    extract? (p ++ t ++ s) = some v := by
  have hp : p.toList.dropWhile Text.isBlank = [] :=
    List.dropWhile_eq_nil_iff.2 fun c hc => hblank c (List.mem_append_left _ hc)
  have hs : s.toList.reverse.dropWhile Text.isBlank = [] :=
    List.dropWhile_eq_nil_iff.2 fun c hc =>
      hblank c (List.mem_append_right _ (List.mem_reverse.1 hc))
  rw [extract?, String.toList_append, String.toList_append, trim_list hfirst hlast,
    findSome?_candidates_eq, hp, hs, List.nil_append, List.reverse_nil, List.append_nil,
    value?_eq_some_iff.2 ht]
  rfl

/-- In prose, what the braces of a list hold is found in its place. -/
theorem extract?_list_of_prose {p t s : String} {v : Json} (hfirst : t.toList.head? = some '[')
    (hlast : t.toList.getLast? = some ']') (ht : Json.parse t = .ok v)
    (hfence : ¬fence <:+: t.toList) (hp : IsProse p.toList) (hs : IsProse s.toList)
    (hprose : ¬∀ c ∈ p.toList ++ s.toList, Text.isBlank c = true) :
    extract? (p ++ t ++ s) =
      ((Text.widest? '\x7b' '\x7d' t.toList).bind value?).or (some v) := by
  have hp' := hp.dropWhile Text.isBlank
  have hs' := hs.dropWhileEnd Text.isBlank
  rw [extract?, String.toList_append, String.toList_append, trim_list hfirst hlast,
    findSome?_candidates_eq, value?_list_of_prose hp hfirst ht hprose,
    fenced?_bare hp' hs' hfence,
    Text.widest?_around (hp'.notMem (by decide)) (hs'.notMem (by decide)) (hs'.notMem (by decide)),
    Text.widest?_append (hp'.notMem (by decide)) (hs'.notMem (by decide)) hfirst hlast,
    Option.bind_some, value?_eq_some_iff.2 ht]
  rfl

/-- The text of a list is found in prose just if its braces do not hold an object. Otherwise this
    object is found. -/
theorem list_found_iff {p t s : String} {items : List Json} (hfirst : t.toList.head? = some '[')
    (hlast : t.toList.getLast? = some ']') (ht : Json.parse t = .ok (.array items))
    (hfence : ¬fence <:+: t.toList) (hp : IsProse p.toList) (hs : IsProse s.toList) :
    (Finds (p ++ t ++ s) (.array items) ↔
      (∀ c ∈ p.toList ++ s.toList, Text.isBlank c = true) ∨ ∀ w, ¬BracesHold t.toList w) ∧
    (∀ w, BracesHold t.toList w → (∃ c ∈ p.toList ++ s.toList, Text.isBlank c = false) →
      Finds (p ++ t ++ s) w ∧ ∃ members, w = .object members) ∧
    -- So it is found if no brace opens in it, or another one closes behind its first object.
    ('\x7b' ∉ t.toList → Finds (p ++ t ++ s) (.array items)) ∧
    (∀ before part after w, t.toList = before ++ part ++ after → '\x7b' ∉ before →
      part.head? = some '\x7b' → Json.parseChars part = .ok w → '\x7d' ∈ after →
      Finds (p ++ t ++ s) (.array items)) := by
  simp only [finds_iff]
  by_cases hblank : ∀ c ∈ p.toList ++ s.toList, Text.isBlank c = true
  · have hfound := extract?_list_of_blank hfirst hlast ht hblank
    refine ⟨⟨fun _ => .inl hblank, fun _ => hfound⟩, ?_, fun _ => hfound,
      fun _ _ _ _ _ _ _ _ _ => hfound⟩
    rintro w - ⟨c, hc, hnot⟩
    rw [hblank c hc] at hnot
    cases hnot
  · have hfound := extract?_list_of_prose hfirst hlast ht hfence hp hs hblank
    have hlist (hnone : ∀ w, ¬BracesHold t.toList w) :
        extract? (p ++ t ++ s) = some (.array items) := by
      have hbraces : (Text.widest? '\x7b' '\x7d' t.toList).bind value? = none :=
        Option.eq_none_iff_forall_ne_some.2 fun w hw => hnone w (bracesHold_iff.2 hw)
      rw [hfound, hbraces, Option.none_or]
    have hobject {w : Json} (hw : BracesHold t.toList w) : extract? (p ++ t ++ s) = some w := by
      rw [hfound, bracesHold_iff.1 hw, Option.some_or]
    refine ⟨⟨fun h => .inr fun w hw => ?_, fun h => hlist (h.resolve_left hblank)⟩,
      fun w hw _ => ⟨hobject hw, hw.exists_object⟩, fun hnone => hlist ?_, ?_⟩
    · obtain ⟨members, rfl⟩ := hw.exists_object
      cases Option.some.inj (h.symm.trans (hobject hw))
    · rintro w ⟨before, part, after, hsplit, -, -, hbrace, -, -⟩
      obtain ⟨rest, rfl⟩ := List.head?_eq_some_iff.1 hbrace
      exact hnone (by simp [hsplit])
    · intro before part after v hsplit hbefore hbrace hv hafter
      refine hlist fun w => ?_
      rw [hsplit]
      exact not_bracesHold_of_beside hbefore hbrace hv hafter

/-- Two objects side by side, with braces in a string. -/
theorem list_found_beside :
    let t := "[\x7b\"a\": \"\x7d\"\x7d, \x7b\"b\": []\x7d]"
    let items : List Json := [.object [("a", .string "\x7d")], .object [("b", .array [])]]
    t.toList.head? = some '[' ∧ t.toList.getLast? = some ']' ∧ Json.parse t = .ok (.array items) ∧
      ¬fence <:+: t.toList ∧ IsProse "Sure: ".toList ∧ IsProse " Done.".toList ∧
      Finds ("Sure: " ++ t ++ " Done.") (.array items) := by
  intro t items
  have hfirst : t.toList.head? = some '[' := by decide +kernel
  have hlast : t.toList.getLast? = some ']' := by decide +kernel
  have ht : Json.parse t = .ok (.array items) := by decide +kernel
  have hfence : ¬fence <:+: t.toList := by decide +kernel
  have hp : IsProse "Sure: ".toList := by decide +kernel
  have hs : IsProse " Done.".toList := by decide +kernel
  have hobject : Json.parseChars "\x7b\"a\": \"\x7d\"\x7d".toList =
      .ok (.object [("a", .string "\x7d")]) := by
    decide +kernel
  obtain ⟨-, -, -, hbeside⟩ := list_found_iff hfirst hlast ht hfence hp hs
  exact ⟨hfirst, hlast, ht, hfence, hp, hs,
    hbeside ['['] _ ", \x7b\"b\": []\x7d]".toList _ (by decide +kernel) (by decide)
      (by decide +kernel) hobject (by decide +kernel)⟩

/-- The only object of a list is found in place of the list. -/
theorem list_lost_to_object :
    let t := "[\x7b\"a\": \"b\"\x7d]"
    Json.parse t = .ok (.array [.object [("a", .string "b")]]) ∧ ¬fence <:+: t.toList ∧
      IsProse "Sure: ".toList ∧ IsProse ".".toList ∧
      Finds ("Sure: " ++ t ++ ".") (.object [("a", .string "b")]) ∧
      ¬Finds ("Sure: " ++ t ++ ".") (.array [.object [("a", .string "b")]]) := by
  intro t
  have hobject : Finds ("Sure: " ++ t ++ ".") (.object [("a", .string "b")]) := by
    rw [finds_iff]
    decide +kernel
  refine ⟨by decide +kernel, by decide +kernel, by decide +kernel, by decide +kernel, hobject,
    fun hlist => ?_⟩
  cases Option.some.inj (hobject.symm.trans hlist)

end Answer

end PromptChain
