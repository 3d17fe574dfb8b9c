import Mathlib.Data.List.DropRight
import Mathlib.Data.List.Infix
import PromptChain.Answer.Extract
import PromptChain.Proofs.Locality
import PromptChain.Proofs.Mentions

/-!
# A value is found in prose

A model may say something before and after the value it was asked for, and may put the value
into a fence (`Answer.Wraps`). Whatever it says, the text of the value is one of those in which a
value is looked for, the widest one between braces, and no text that is tried before it is that
of another value (`Answer.extract?_of_wraps`): the whole text begins like prose, or with the text
of the value, and what stands in a fence is a piece of that text, if there are fences inside it.
-/

namespace PromptChain

namespace Text

/-! ## Trimming and widest parts -/

theorem dropWhile_append_of_head {q : Char → Bool} {p cs : List Char}
    (h : ∀ c ∈ cs.head?, q c = false) : (p ++ cs).dropWhile q = p.dropWhile q ++ cs := by
  rw [List.dropWhile_append]
  split
  next hempty =>
    rw [List.isEmpty_iff.1 hempty]
    cases cs with
    | nil => rfl
    | cons c cs => exact List.dropWhile_cons_of_neg (by simp [h c rfl])
  next => rfl

theorem dropWhileEnd_append_of_last {q : Char → Bool} {cs s : List Char}
    (h : ∀ c ∈ cs.getLast?, q c = false) :
    ((cs ++ s).reverse.dropWhile q).reverse = cs ++ (s.reverse.dropWhile q).reverse := by
  rw [List.reverse_append, dropWhile_append_of_head (by rwa [List.head?_reverse]),
    List.reverse_append, List.reverse_reverse]

/-- A text is trimmed only as far as it is blank. -/
theorem trim_append {p t s : List Char} (hfirst : ∀ c ∈ t.head?, isBlank c = false)
    (hlast : ∀ c ∈ t.getLast?, isBlank c = false) (hne : t ≠ []) :
    trim (p ++ t ++ s) =
      p.dropWhile isBlank ++ t ++ (s.reverse.dropWhile isBlank).reverse := by
  have hstart : ∀ c ∈ (t ++ s).head?, isBlank c = false := by
    rwa [List.head?_append_of_ne_nil _ hne]
  have hend : ∀ c ∈ (p.dropWhile isBlank ++ t).getLast?, isBlank c = false := by
    rwa [List.getLast?_append_of_ne_nil _ hne]
  rw [trim, List.append_assoc, dropWhile_append_of_head hstart, ← List.append_assoc,
    dropWhileEnd_append_of_last hend]

/-- Between prose the widest part that is opened and closed is the text that is. -/
theorem widest?_append {opening closing : Char} {p t s : List Char} (hp : opening ∉ p)
    (hs : closing ∉ s) (hfirst : t.head? = some opening) (hlast : t.getLast? = some closing) :
    widest? opening closing (p ++ t ++ s) = some t := by
  have hne : t ≠ [] := by
    rintro rfl
    cases hfirst
  have hstart : ∀ c ∈ (t ++ s).head?, decide (c ≠ opening) = false := by
    rw [List.head?_append_of_ne_nil _ hne, hfirst]
    simp
  have hprose : p.dropWhile (· ≠ opening) = [] :=
    List.dropWhile_eq_nil_iff.2 fun c hc => decide_eq_true fun heq => hp (heq ▸ hc)
  have hrest : s.reverse.dropWhile (· ≠ closing) = [] :=
    List.dropWhile_eq_nil_iff.2 fun c hc =>
      decide_eq_true fun heq => hs (heq ▸ List.mem_reverse.1 hc)
  have hend : ∀ c ∈ t.getLast?, decide (c ≠ closing) = false := by
    rw [hlast]
    simp
  rw [widest?, List.append_assoc, dropWhile_append_of_head hstart, hprose, List.nil_append,
    dropWhileEnd_append_of_last hend, hrest, List.reverse_nil, List.append_nil]
  cases t with
  | nil => exact absurd rfl hne
  | cons c t => rfl

section

variable {opening closing : Char}

/-- What is left of a text from a character on is behind a text without it. -/
theorem exists_of_dropWhile {x c : Char} {cs rest : List Char}
    (h : cs.dropWhile (· ≠ x) = c :: rest) :
    c = x ∧ ∃ before, cs = before ++ c :: rest ∧ x ∉ before := by
  have hc := List.head?_dropWhile_not (· ≠ x) cs
  rw [h] at hc
  refine ⟨by simpa using hc, cs.takeWhile (· ≠ x), ?_, fun hmem => ?_⟩
  · rw [← h, List.takeWhile_append_dropWhile]
  · simpa using List.mem_takeWhile_imp hmem

/-- The widest part begins with the first character that opens, and ends with the last one that
    closes. -/
theorem widest?_eq_some_iff {cs part : List Char} :
    widest? opening closing cs = some part ↔
      ∃ before after, cs = before ++ part ++ after ∧ opening ∉ before ∧ closing ∉ after ∧
        part.head? = some opening ∧ part.getLast? = some closing := by
  constructor
  · intro h
    obtain ⟨started, hstarted⟩ : ∃ started, cs.dropWhile (· ≠ opening) = started := ⟨_, rfl⟩
    obtain ⟨ended, hended⟩ : ∃ ended, started.reverse.dropWhile (· ≠ closing) = ended := ⟨_, rfl⟩
    rw [widest?, hstarted, hended] at h
    cases ended with
    | nil => cases h
    | cons c ended =>
      obtain ⟨rfl, later, hlater, hclosing⟩ := exists_of_dropWhile hended
      obtain rfl : (c :: ended).reverse = part := by
        split at h
        · cases h
        · exact Option.some.inj h
      have hsplit : started = (c :: ended).reverse ++ later.reverse := by
        rw [← started.reverse_reverse, hlater, List.reverse_append]
      cases started with
      | nil => simp at hsplit
      | cons d started =>
        obtain ⟨rfl, before, rfl, hopening⟩ := exists_of_dropWhile hstarted
        have hfirst := congrArg List.head? hsplit
        rw [List.head?_append_of_ne_nil _ (by simp)] at hfirst
        exact ⟨before, later.reverse, by rw [hsplit, List.append_assoc], hopening,
          by simpa using hclosing, hfirst.symm, by simp⟩
  · rintro ⟨before, after, rfl, hbefore, hafter, hfirst, hlast⟩
    exact widest?_append hbefore hafter hfirst hlast

/-- What stands around a text without the characters that open and close does not matter. -/
theorem widest?_around {before after : List Char} (hbefore : opening ∉ before)
    (hopening : opening ∉ after) (hclosing : closing ∉ after) (cs : List Char) :
    widest? opening closing (before ++ cs ++ after) = widest? opening closing cs := by
  have hne {x : Char} {text : List Char} (h : x ∉ text) : ∀ c ∈ text, decide (c ≠ x) = true :=
    fun c hc => decide_eq_true fun heq => h (heq ▸ hc)
  rw [widest?, widest?, List.append_assoc, List.dropWhile_append_of_pos (hne hbefore),
    List.dropWhile_append]
  by_cases hnone : (cs.dropWhile (· ≠ opening)).isEmpty = true
  · rw [if_pos hnone, List.isEmpty_iff.1 hnone, List.dropWhile_eq_nil_iff.2 (hne hopening)]
  · rw [if_neg hnone, List.reverse_append,
      List.dropWhile_append_of_pos (hne (List.mem_reverse.not.2 hclosing))]

end

/-! ## Cuts -/

theorem cut?_cons {mark : List Char} {c : Char} {cs : List Char}
    (h : after? mark (c :: cs) = none) :
    cut? mark (c :: cs) = (cut? mark cs).map fun (part, rest) => (c :: part, rest) := by
  rw [cut?, h]

theorem cut?_of_after? {mark cs rest : List Char} (h : after? mark cs = some rest) :
    cut? mark cs = some ([], rest) := by
  cases cs with
  | nil => rw [cut?, h]; rfl
  | cons c cs => rw [cut?, h]

theorem cut?_eq_none {mark cs : List Char} (h : ¬mark <:+: cs) : cut? mark cs = none := by
  have hafter (rest : List Char) (hrest : rest <:+ cs) : after? mark rest = none := by
    rw [Option.eq_none_iff_forall_not_mem]
    intro later hlater
    rw [Option.mem_def, Template.after?_eq_some_iff] at hlater
    exact h ((hlater ▸ List.prefix_append mark later).isInfix.trans hrest.isInfix)
  induction cs with
  | nil => rw [cut?, hafter _ List.suffix_rfl]; rfl
  | cons c cs ih =>
    have hrest : ¬mark <:+: cs := fun hinside => h (hinside.trans (List.suffix_cons c cs).isInfix)
    rw [cut?_cons (hafter _ List.suffix_rfl),
      ih hrest fun rest hsuffix => hafter rest (hsuffix.trans (List.suffix_cons c cs))]
    rfl

/-- A text is cut at the mark, or before. -/
theorem exists_cut? (mark before rest : List Char) :
    ∃ before' rest', cut? mark (before ++ mark ++ rest) = some (before', rest') ∧
      before' <+: before := by
  induction before with
  | nil => exact ⟨[], rest, cut?_of_after? (Template.after?_eq_some_iff.2 rfl), List.prefix_rfl⟩
  | cons c before ih =>
    rw [List.cons_append, List.cons_append]
    cases hafter : after? mark (c :: (before ++ mark ++ rest)) with
    | some rest' => exact ⟨[], rest', cut?_of_after? hafter, List.nil_prefix⟩
    | none =>
      obtain ⟨before', rest', hcut, hfront⟩ := ih
      refine ⟨c :: before', rest', ?_, List.cons_prefix_cons.2 ⟨rfl, hfront⟩⟩
      rw [cut?_cons hafter, hcut]
      rfl

/-- A text is cut no earlier than where a character of the mark stands. -/
theorem cut?_append {m : Char} {mark before : List Char} (h : m ∉ before) (cs : List Char) :
    cut? (m :: mark) (before ++ cs) =
      (cut? (m :: mark) cs).map fun (part, rest) => (before ++ part, rest) := by
  induction before with
  | nil =>
    rw [List.nil_append]
    cases cut? (m :: mark) cs <;> rfl
  | cons c before ih =>
    rw [List.mem_cons, not_or] at h
    have hafter : after? (m :: mark) (c :: (before ++ cs)) = none := by rw [after?, if_neg h.1]
    rw [List.cons_append, cut?_cons hafter, ih h.2, Option.map_map]
    rfl

end Text

namespace Answer

/-- The characters that prose around a value is free of. -/
def marks : List Char := ['\x7b', '\x7d', '[', ']', '"', '`']

/-- A text without marks. -/
def IsProse (cs : List Char) : Prop := ∀ c ∈ cs, c ∉ marks

instance (cs : List Char) : Decidable (IsProse cs) :=
  List.decidableBAll (fun c => c ∉ marks) cs

/-- A text that has another one in it, as it is or in a fence, with prose around it. A text with
    fences in it comes in a fence. -/
inductive Wraps (t : List Char) : List Char → Prop
  | bare {p s : List Char} : IsProse p → IsProse s → ¬fence <:+: t → Wraps t (p ++ t ++ s)
  | fenced {p s label : List Char} : IsProse p → IsProse s → label = [] ∨ label = "json".toList →
      Wraps t (p ++ (fence ++ label ++ '\n' :: t ++ '\n' :: fence) ++ s)

theorem IsProse.notMem {cs : List Char} (h : IsProse cs) {c : Char} (hc : c ∈ marks) : c ∉ cs :=
  fun hmem => h c hmem hc

/-- A piece from the front of the text of a value is not the text of another value. -/
theorem value?_of_prefix {c : Char} {rest part : List Char} {w : Json}
    (hc : Json.opensValue c = true) (h : Json.parseChars (c :: rest) = .ok w)
    (hfront : part <+: c :: rest) : value? part = none ∨ value? part = some w := by
  rw [value?]
  cases hpart : Json.parseChars part with
  | error e => exact .inl rfl
  | ok v =>
    obtain ⟨u, hu⟩ := hfront
    cases part with
    | nil => cases hpart
    | cons c' part =>
      obtain ⟨rfl, rfl⟩ := List.cons.inj hu
      obtain ⟨rfl, -⟩ := Json.parseChars_append hc hpart h
      exact .inr rfl

theorem value?_append {c : Char} {rest : List Char} {w : Json}
    (hc : Json.opensValue c = true) (h : Json.parseChars (c :: rest) = .ok w) (u : List Char) :
    value? (c :: rest ++ u) = none ∨ value? (c :: rest ++ u) = some w := by
  rw [value?]
  cases hu : Json.parseChars (c :: rest ++ u) with
  | error e => exact .inl rfl
  | ok v =>
    obtain ⟨rfl, -⟩ := Json.parseChars_append hc h hu
    exact .inr rfl

theorem isBlank_of_isSpace {c : Char} (h : Json.isSpace c = true) : Text.isBlank c = true := by
  simp only [Json.isSpace, Bool.or_eq_true, decide_eq_true_eq] at h
  rcases h with ((rfl | rfl) | rfl) | rfl <;> decide

theorem isScalar_of_opensValue {c : Char} (h : Json.opensValue c = true) :
    Json.isScalar c = false := by
  simp only [Json.opensValue, List.contains_iff_mem, List.mem_cons, List.not_mem_nil,
    or_false] at h
  rcases h with rfl | rfl | rfl <;> decide

/-- A text that begins like prose and has the text of an object or a list in it is not the text of
    a value. -/
theorem value?_eq_none {c x : Char} {rest : List Char} (hblank : Text.isBlank c = false)
    (hc : Json.opensValue c = false) (hx : x ∈ c :: rest) (hopens : Json.opensValue x = true) :
    value? (c :: rest) = none := by
  have hspace : Json.isSpace c = false :=
    Bool.eq_false_iff.2 fun h => by simp [isBlank_of_isSpace h] at hblank
  rw [value?]
  cases h : Json.parseChars (c :: rest) with
  | error e => rfl
  | ok v =>
    have hscalar := Json.isScalar_of_parseChars hspace hc h x hx
    rw [isScalar_of_opensValue hopens] at hscalar
    cases hscalar

/-- The last piece of prose is not blank at its start. -/
theorem isBlank_of_dropWhile {p rest : List Char} {c : Char}
    (h : p.dropWhile Text.isBlank = c :: rest) : Text.isBlank c = false := by
  have hhead := List.head?_dropWhile_not Text.isBlank p
  rw [h] at hhead
  simpa using hhead

theorem notBlank_of_eq_some {c? : Option Char} {c : Char} (h : c? = some c)
    (hc : Text.isBlank c = false) : ∀ x ∈ c?, Text.isBlank x = false := by
  rintro x hx
  rw [h] at hx
  cases hx
  exact hc

/-- What stands in a fence is a piece from the front of the text that was put there. -/
theorem prefix_trim {before t : List Char} (hfirst : ∀ c ∈ t.head?, Text.isBlank c = false)
    (hlast : ∀ c ∈ t.getLast?, Text.isBlank c = false) (hne : t ≠ [])
    (h : before <+: '\n' :: t ++ ['\n']) : Text.trim before <+: t := by
  cases before with
  | nil => exact List.nil_prefix
  | cons c before =>
    rw [List.cons_append, List.cons_prefix_cons] at h
    obtain ⟨rfl, h⟩ := h
    have htrim : Text.trim ('\n' :: before) = Text.trim before := rfl
    rw [htrim]
    rcases List.prefix_concat_iff.1 h with rfl | h
    · have hend : Text.trim (t ++ ['\n']) = t ++ [] :=
        @Text.trim_append [] t ['\n'] hfirst hlast hne
      rw [hend, List.append_nil]
    · refine List.IsPrefix.trans ?_ h
      have hstart : before.dropWhile Text.isBlank = before := by
        cases before with
        | nil => rfl
        | cons c before =>
          obtain ⟨rest, rfl⟩ := h
          exact List.dropWhile_cons_of_neg (by simp [hfirst c rfl])
      rw [Text.trim, hstart]
      exact List.rdropWhile_prefix Text.isBlank before

/-- The value is the one in the first of the places that has one. -/
theorem findSome?_candidates_eq (cs : List Char) :
    (candidates cs).findSome? value? =
      (value? cs).or (((fenced? cs).bind value?).or
        (((Text.widest? '\x7b' '\x7d' cs).bind value?).or
          ((Text.widest? '[' ']' cs).bind value?))) := by
  have hcons (place? : Option (List Char)) (places : List (Option (List Char))) :
      ((place? :: places).filterMap id).findSome? value? =
        (place?.bind value?).or ((places.filterMap id).findSome? value?) := by
    cases place? with
    | none => rfl
    | some place =>
      change (place :: places.filterMap id).findSome? value? = _
      rw [List.findSome?_cons, Option.bind_some]
      cases value? place <;> rfl
  rw [candidates, hcons, hcons, hcons, hcons, List.filterMap_nil, List.findSome?_nil,
    Option.or_none, Option.bind_some]

theorem value?_eq_some_iff {cs : List Char} {v : Json} :
    value? cs = some v ↔ Json.parseChars cs = .ok v := by
  rw [value?]
  cases Json.parseChars cs <;> simp [Except.toOption]

/-- If the places that are tried first hold no other value, the value is the one of the widest
    part between braces. -/
theorem findSome?_candidates {cs t : List Char} {w : Json}
    (hwhole : value? cs = none ∨ value? cs = some w)
    (hfenced : ∀ part, fenced? cs = some part → value? part = none ∨ value? part = some w)
    (hwidest : Text.widest? '\x7b' '\x7d' cs = some t) (ht : value? t = some w) :
    (candidates cs).findSome? value? = some w := by
  have hinside : (fenced? cs).bind value? = none ∨ (fenced? cs).bind value? = some w := by
    cases hpart : fenced? cs with
    | none => exact .inl rfl
    | some part => exact hfenced part hpart
  rw [findSome?_candidates_eq, hwidest, Option.bind_some, ht]
  rcases hwhole with h | h <;> rcases hinside with h' | h' <;> rw [h, h'] <;> rfl

/-- In a text without fences nothing stands in one. -/
theorem fenced?_bare {p t s : List Char} (hp : IsProse p) (hs : IsProse s) (h : ¬fence <:+: t) :
    fenced? (p ++ t ++ s) = none := by
  have hcut : Text.cut? fence (t ++ s) = none := by
    refine Text.cut?_eq_none ?_
    rintro ⟨before, after, heq⟩
    rcases List.append_eq_append_iff.1 heq with ⟨rest, ht, -⟩ | ⟨rest, hfence, hrest⟩
    · exact h ⟨before, rest, ht.symm⟩
    · -- The last character of the fence would be one of the prose.
      cases rest with
      | nil => exact h ⟨before, [], hfence.trans (List.append_nil t) ▸ List.append_nil _⟩
      | cons c rest =>
        have hlast : (t ++ c :: rest).getLast? = some '`' := by
          rw [← hfence]
          exact List.getLast?_append_of_ne_nil _ (by decide)
        rw [List.getLast?_append_of_ne_nil _ (List.cons_ne_nil c rest)] at hlast
        have hmem : '`' ∈ s := by
          rw [hrest]
          exact List.mem_append_left _ (List.mem_of_getLast? hlast)
        exact hs.notMem (by decide) hmem
  rw [fenced?, List.append_assoc, fence, Text.cut?_append (hp.notMem (by decide)), ← fence, hcut]
  rfl

/-- In a fence stands a piece from the front of what was put there, all of it unless it has fences
    in it. -/
theorem fenced?_fenced {p t s label : List Char} (hp : IsProse p)
    (hlabel : label = [] ∨ label = "json".toList) :
    ∃ before, fenced? (p ++ (fence ++ label ++ '\n' :: t ++ '\n' :: fence) ++ s) =
      some (Text.trim before) ∧ before <+: '\n' :: t ++ ['\n'] := by
  obtain ⟨before, rest, hcut, hfront⟩ := Text.exists_cut? fence ('\n' :: t ++ ['\n']) s
  refine ⟨before, ?_, hfront⟩
  have hfence : Text.cut? fence (fence ++ (label ++ ('\n' :: t ++ ['\n'] ++ fence ++ s))) =
      some ([], label ++ ('\n' :: t ++ ['\n'] ++ fence ++ s)) :=
    Text.cut?_of_after? (Template.after?_eq_some_iff.2 rfl)
  have hopen : Text.cut? fence (p ++ (fence ++ label ++ '\n' :: t ++ '\n' :: fence) ++ s) =
      some (p, label ++ ('\n' :: t ++ ['\n'] ++ fence ++ s)) := by
    have hprose := @Text.cut?_append '`' ['`', '`'] p (hp.notMem (by decide))
      (fence ++ (label ++ ('\n' :: t ++ ['\n'] ++ fence ++ s)))
    rw [← fence, hfence] at hprose
    simpa [List.append_assoc] using hprose
  have hlabelled : (Text.after? "json".toList (label ++ ('\n' :: t ++ ['\n'] ++ fence ++ s))).getD
      (label ++ ('\n' :: t ++ ['\n'] ++ fence ++ s)) = '\n' :: t ++ ['\n'] ++ fence ++ s := by
    rcases hlabel with rfl | rfl <;> rfl
  rw [fenced?, hopen]
  simp only [Option.bind_eq_bind, Option.bind_some, hlabelled, hcut]
  rfl

theorem opensValue_of_notMem {c : Char} (h : c ∉ marks) : Json.opensValue c = false := by
  have hsubset : ['"', '[', '\x7b'] ⊆ marks := by decide
  rw [Json.opensValue, List.contains_eq_mem, decide_eq_false_iff_not]
  exact fun hmem => h (hsubset hmem)

/-- A text that begins with prose is not the text of a value. -/
theorem value?_of_prose {p cs : List Char} {x : Char} (hp : IsProse p)
    (hne : p.dropWhile Text.isBlank ≠ []) (hmem : x ∈ cs) (hopens : Json.opensValue x = true) :
    value? (p.dropWhile Text.isBlank ++ cs) = none := by
  obtain ⟨c, rest, hstart⟩ := List.exists_cons_of_ne_nil hne
  have hc : c ∉ marks := hp c ((List.dropWhile_suffix _).subset (hstart ▸ List.mem_cons_self))
  rw [hstart]
  exact value?_eq_none (isBlank_of_dropWhile hstart) (opensValue_of_notMem hc)
    (List.mem_append_right (c :: rest) hmem) hopens

theorem IsProse.dropWhile {p : List Char} (h : IsProse p) (q : Char → Bool) :
    IsProse (p.dropWhile q) :=
  fun c hc => h c ((List.dropWhile_suffix q).subset hc)

theorem IsProse.dropWhileEnd {s : List Char} (h : IsProse s) (q : Char → Bool) :
    IsProse (s.reverse.dropWhile q).reverse :=
  fun c hc => h c ((List.rdropWhile_prefix q s).subset hc)

/-- The value of a text is found in the text with prose around it. -/
theorem findSome?_bare {p t s : List Char} {w : Json} (hp : IsProse p) (hs : IsProse s)
    (hfence : ¬fence <:+: t) (hfirst : t.head? = some '\x7b') (hlast : t.getLast? = some '\x7d')
    (h : Json.parseChars t = .ok w) :
    (candidates (p.dropWhile Text.isBlank ++ t ++ s)).findSome? value? = some w := by
  obtain ⟨rest, rfl⟩ := List.head?_eq_some_iff.1 hfirst
  have hp' := hp.dropWhile Text.isBlank
  refine findSome?_candidates ?_ (fun part hpart => ?_)
    (Text.widest?_append (hp'.notMem (by decide)) (hs.notMem (by decide)) hfirst hlast)
    (by rw [value?, h]; rfl)
  · by_cases hblank : p.dropWhile Text.isBlank = []
    · rw [hblank]
      exact value?_append (by decide) h s
    · rw [List.append_assoc, value?_of_prose hp hblank (by simp) (x := '\x7b') (by decide)]
      exact .inl rfl
  · rw [fenced?_bare hp' hs hfence] at hpart
    cases hpart

/-- The value of a text is found in the text in a fence with prose around it. -/
theorem findSome?_fenced {p t s label : List Char} {w : Json} (hp : IsProse p) (hs : IsProse s)
    (hlabel : label = [] ∨ label = "json".toList) (hfirst : t.head? = some '\x7b')
    (hlast : t.getLast? = some '\x7d') (h : Json.parseChars t = .ok w) :
    (candidates (p.dropWhile Text.isBlank ++
      (fence ++ label ++ '\n' :: t ++ '\n' :: fence) ++ s)).findSome? value? = some w := by
  obtain ⟨rest, rfl⟩ := List.head?_eq_some_iff.1 hfirst
  have hp' := hp.dropWhile Text.isBlank
  refine findSome?_candidates ?_ (fun part hpart => ?_) ?_ (by rw [value?, h]; rfl)
  · refine .inl ?_
    by_cases hblank : p.dropWhile Text.isBlank = []
    · rw [hblank]
      exact value?_eq_none (x := '\x7b') (by decide) (by decide) (by simp) (by decide)
    · rw [List.append_assoc]
      exact value?_of_prose (x := '\x7b') hp hblank (by simp) (by decide)
  · obtain ⟨before, hbefore, hfront⟩ := @fenced?_fenced _ ('\x7b' :: rest) s label hp' hlabel
    rw [hbefore] at hpart
    obtain rfl := Option.some.inj hpart
    exact value?_of_prefix (by decide) h (prefix_trim (notBlank_of_eq_some hfirst (by decide))
      (notBlank_of_eq_some hlast (by decide)) (List.cons_ne_nil _ _) hfront)
  · have hopen : '\x7b' ∉ p.dropWhile Text.isBlank ++ (fence ++ label ++ ['\n']) := by
      rw [List.mem_append, not_or]
      refine ⟨hp'.notMem (by decide), ?_⟩
      rcases hlabel with rfl | rfl <;> decide
    have hclose : '\x7d' ∉ '\n' :: fence ++ s := by
      rw [List.mem_append, not_or]
      exact ⟨by decide, hs.notMem (by decide)⟩
    have hwidest := Text.widest?_append hopen hclose hfirst hlast
    simpa [List.append_assoc] using hwidest

/-- The value of a text is found in every text that wraps it. -/
theorem extract?_of_wraps {t : List Char} {content : String} {w : Json}
    (hfirst : t.head? = some '\x7b') (hlast : t.getLast? = some '\x7d')
    (h : Json.parseChars t = .ok w) (hwraps : Wraps t content.toList) :
    extract? content = some w := by
  rw [extract?]
  generalize content.toList = cs at hwraps
  cases hwraps with
  | bare hp hs hfence =>
    have hne : t ≠ [] := by
      rintro rfl
      cases hfirst
    rw [Text.trim_append (notBlank_of_eq_some hfirst (by decide))
      (notBlank_of_eq_some hlast (by decide)) hne]
    exact findSome?_bare hp (hs.dropWhileEnd _) hfence hfirst hlast h
  | @fenced p s label hp hs hlabel =>
    have hend : (fence ++ label ++ '\n' :: t ++ '\n' :: fence).getLast? = some '`' :=
      List.getLast?_append_of_ne_nil _ (List.cons_ne_nil _ _)
    rw [Text.trim_append (notBlank_of_eq_some rfl (by decide))
      (notBlank_of_eq_some hend (by decide)) (by simp)]
    exact findSome?_fenced hp (hs.dropWhileEnd _) hlabel hfirst hlast h

end Answer

end PromptChain
