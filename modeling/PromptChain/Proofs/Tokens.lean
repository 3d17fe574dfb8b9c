import Mathlib.Data.List.TakeWhile
import Mathlib.Tactic.SplitIfs
import PromptChain.Json.Draft
import PromptChain.Proofs.Fresh

/-!
# Blanks, words, strings and numbers

How the smallest parts of a JSON text are read. What was read of a part up to some place is read
in the same way if the text goes on otherwise behind that place (`readWord_append`,
`StringText.read_append`, `NumberText.local_read`). The exception is a number at the very end of a
text, which more digits may follow. A part that breaks off has a fault, with which it cannot be
taken.
-/

namespace PromptChain.Json

/-! ## Blanks -/

theorem skipSpace_eq_cons {cs rest : List Char} {c : Char} (h : skipSpace cs = c :: rest) :
    isSpace c = false ∧ c :: rest <:+ cs := by
  refine ⟨?_, h ▸ List.dropWhile_suffix _⟩
  have hhead := List.head?_dropWhile_not isSpace cs
  rw [← skipSpace, h] at hhead
  simpa using hhead

theorem skipSpace_append {cs rest : List Char} {c : Char} (h : skipSpace cs = c :: rest)
    (u : List Char) : skipSpace (cs ++ u) = c :: (rest ++ u) := by
  rw [skipSpace, List.dropWhile_append, ← skipSpace, h]
  rfl

/-! ## Words, strings and numbers -/

theorem readWord_append {value : Option Fault → Draft} {word cs rest : List Char} {d : Draft}
    (h : readWord value word cs = (d, some rest)) :
    d = value none ∧ cs = word ++ rest ∧
      ∀ u, readWord value word (cs ++ u) = (d, some (rest ++ u)) := by
  induction word generalizing cs with
  | nil =>
    obtain ⟨rfl, hrest⟩ := Prod.mk.inj h
    obtain rfl := Option.some.inj hrest
    exact ⟨rfl, rfl, fun u => rfl⟩
  | cons w word ih =>
    cases cs with
    | nil => cases h
    | cons c cs =>
      rw [readWord] at h
      split at h
      next hc =>
        obtain ⟨hd, rfl, happend⟩ := ih h
        refine ⟨hd, by rw [hc]; rfl, fun u => ?_⟩
        rw [List.cons_append, readWord, if_pos hc, happend]
      next => cases h

theorem readWord_fault? {value : Option Fault → Draft} {word cs : List Char} {d : Draft}
    (h : readWord value word cs = (d, none)) : ∃ fault, d = value (some fault) := by
  fun_induction readWord value word cs with
  | case1 => cases h
  | case2 | case4 =>
    cases h
    exact ⟨_, rfl⟩
  | case3 _ _ _ ih => exact ih h

theorem StringText.exists_of_andThen {piece : Piece} {read : StringText × Option (List Char)}
    {s : StringText} {rest? : Option (List Char)} (h : andThen piece read = (s, rest?)) :
    ∃ later, read = (later, rest?) ∧ s = { later with pieces := piece :: later.pieces } := by
  obtain ⟨later, rest?⟩ := read
  obtain ⟨rfl, rfl⟩ := Prod.mk.inj h
  exact ⟨later, rfl, rfl⟩

theorem StringText.read_escape {c : Char} (hu : c ≠ 'u') (tail : List Char) :
    read ('\\' :: c :: tail) =
      (shortEscape? c).elim (⟨[], some .unknownEscape⟩, none)
        fun e => andThen (.char e) (read tail) := by
  rw [read]
  · cases shortEscape? c <;> rfl
  · exact fun _ _ _ _ _ h _ => hu h
  · exact hu

theorem StringText.read_plain {c : Char} (hquote : c ≠ '"') (hescape : c ≠ '\\')
    (tail : List Char) :
    read (c :: tail) =
      if c.toNat < 0x20 then (⟨[], some .controlCharacter⟩, none)
      else andThen (.char c) (read tail) := by
  rw [read] <;> simp [hquote, hescape]

theorem StringText.read_append {cs rest : List Char} {s : StringText}
    (h : StringText.read cs = (s, some rest)) :
    rest <:+ cs ∧ ∀ u, StringText.read (cs ++ u) = (s, some (rest ++ u)) := by
  induction cs using StringText.read.induct generalizing s with
  | case1 | case8 => cases h
  | case2 tail =>
    obtain ⟨rfl, rfl⟩ : _ ∧ tail = rest := by simpa [read] using h
    exact ⟨List.suffix_cons _ _, fun u => rfl⟩
  | case3 a b c d tail n hn ih =>
    rw [read, hn] at h
    obtain ⟨later, hread, rfl⟩ := exists_of_andThen h
    obtain ⟨hsuffix, happend⟩ := ih hread
    refine ⟨hsuffix.trans ⟨['\\', 'u', a, b, c, d], rfl⟩, fun u => ?_⟩
    simp only [List.cons_append, read, hn, happend]
    rfl
  | case4 a b c d tail hn => simp [read, hn] at h
  | case5 tail hshort =>
    rw [read] at h
    · cases h
    · exact hshort
  | case6 c tail _ hu e he ih =>
    rw [read_escape hu, he, Option.elim_some] at h
    obtain ⟨later, hread, rfl⟩ := exists_of_andThen h
    obtain ⟨hsuffix, happend⟩ := ih hread
    refine ⟨hsuffix.trans ⟨['\\', c], rfl⟩, fun u => ?_⟩
    rw [List.cons_append, List.cons_append, read_escape hu, he, Option.elim_some,
      happend]
    rfl
  | case7 c tail _ hu he =>
    rw [read_escape hu, he, Option.elim_none] at h
    cases h
  | case9 c tail hquote _ _ hmore hend hcontrol =>
    have hescape : c ≠ '\\' := fun hc => by
      cases tail with
      | nil => exact hend hc rfl
      | cons d tail => exact hmore d tail hc rfl
    rw [read_plain hquote hescape, if_pos hcontrol] at h
    cases h
  | case10 c tail hquote _ _ hmore hend hcontrol ih =>
    have hescape : c ≠ '\\' := fun hc => by
      cases tail with
      | nil => exact hend hc rfl
      | cons d tail => exact hmore d tail hc rfl
    rw [read_plain hquote hescape, if_neg hcontrol] at h
    obtain ⟨later, hread, rfl⟩ := exists_of_andThen h
    obtain ⟨hsuffix, happend⟩ := ih hread
    refine ⟨hsuffix.trans (List.suffix_cons _ _), fun u => ?_⟩
    rw [List.cons_append, read_plain hquote hescape, if_neg hcontrol, happend]
    rfl

/-- No string is taken that breaks off. -/
theorem joinPieces_of_fault (fault : Fault) (pieces : List Piece) (cs : List Char) :
    joinPieces (some fault) pieces ≠ .ok cs := by
  intro h
  fun_induction joinPieces (some fault) pieces generalizing cs with
  | case1 hnone => cases hnone
  | case2 | case4 | case6 | case8 | case9 => cases h
  | case3 _ _ ih | case5 _ _ _ _ _ _ ih | case7 _ _ _ _ _ ih | case10 _ _ _ _ _ ih =>
    obtain ⟨later, hlater, -⟩ := exists_of_map_ok h
    exact ih later hlater

theorem StringText.fault?_of_read {cs : List Char} {s : StringText}
    (h : StringText.read cs = (s, none)) : s.fault?.isSome = true := by
  fun_induction StringText.read cs generalizing s with
  | case2 => cases h
  | case1 | case4 | case5 | case7 | case8 | case9 =>
    cases h
    rfl
  | case3 _ _ _ _ _ _ _ ih | case6 _ _ _ _ _ _ ih | case10 _ _ _ _ _ _ _ _ ih =>
    obtain ⟨later, hlater, rfl⟩ := exists_of_andThen h
    exact @ih later hlater

theorem StringText.take_of_fault {s : StringText} (h : s.fault?.isSome = true) (text : String) :
    s.take ≠ .ok text := by
  obtain ⟨fault, hfault⟩ := Option.isSome_iff_exists.1 h
  intro htake
  obtain ⟨cs, hcs, -⟩ := exists_of_map_ok htake
  rw [hfault] at hcs
  exact joinPieces_of_fault _ _ _ hcs

namespace NumberText

/-- Whether a character may stand in a number. -/
def isNumeral (c : Char) : Bool := c.isDigit || ['-', '+', '.', 'e', 'E'].contains c

/-- What is read are characters of a number, and the same is read if the text goes on otherwise
    behind what follows them. -/
def Local {α : Type} (read : List Char → Except Fault (α × List Char)) : Prop :=
  ∀ cs rest a, read cs = .ok (a, rest) →
    (∃ used, cs = used ++ rest ∧ ∀ c ∈ used, isNumeral c = true) ∧
      (rest ≠ [] → ∀ u, read (cs ++ u) = .ok (a, rest ++ u))

theorem local_readDigits : Local readDigits := by
  intro cs rest digits h
  rw [readDigits] at h
  split at h
  · cases h
  next hempty =>
    obtain ⟨rfl, rfl⟩ := Prod.mk.inj (Except.ok.inj h)
    have hsplit := List.takeWhile_append_dropWhile (p := Char.isDigit) (l := cs)
    refine ⟨⟨_, hsplit.symm, fun c hc => ?_⟩, fun hrest u => ?_⟩
    · rw [isNumeral, List.all_eq_true.1 List.all_takeWhile c hc, Bool.true_or]
    · have hlength : (cs.takeWhile Char.isDigit).length ≠ cs.length := fun heq => by
        have := congrArg List.length hsplit
        rw [List.length_append] at this
        exact hrest (List.eq_nil_of_length_eq_zero (by omega))
      rw [readDigits, List.takeWhile_append, if_neg hlength, if_neg hempty, List.dropWhile_append,
        if_neg (by simpa using hrest)]

theorem local_readWhole : Local readWhole := by
  intro cs rest digits h
  obtain ⟨⟨digits', rest'⟩, hread, h⟩ := exists_of_bind_ok h
  dsimp only at h
  split at h
  · cases h
  next hzero =>
    obtain ⟨rfl, rfl⟩ := Prod.mk.inj (Except.ok.inj h)
    obtain ⟨hused, happend⟩ := local_readDigits _ _ _ hread
    refine ⟨hused, fun hrest u => ?_⟩
    rw [readWhole, happend hrest]
    exact if_neg hzero

/-- What is read behind a character of a number. -/
theorem used_cons {cs rest : List Char} {c : Char} (hc : isNumeral c = true)
    (h : ∃ used, cs = used ++ rest ∧ ∀ c ∈ used, isNumeral c = true) :
    ∃ used, c :: cs = used ++ rest ∧ ∀ c ∈ used, isNumeral c = true := by
  obtain ⟨used, rfl, hused⟩ := h
  exact ⟨c :: used, rfl, List.forall_mem_cons.2 ⟨hc, hused⟩⟩

/-- Nothing is read. -/
theorem used_nil (cs : List Char) : ∃ used, cs = used ++ cs ∧ ∀ c ∈ used, isNumeral c = true :=
  ⟨[], rfl, nofun⟩

theorem readFraction_of_ne {c : Char} (hc : c ≠ '.') (rest : List Char) :
    readFraction (c :: rest) = .ok (none, c :: rest) := by
  rw [readFraction]
  simpa using hc

theorem local_readFraction : Local readFraction := by
  intro cs rest fraction? h
  cases cs with
  | nil =>
    obtain ⟨rfl, rfl⟩ := Prod.mk.inj (Except.ok.inj h)
    exact ⟨used_nil _, fun hrest => absurd rfl hrest⟩
  | cons c cs =>
    by_cases hc : c = '.'
    · subst hc
      obtain ⟨⟨digits, rest'⟩, hread, h⟩ := exists_of_bind_ok h
      obtain ⟨rfl, rfl⟩ := Prod.mk.inj (Except.ok.inj h)
      obtain ⟨hused, happend⟩ := local_readDigits _ _ _ hread
      refine ⟨used_cons (by decide) hused, fun hrest u => ?_⟩
      rw [List.cons_append, readFraction, happend hrest]
      rfl
    · rw [readFraction_of_ne hc] at h
      obtain ⟨rfl, rfl⟩ := Prod.mk.inj (Except.ok.inj h)
      exact ⟨used_nil _, fun _ u => readFraction_of_ne hc _⟩

/-- The digits of an exponent. -/
def exponentDigits (negative : Bool) (cs : List Char) : Except Fault (Option Int × List Char) := do
  let (digits, rest) ← readDigits cs
  let n : Int := Binary64.digitsValue digits
  return (some (if negative then -n else n), rest)

theorem local_exponentDigits (negative : Bool) : Local (exponentDigits negative) := by
  intro cs rest exponent? h
  obtain ⟨⟨digits, rest'⟩, hread, h⟩ := exists_of_bind_ok h
  obtain ⟨rfl, rfl⟩ := Prod.mk.inj (Except.ok.inj h)
  obtain ⟨hused, happend⟩ := local_readDigits _ _ _ hread
  refine ⟨hused, fun hrest u => ?_⟩
  rw [exponentDigits, happend hrest]
  rfl

theorem readExponent_of_ne {c : Char} (hc : ¬(c = 'e' || c = 'E') = true) (rest : List Char) :
    readExponent (c :: rest) = .ok (none, c :: rest) :=
  if_neg hc

theorem readExponent_cons {c : Char} (hc : (c = 'e' || c = 'E') = true) (d : Char)
    (rest : List Char) :
    readExponent (c :: d :: rest) =
      if d = '-' then exponentDigits true rest
      else if d = '+' then exponentDigits false rest
      else exponentDigits false (d :: rest) := by
  by_cases hminus : d = '-'
  · subst hminus
    simp only [readExponent, if_pos hc]
    rfl
  by_cases hplus : d = '+'
  · subst hplus
    simp only [readExponent, if_pos hc]
    rfl
  rw [if_neg hminus, if_neg hplus, readExponent, if_pos hc]
  · rfl
  · simpa using hminus
  · simpa using hplus

theorem local_readExponent : Local readExponent := by
  intro cs rest exponent? h
  match cs with
  | [] =>
    obtain ⟨rfl, rfl⟩ := Prod.mk.inj (Except.ok.inj h)
    exact ⟨used_nil _, fun hrest => absurd rfl hrest⟩
  | c :: cs =>
    by_cases hc : (c = 'e' || c = 'E') = true
    · have hnumeral : isNumeral c = true := by
        rcases Bool.or_eq_true_iff.1 hc with hc | hc <;> rw [of_decide_eq_true hc] <;> decide
      match cs with
      | [] =>
        have hcut : readExponent [c] = .error .numberCut := if_pos hc
        rw [hcut] at h
        cases h
      | d :: cs =>
        simp only [List.cons_append, readExponent_cons hc] at h ⊢
        split at h
        next hd =>
          obtain ⟨hused, happend⟩ := local_exponentDigits true _ _ _ h
          have hsign : isNumeral d = true := by rw [hd]; decide
          refine ⟨used_cons hnumeral (used_cons hsign hused), fun hrest u => ?_⟩
          rw [if_pos hd, happend hrest]
        next hminus =>
          split at h
          next hd =>
            obtain ⟨hused, happend⟩ := local_exponentDigits false _ _ _ h
            have hsign : isNumeral d = true := by rw [hd]; decide
            refine ⟨used_cons hnumeral (used_cons hsign hused), fun hrest u => ?_⟩
            rw [if_neg hminus, if_pos hd, happend hrest]
          next hplus =>
            obtain ⟨hused, happend⟩ := local_exponentDigits false _ _ _ h
            refine ⟨used_cons hnumeral hused, fun hrest u => ?_⟩
            rw [if_neg hminus, if_neg hplus, ← List.cons_append, happend hrest]
    · rw [readExponent_of_ne hc] at h
      obtain ⟨rfl, rfl⟩ := Prod.mk.inj (Except.ok.inj h)
      exact ⟨used_nil _, fun _ u => readExponent_of_ne hc _⟩

/-- Two readers in a row. -/
theorem Local.bind {α β : Type} {first : List Char → Except Fault (α × List Char)}
    {second : α → List Char → Except Fault (β × List Char)} (hfirst : Local first)
    (hsecond : ∀ a, Local (second a)) :
    Local fun cs => first cs >>= fun (a, cs) => second a cs := by
  intro cs rest b h
  obtain ⟨⟨a, between⟩, hread, hrest⟩ := exists_of_bind_ok h
  obtain ⟨⟨used, rfl, hused⟩, happend⟩ := hfirst _ _ _ hread
  obtain ⟨⟨later, rfl, hlater⟩, happend'⟩ := hsecond a _ _ _ hrest
  refine ⟨⟨used ++ later, (List.append_assoc ..).symm, fun c hc => ?_⟩, fun hrest u => ?_⟩
  · exact (List.mem_append.1 hc).elim (hused c) (hlater c)
  · have hbetween : later ++ rest ≠ [] := fun h => hrest (List.append_eq_nil_iff.1 h).2
    dsimp only
    rw [happend hbetween]
    exact happend' hrest u

theorem Local.pure {α : Type} (a : α) : Local fun cs => .ok (a, cs) := by
  intro cs rest b h
  obtain ⟨rfl, rfl⟩ := Prod.mk.inj (Except.ok.inj h)
  exact ⟨used_nil _, fun _ u => rfl⟩

/-- A number behind its sign. -/
def readUnsigned (negative : Bool) (cs : List Char) : Except Fault (NumberText × List Char) :=
  readWhole cs >>= fun (whole, cs) => readFraction cs >>= fun (fraction?, cs) =>
    readExponent cs >>= fun (exponent?, cs) => .ok (⟨negative, whole, fraction?, exponent?⟩, cs)

theorem local_readUnsigned (negative : Bool) : Local (readUnsigned negative) :=
  local_readWhole.bind fun _ => local_readFraction.bind fun _ => local_readExponent.bind fun _ =>
    .pure _

theorem read_cons (c : Char) (cs : List Char) :
    read (c :: cs) = if c = '-' then readUnsigned true cs else readUnsigned false (c :: cs) := by
  by_cases hc : c = '-'
  · subst hc
    rfl
  · rw [if_neg hc, read]
    · rfl
    · simpa using hc

theorem local_read : Local read := by
  intro cs rest n h
  cases cs with
  | nil => cases h
  | cons c cs =>
    rw [read_cons] at h
    split at h
    next hc =>
      obtain ⟨hused, happend⟩ := local_readUnsigned true _ _ _ h
      have hsign : isNumeral c = true := by rw [hc]; decide
      refine ⟨used_cons hsign hused, fun hrest u => ?_⟩
      rw [List.cons_append, read_cons, if_pos hc, happend hrest]
    next hc =>
      obtain ⟨hused, happend⟩ := local_readUnsigned false _ _ _ h
      refine ⟨hused, fun hrest u => ?_⟩
      rw [List.cons_append, read_cons, if_neg hc, ← List.cons_append, happend hrest]

end NumberText

end PromptChain.Json
