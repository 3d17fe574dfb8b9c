import PromptChain.Json.Draft
import PromptChain.Proofs.Tokens

/-!
# Reading looks no further than it must

A value that was read up to some place is read in the same way if the text goes on otherwise
behind that place (`Draft.read_append`); only a number at the very end of a text may be read on.
This is shown by induction on the fuel, for values, for items and for members at once
(`local_all`).

So a text that begins as the text of an object or of a list is the text of this value or of none
(`parseChars_append`). A text that begins otherwise, and not with a quote, can be that of a value
only if all of its characters may stand in a number or a word (`isScalar_of_parseChars`).
-/

namespace PromptChain.Json

/-! ## Values -/

/-- Whether a draft is that of a number. -/
def Draft.isNumber : Draft → Bool
  | .number _ => true
  | _ => false

theorem skipSpace_of_cons {cs rest : List Char} {c : Char} (h : skipSpace cs = c :: rest) :
    skipSpace (c :: rest) = c :: rest := by
  rw [skipSpace, List.dropWhile_cons_of_neg (by simp [(skipSpace_eq_cons h).1])]

theorem ne_nil_of_skipSpace {cs rest : List Char} {c : Char} (h : skipSpace cs = c :: rest) :
    cs ≠ [] := by
  rintro rfl
  cases h

/-- Blanks in front of a value do not matter. -/
theorem readValue_of_skipSpace {cs rest : List Char} {c : Char} (h : skipSpace cs = c :: rest)
    (n level : Nat) : readValue (n + 1) level cs = readValue (n + 1) level (c :: rest) := by
  rw [readValue, readValue, h, skipSpace_of_cons h]

theorem readItem_cases {n level : Nat} {cs r : List Char} {items : List Draft}
    {fault? : Option Fault} (h : readItem (n + 1) level cs = (items, fault?, some r)) :
    ∃ item rest, readValue n level cs = (item, some rest) ∧
      (skipSpace rest = ']' :: r ∧ items = [item] ∧ fault? = none ∨
        ∃ rest' c rest'' later, skipSpace rest = ',' :: rest' ∧ skipSpace rest' = c :: rest'' ∧
          c ≠ ']' ∧ readItem n level (c :: rest'') = (later, fault?, some r) ∧
          items = item :: later) := by
  rw [readItem] at h
  split at h
  · cases h
  next item rest hvalue =>
    refine ⟨item, rest, hvalue, ?_⟩
    split at h
    · cases h
    next rest' hskip =>
      cases h
      exact .inl ⟨hskip, rfl, rfl⟩
    next rest' hskip =>
      split at h
      · cases h
      · cases h
      next hnil hclose =>
        obtain ⟨c, rest'', hskip'⟩ := List.exists_cons_of_ne_nil hnil
        obtain ⟨later, fault?', rest?, hread⟩ :
            ∃ later fault? rest?, readItem n level (skipSpace rest') = (later, fault?, rest?) :=
          ⟨_, _, _, rfl⟩
        rw [hread] at h
        cases h
        rw [hskip'] at hread
        exact .inr ⟨rest', c, rest'', later, hskip, hskip', fun hc => hclose rest'' (hc ▸ hskip'),
          hread, rfl⟩
    · cases h

theorem readItem_last {n level : Nat} {cs rest r : List Char} {item : Draft}
    (hvalue : readValue n level cs = (item, some rest)) (hskip : skipSpace rest = ']' :: r) :
    readItem (n + 1) level cs = ([item], none, some r) := by
  rw [readItem, hvalue]
  simp only [hskip]

theorem readItem_more {n level : Nat} {cs rest rest' rest'' : List Char} {c : Char} {item : Draft}
    (hvalue : readValue n level cs = (item, some rest)) (hskip : skipSpace rest = ',' :: rest')
    (hskip' : skipSpace rest' = c :: rest'') (hc : c ≠ ']') :
    readItem (n + 1) level cs =
      (item :: (readItem n level (c :: rest'')).1, (readItem n level (c :: rest'')).2) := by
  rw [readItem, hvalue]
  simp only [hskip, hskip']
  split
  next heq => cases heq
  next heq => exact absurd (List.cons.inj heq).1 hc
  next => rfl

/-- A member that was read: its key, the rest behind the colon, its value, and the rest. -/
structure ReadsMember (n level : Nat) (cs : List Char) (key : StringText) (value : Draft)
    (rest : List Char) : Prop where
  reads : ∃ rest' rest'', readValue n level cs = (.string key, some rest') ∧
    skipSpace rest' = ':' :: rest'' ∧ readValue n level rest'' = (value, some rest)

theorem readMember_cases {n level : Nat} {cs r : List Char} {members : List (Draft × Draft)}
    {fault? : Option Fault} (h : readMember (n + 1) level cs = (members, fault?, some r)) :
    ∃ key value rest, ReadsMember n level cs key value rest ∧
      (skipSpace rest = '\x7d' :: r ∧ members = [(.string key, value)] ∧ fault? = none ∨
        ∃ rest' c rest'' later, skipSpace rest = ',' :: rest' ∧ skipSpace rest' = c :: rest'' ∧
          c ≠ '\x7d' ∧ readMember n level (c :: rest'') = (later, fault?, some r) ∧
          members = (.string key, value) :: later) := by
  rw [readMember] at h
  split at h
  next key rest hkey =>
    split at h
    · cases h
    next rest' hcolon =>
      split at h
      · cases h
      next value rest hvalue =>
        refine ⟨key, value, rest, ⟨_, _, hkey, hcolon, hvalue⟩, ?_⟩
        dsimp only at h
        split at h
        · cases h
        next rest' hskip =>
          cases h
          exact .inl ⟨hskip, rfl, rfl⟩
        next rest' hskip =>
          split at h
          · cases h
          · cases h
          next hnil hclose =>
            obtain ⟨c, rest'', hskip'⟩ := List.exists_cons_of_ne_nil hnil
            obtain ⟨later, fault?', rest?, hread⟩ : ∃ later fault? rest?,
                readMember n level (skipSpace rest') = (later, fault?, rest?) := ⟨_, _, _, rfl⟩
            rw [hread] at h
            cases h
            rw [hskip'] at hread
            exact .inr ⟨rest', c, rest'', later, hskip, hskip',
              fun hc => hclose rest'' (hc ▸ hskip'), hread, rfl⟩
        · cases h
    · cases h
  · cases h

theorem readMember_last {n level : Nat} {cs rest r : List Char} {key : StringText} {value : Draft}
    (hmember : ReadsMember n level cs key value rest) (hskip : skipSpace rest = '\x7d' :: r) :
    readMember (n + 1) level cs = ([(.string key, value)], none, some r) := by
  obtain ⟨_, _, hkey, hcolon, hvalue⟩ := hmember
  rw [readMember, hkey]
  simp only [hcolon, hvalue, hskip]

theorem readMember_more {n level : Nat} {cs rest rest' rest'' : List Char} {c : Char}
    {key : StringText} {value : Draft} (hmember : ReadsMember n level cs key value rest)
    (hskip : skipSpace rest = ',' :: rest') (hskip' : skipSpace rest' = c :: rest'')
    (hc : c ≠ '\x7d') :
    readMember (n + 1) level cs =
      ((.string key, value) :: (readMember n level (c :: rest'')).1,
        (readMember n level (c :: rest'')).2) := by
  obtain ⟨_, _, hkey, hcolon, hvalue⟩ := hmember
  rw [readMember, hkey]
  simp only [hcolon, hvalue, hskip, hskip']
  split
  next heq => cases heq
  next heq => exact absurd (List.cons.inj heq).1 hc
  next => rfl

/-- A value is read in the same way if the text goes on otherwise behind it, unless it is a number
    at the end. -/
def LocalValue (n : Nat) : Prop :=
  ∀ level cs r d, readValue n level cs = (d, some r) → (d.isNumber = true → r ≠ []) →
    r <:+ cs ∧ ∀ m, n ≤ m → ∀ u, readValue m level (cs ++ u) = (d, some (r ++ u))

/-- The same for the items of a list, which do not end in the last number. -/
def LocalItem (n : Nat) : Prop :=
  ∀ level cs r items fault?, readItem n level cs = (items, fault?, some r) →
    r <:+ cs ∧ ∀ m, n ≤ m → ∀ u, readItem m level (cs ++ u) = (items, fault?, some (r ++ u))

/-- The same for the members of an object. -/
def LocalMember (n : Nat) : Prop :=
  ∀ level cs r members fault?, readMember n level cs = (members, fault?, some r) →
    r <:+ cs ∧ ∀ m, n ≤ m → ∀ u, readMember m level (cs ++ u) = (members, fault?, some (r ++ u))

theorem suffix_of_skipSpace {cs rest : List Char} {c : Char} (h : skipSpace cs = c :: rest) :
    rest <:+ cs :=
  (List.suffix_cons c rest).trans (skipSpace_eq_cons h).2

theorem localItem_succ {n : Nat} (hvalue : LocalValue n) (hitem : LocalItem n) :
    LocalItem (n + 1) := by
  intro level cs r items fault? h
  obtain ⟨item, rest, hread, ⟨hskip, rfl, rfl⟩ |
    ⟨rest', c, rest'', later, hskip, hskip', hc, hlater, rfl⟩⟩ := readItem_cases h
  · obtain ⟨hsuffix, happend⟩ := hvalue _ _ _ _ hread fun _ => ne_nil_of_skipSpace hskip
    refine ⟨(suffix_of_skipSpace hskip).trans hsuffix, fun m hm u => ?_⟩
    obtain ⟨m, rfl⟩ := Nat.exists_eq_add_of_le' (Nat.le_trans (Nat.le_add_left 1 n) hm)
    exact readItem_last (happend m (Nat.le_of_succ_le_succ hm) u) (skipSpace_append hskip u)
  · obtain ⟨hsuffix, happend⟩ := hvalue _ _ _ _ hread fun _ => ne_nil_of_skipSpace hskip
    obtain ⟨hsuffix', happend'⟩ := hitem _ _ _ _ _ hlater
    refine ⟨hsuffix'.trans ((skipSpace_eq_cons hskip').2.trans
      ((suffix_of_skipSpace hskip).trans hsuffix)), fun m hm u => ?_⟩
    obtain ⟨m, rfl⟩ := Nat.exists_eq_add_of_le' (Nat.le_trans (Nat.le_add_left 1 n) hm)
    have hle := Nat.le_of_succ_le_succ hm
    rw [readItem_more (happend m hle u) (skipSpace_append hskip u) (skipSpace_append hskip' u) hc,
      ← List.cons_append, happend' m hle u]

theorem ReadsMember.append {n level : Nat} {cs rest : List Char} {key : StringText} {value : Draft}
    (hlocal : LocalValue n) (h : ReadsMember n level cs key value rest) (hrest : rest ≠ []) :
    rest <:+ cs ∧ ∀ m, n ≤ m → ∀ u, ReadsMember m level (cs ++ u) key value (rest ++ u) := by
  obtain ⟨rest', rest'', hkey, hcolon, hvalue⟩ := h
  obtain ⟨hsuffix, happend⟩ := hlocal _ _ _ _ hkey nofun
  obtain ⟨hsuffix', happend'⟩ := hlocal _ _ _ _ hvalue fun _ => hrest
  exact ⟨hsuffix'.trans ((suffix_of_skipSpace hcolon).trans hsuffix), fun m hm u =>
    ⟨_, _, happend m hm u, skipSpace_append hcolon u, happend' m hm u⟩⟩

theorem localMember_succ {n : Nat} (hvalue : LocalValue n) (hmember : LocalMember n) :
    LocalMember (n + 1) := by
  intro level cs r members fault? h
  obtain ⟨key, value, rest, hread, ⟨hskip, rfl, rfl⟩ |
    ⟨rest', c, rest'', later, hskip, hskip', hc, hlater, rfl⟩⟩ := readMember_cases h
  · obtain ⟨hsuffix, happend⟩ := hread.append hvalue (ne_nil_of_skipSpace hskip)
    refine ⟨(suffix_of_skipSpace hskip).trans hsuffix, fun m hm u => ?_⟩
    obtain ⟨m, rfl⟩ := Nat.exists_eq_add_of_le' (Nat.le_trans (Nat.le_add_left 1 n) hm)
    exact readMember_last (happend m (Nat.le_of_succ_le_succ hm) u) (skipSpace_append hskip u)
  · obtain ⟨hsuffix, happend⟩ := hread.append hvalue (ne_nil_of_skipSpace hskip)
    obtain ⟨hsuffix', happend'⟩ := hmember _ _ _ _ _ hlater
    refine ⟨hsuffix'.trans ((skipSpace_eq_cons hskip').2.trans
      ((suffix_of_skipSpace hskip).trans hsuffix)), fun m hm u => ?_⟩
    obtain ⟨m, rfl⟩ := Nat.exists_eq_add_of_le' (Nat.le_trans (Nat.le_add_left 1 n) hm)
    have hle := Nat.le_of_succ_le_succ hm
    rw [readMember_more (happend m hle u) (skipSpace_append hskip u) (skipSpace_append hskip' u)
      hc, ← List.cons_append, happend' m hle u]

/-- The items of a list from behind its bracket. -/
def readItems (n level : Nat) (cs : List Char) : List Draft × Option Fault × Option (List Char) :=
  match skipSpace cs with
  | [] => ([], some .listCut, none)
  | ']' :: rest => ([], none, some rest)
  | rest => readItem n level rest

/-- The members of an object from behind its brace. -/
def readMembers (n level : Nat) (cs : List Char) :
    List (Draft × Draft) × Option Fault × Option (List Char) :=
  match skipSpace cs with
  | [] => ([], some .objectCut, none)
  | '\x7d' :: rest => ([], none, some rest)
  | rest => readMember n level rest

/-- Which value is read depends on the first character. -/
theorem readValue_cons (n level : Nat) {c : Char} (hc : isSpace c = false) (rest : List Char) :
    readValue (n + 1) level (c :: rest) =
      if c = 'n' then readWord .null "ull".toList rest
      else if c = 't' then readWord (.bool true) "rue".toList rest
      else if c = 'f' then readWord (.bool false) "alse".toList rest
      else if c = '"' then (.string (StringText.read rest).1, (StringText.read rest).2)
      else if c = '-' || c.isDigit then readNumber (c :: rest)
      else if c = '[' then
        (.list (level + 1) (readItems n (level + 1) rest).1 (readItems n (level + 1) rest).2.1,
          (readItems n (level + 1) rest).2.2)
      else if c = '\x7b' then
        (.object (level + 1) (readMembers n (level + 1) rest).1
          (readMembers n (level + 1) rest).2.1, (readMembers n (level + 1) rest).2.2)
      else (.absent .notAValue, none) := by
  have hskip : skipSpace (c :: rest) = c :: rest := by
    rw [skipSpace, List.dropWhile_cons_of_neg (by simp [hc])]
  rw [readValue, hskip]
  rfl

theorem readItems_append {n : Nat} (hitem : LocalItem n) {level : Nat} {cs r : List Char}
    {items : List Draft} {fault? : Option Fault}
    (h : readItems n level cs = (items, fault?, some r)) :
    r <:+ cs ∧ ∀ m, n ≤ m → ∀ u, readItems m level (cs ++ u) = (items, fault?, some (r ++ u)) := by
  rw [readItems] at h
  split at h
  · cases h
  next rest hskip =>
    cases h
    refine ⟨suffix_of_skipSpace hskip, fun m hm u => ?_⟩
    rw [readItems, skipSpace_append hskip]
    rfl
  next hnil hclose =>
    obtain ⟨c, rest, hskip⟩ := List.exists_cons_of_ne_nil hnil
    rw [hskip] at h
    obtain ⟨hsuffix, happend⟩ := hitem _ _ _ _ _ h
    refine ⟨hsuffix.trans (skipSpace_eq_cons hskip).2, fun m hm u => ?_⟩
    rw [readItems, skipSpace_append hskip]
    split
    next heq => cases heq
    next heq => exact absurd ((List.cons.inj heq).1 ▸ hskip) (hclose _)
    next => exact happend m hm u

theorem readMembers_append {n : Nat} (hmember : LocalMember n) {level : Nat} {cs r : List Char}
    {members : List (Draft × Draft)} {fault? : Option Fault}
    (h : readMembers n level cs = (members, fault?, some r)) :
    r <:+ cs ∧
      ∀ m, n ≤ m → ∀ u, readMembers m level (cs ++ u) = (members, fault?, some (r ++ u)) := by
  rw [readMembers] at h
  split at h
  · cases h
  next rest hskip =>
    cases h
    refine ⟨suffix_of_skipSpace hskip, fun m hm u => ?_⟩
    rw [readMembers, skipSpace_append hskip]
    rfl
  next hnil hclose =>
    obtain ⟨c, rest, hskip⟩ := List.exists_cons_of_ne_nil hnil
    rw [hskip] at h
    obtain ⟨hsuffix, happend⟩ := hmember _ _ _ _ _ h
    refine ⟨hsuffix.trans (skipSpace_eq_cons hskip).2, fun m hm u => ?_⟩
    rw [readMembers, skipSpace_append hskip]
    split
    next heq => cases heq
    next heq => exact absurd ((List.cons.inj heq).1 ▸ hskip) (hclose _)
    next => exact happend m hm u

theorem readNumber_append {cs r : List Char} {d : Draft} (h : readNumber cs = (d, some r)) :
    d.isNumber = true ∧ (∃ used, cs = used ++ r ∧ ∀ c ∈ used, NumberText.isNumeral c = true) ∧
      (r ≠ [] → ∀ u, readNumber (cs ++ u) = (d, some (r ++ u))) := by
  rw [readNumber] at h
  split at h
  next n rest hread =>
    cases h
    obtain ⟨hused, happend⟩ := NumberText.local_read _ _ _ hread
    refine ⟨rfl, hused, fun hr u => ?_⟩
    rw [readNumber, happend hr]
  · cases h

theorem localValue_succ {n : Nat} (hitem : LocalItem n) (hmember : LocalMember n) :
    LocalValue (n + 1) := by
  intro level cs r d h hnumber
  cases hskip : skipSpace cs with
  | nil =>
    rw [readValue, hskip] at h
    cases h
  | cons c rest =>
    obtain ⟨hc, hsuffix⟩ := skipSpace_eq_cons hskip
    rw [readValue_of_skipSpace hskip] at h
    suffices hlocal : r <:+ c :: rest ∧ ∀ m, n ≤ m → ∀ u,
        readValue (m + 1) level (c :: (rest ++ u)) = (d, some (r ++ u)) by
      refine ⟨hlocal.1.trans hsuffix, fun m hm u => ?_⟩
      obtain ⟨m, rfl⟩ := Nat.exists_eq_add_of_le' (Nat.le_trans (Nat.le_add_left 1 n) hm)
      rw [readValue_of_skipSpace (skipSpace_append hskip u)]
      exact hlocal.2 m (Nat.le_of_succ_le_succ hm) u
    have hword {value : Option Fault → Draft} {word : List Char}
        (h : readWord value word rest = (d, some r)) :
        r <:+ c :: rest ∧ ∀ u, readWord value word (rest ++ u) = (d, some (r ++ u)) := by
      obtain ⟨-, rfl, happend⟩ := readWord_append h
      exact ⟨(List.suffix_append _ _).trans (List.suffix_cons _ _), happend⟩
    simp only [readValue_cons _ _ hc] at h ⊢
    split_ifs at h ⊢
    · exact ⟨(hword h).1, fun _ _ => (hword h).2⟩
    · exact ⟨(hword h).1, fun _ _ => (hword h).2⟩
    · exact ⟨(hword h).1, fun _ _ => (hword h).2⟩
    · obtain ⟨rfl, hr⟩ := Prod.mk.inj h
      obtain ⟨hsuffix, happend⟩ := StringText.read_append (Prod.ext rfl hr)
      exact ⟨hsuffix.trans (List.suffix_cons _ _), fun m _ u => by rw [happend]⟩
    · obtain ⟨hd, ⟨used, hused, -⟩, happend⟩ := readNumber_append h
      exact ⟨⟨used, hused.symm⟩, fun m _ => happend (hnumber hd)⟩
    · obtain ⟨rfl, hr⟩ := Prod.mk.inj h
      obtain ⟨hsuffix, happend⟩ := readItems_append hitem (Prod.ext rfl (Prod.ext rfl hr))
      exact ⟨hsuffix.trans (List.suffix_cons _ _), fun m hm u => by rw [happend m hm]⟩
    · obtain ⟨rfl, hr⟩ := Prod.mk.inj h
      obtain ⟨hsuffix, happend⟩ := readMembers_append hmember (Prod.ext rfl (Prod.ext rfl hr))
      exact ⟨hsuffix.trans (List.suffix_cons _ _), fun m hm u => by rw [happend m hm]⟩
    · cases h

/-- Nothing is read without fuel. -/
theorem local_zero : LocalValue 0 ∧ LocalItem 0 ∧ LocalMember 0 :=
  ⟨fun _ _ _ _ h => (by cases h), fun _ _ _ _ _ h => (by cases h), fun _ _ _ _ _ h => by cases h⟩

theorem local_all (n : Nat) : LocalValue n ∧ LocalItem n ∧ LocalMember n := by
  induction n with
  | zero => exact local_zero
  | succ n ih =>
    obtain ⟨hvalue, hitem, hmember⟩ := ih
    exact ⟨localValue_succ hitem hmember, localItem_succ hvalue hitem,
      localMember_succ hvalue hmember⟩

/-- A value is read in the same way if the text goes on otherwise behind it, unless it is a number
    at the end. -/
theorem Draft.read_append {cs r : List Char} {d : Draft} (h : Draft.read cs = (d, some r))
    (hnumber : d.isNumber = true → r ≠ []) :
    r <:+ cs ∧ ∀ u, Draft.read (cs ++ u) = (d, some (r ++ u)) := by
  obtain ⟨hsuffix, happend⟩ := (local_all _).1 _ _ _ _ h hnumber
  refine ⟨hsuffix, fun u => happend _ ?_ u⟩
  rw [List.length_append]
  omega

/-! ## Whole texts -/

theorem readItem_fault? {n level : Nat} {cs : List Char} {items : List Draft}
    {fault? : Option Fault} (h : readItem n level cs = (items, fault?, none)) :
    fault?.isSome = true := by
  induction n generalizing cs items with
  | zero => cases h; rfl
  | succ n ih =>
    rw [readItem] at h
    split at h
    · cases h
      rfl
    next item rest hvalue =>
      split at h
      · cases h
        rfl
      · cases h
      · split at h
        · cases h
          rfl
        · cases h
          rfl
        · exact ih (Prod.ext rfl (Prod.ext (congrArg (·.2.1) h) (congrArg (·.2.2) h)))
      · cases h
        rfl

theorem readMember_fault? {n level : Nat} {cs : List Char} {members : List (Draft × Draft)}
    {fault? : Option Fault} (h : readMember n level cs = (members, fault?, none)) :
    fault?.isSome = true := by
  induction n generalizing cs members with
  | zero => cases h; rfl
  | succ n ih =>
    rw [readMember] at h
    split at h
    next key rest hkey =>
      split at h
      · cases h
        rfl
      next rest' hcolon =>
        split at h
        · cases h
          rfl
        · dsimp only at h
          split at h
          · cases h
            rfl
          · cases h
          · split at h
            · cases h
              rfl
            · cases h
              rfl
            · exact ih (Prod.ext rfl (Prod.ext (congrArg (·.2.1) h) (congrArg (·.2.2) h)))
          · cases h
            rfl
      · cases h
        rfl
    · cases h
      rfl

theorem checkTaken_of_fault {fault? : Option Fault} (h : fault?.isSome = true) :
    checkTaken fault? ≠ .ok () := by
  obtain ⟨fault, rfl⟩ := Option.isSome_iff_exists.1 h
  nofun

theorem readItems_fault? {n level : Nat} {cs : List Char} {items : List Draft}
    {fault? : Option Fault} (h : readItems n level cs = (items, fault?, none)) :
    fault?.isSome = true := by
  rw [readItems] at h
  split at h
  · cases h
    rfl
  · cases h
  · exact readItem_fault? h

theorem readMembers_fault? {n level : Nat} {cs : List Char} {members : List (Draft × Draft)}
    {fault? : Option Fault} (h : readMembers n level cs = (members, fault?, none)) :
    fault?.isSome = true := by
  rw [readMembers] at h
  split at h
  · cases h
    rfl
  · cases h
  · exact readMember_fault? h

/-- A list is taken only if it is closed. -/
theorem checkTaken_of_take_list {level : Nat} {items : List Draft} {fault? : Option Fault}
    {v : Json} (h : (Draft.list level items fault?).take = .ok v) : checkTaken fault? = .ok () := by
  obtain ⟨_, -, h⟩ := exists_of_bind_ok h
  obtain ⟨_, -, h⟩ := exists_of_bind_ok h
  obtain ⟨_, hclosed, -⟩ := exists_of_bind_ok h
  exact hclosed

/-- An object is taken only if it is closed. -/
theorem checkTaken_of_take_object {level : Nat} {members : List (Draft × Draft)}
    {fault? : Option Fault} {v : Json} (h : (Draft.object level members fault?).take = .ok v) :
    checkTaken fault? = .ok () := by
  obtain ⟨_, -, h⟩ := exists_of_bind_ok h
  obtain ⟨_, -, h⟩ := exists_of_bind_ok h
  obtain ⟨_, hclosed, -⟩ := exists_of_bind_ok h
  exact hclosed

/-- A value that breaks off is not taken. -/
theorem take_of_break {n level : Nat} {cs : List Char} {d : Draft}
    (h : readValue n level cs = (d, none)) (v : Json) : d.take ≠ .ok v := by
  cases n with
  | zero =>
    cases h
    nofun
  | succ n =>
    cases hskip : skipSpace cs with
    | nil =>
      rw [readValue, hskip] at h
      cases h
      nofun
    | cons c rest =>
      rw [readValue_of_skipSpace hskip, readValue_cons _ _ (skipSpace_eq_cons hskip).1] at h
      intro htake
      split_ifs at h
      · obtain ⟨fault, rfl⟩ := readWord_fault? h
        cases htake
      · obtain ⟨fault, rfl⟩ := readWord_fault? h
        cases htake
      · obtain ⟨fault, rfl⟩ := readWord_fault? h
        cases htake
      · obtain ⟨rfl, hr⟩ := Prod.mk.inj h
        obtain ⟨text, htext, -⟩ := exists_of_map_ok htake
        exact StringText.take_of_fault (StringText.fault?_of_read (Prod.ext rfl hr)) _ htext
      · rw [readNumber] at h
        split at h
        · cases h
        · cases h
          cases htake
      · obtain ⟨rfl, hr⟩ := Prod.mk.inj h
        exact checkTaken_of_fault (readItems_fault? (Prod.ext rfl (Prod.ext rfl hr)))
          (checkTaken_of_take_list htake)
      · obtain ⟨rfl, hr⟩ := Prod.mk.inj h
        exact checkTaken_of_fault (readMembers_fault? (Prod.ext rfl (Prod.ext rfl hr)))
          (checkTaken_of_take_object htake)
      · cases h
        cases htake

/-- In the text of a value the value is read and taken, and only blanks are left. -/
theorem exists_of_parseChars {cs : List Char} {v : Json} (h : parseChars cs = .ok v) :
    ∃ d r, Draft.read cs = (d, some r) ∧ d.take = .ok v ∧ skipSpace r = [] := by
  obtain ⟨d, rest?, hread⟩ : ∃ d rest?, Draft.read cs = (d, rest?) := ⟨_, _, rfl⟩
  rw [parseChars, hread] at h
  obtain ⟨w, htake, h⟩ := exists_of_bind_ok h
  obtain ⟨_, hend, h⟩ := exists_of_bind_ok h
  obtain rfl := Except.ok.inj h
  cases rest? with
  | none => exact absurd htake (take_of_break hread _)
  | some r =>
    refine ⟨d, r, hread, htake, ?_⟩
    rw [checkEnd] at hend
    split at hend
    next hempty => exact List.isEmpty_iff.1 hempty
    next => cases hend

/-- Whether a value that starts with a character ends with a mark of its own. -/
def opensValue (c : Char) : Bool := ['"', '[', '\x7b'].contains c

theorem isNumber_of_read {n level : Nat} {c : Char} {rest r : List Char} {d : Draft}
    (hc : opensValue c = true) (h : readValue n level (c :: rest) = (d, some r)) :
    d.isNumber = false := by
  cases n with
  | zero => cases h
  | succ n =>
    simp only [opensValue, List.contains_iff_mem, List.mem_cons, List.not_mem_nil, or_false] at hc
    rcases hc with rfl | rfl | rfl
    all_goals
      obtain ⟨rfl, -⟩ := Prod.mk.inj ((readValue_cons n level (by decide) rest).symm.trans h)
      rfl

/-- If the text of a value goes on behind it and still is the text of a value, it goes on with
    blanks, and the value is the same. -/
theorem parseChars_append {c : Char} {rest u : List Char} {v w : Json}
    (hc : opensValue c = true) (h : parseChars (c :: rest) = .ok v)
    (h' : parseChars (c :: rest ++ u) = .ok w) : w = v ∧ skipSpace u = [] := by
  obtain ⟨d, r, hread, htake, hend⟩ := exists_of_parseChars h
  obtain ⟨d', r', hread', htake', hend'⟩ := exists_of_parseChars h'
  rw [(Draft.read_append hread (by simp [isNumber_of_read hc hread])).2 u] at hread'
  cases hread'
  refine ⟨Except.ok.inj (htake'.symm.trans htake), ?_⟩
  rw [skipSpace, List.dropWhile_append, ← skipSpace, hend] at hend'
  exact hend'

/-- What begins with a brace is the text of an object, if it is that of a value. -/
theorem exists_object_of_parseChars {rest : List Char} {v : Json}
    (h : parseChars ('\x7b' :: rest) = .ok v) : ∃ members, v = .object members := by
  obtain ⟨d, r, hread, htake, -⟩ := exists_of_parseChars h
  rw [Draft.read, readValue_cons _ _ (by decide)] at hread
  obtain ⟨rfl, -⟩ := Prod.mk.inj hread
  obtain ⟨_, -, htake⟩ := exists_of_bind_ok htake
  obtain ⟨entries, -, htake⟩ := exists_of_bind_ok htake
  obtain ⟨_, -, htake⟩ := exists_of_bind_ok htake
  exact ⟨_, (Except.ok.inj htake).symm⟩

/-- Whether a character may stand in the text of a number, a truth value or null. -/
def isScalar (c : Char) : Bool := isSpace c || c.isAlpha || NumberText.isNumeral c

/-- A value without such a mark is the text of a number, a truth value or null. -/
theorem isScalar_of_parseChars {c : Char} {rest : List Char} {v : Json}
    (hspace : isSpace c = false) (hc : opensValue c = false)
    (h : parseChars (c :: rest) = .ok v) : ∀ x ∈ c :: rest, isScalar x = true := by
  obtain ⟨d, r, hread, -, hend⟩ := exists_of_parseChars h
  rw [Draft.read, readValue_cons _ _ hspace] at hread
  have hblank : ∀ x ∈ r, isScalar x = true := fun x hx => by
    rw [isScalar, List.dropWhile_eq_nil_iff.1 hend x hx, Bool.true_or, Bool.true_or]
  have hword {value : Option Fault → Draft} {word : List Char}
      (hread : readWord value word rest = (d, some r)) (hc : c.isAlpha = true)
      (hword : word.all Char.isAlpha = true) : ∀ x ∈ c :: rest, isScalar x = true := by
    obtain ⟨-, rfl, -⟩ := readWord_append hread
    have hletter : ∀ x ∈ c :: word, isScalar x = true := fun x hx => by
      have hx : x.isAlpha = true :=
        (List.mem_cons.1 hx).elim (fun heq => heq ▸ hc) (List.all_eq_true.1 hword x)
      rw [isScalar, hx, Bool.or_true, Bool.true_or]
    intro x hx
    exact (List.mem_append.1 hx).elim (hletter x) (hblank x)
  split_ifs at hread with hn ht hf hquote hnumeral hlist hobject
  · exact hword hread (by rw [hn]; decide) (by decide)
  · exact hword hread (by rw [ht]; decide) (by decide)
  · exact hword hread (by rw [hf]; decide) (by decide)
  · rw [hquote] at hc
    cases hc
  · obtain ⟨-, ⟨used, hused, hnumerals⟩, -⟩ := readNumber_append hread
    rw [hused]
    intro x hx
    refine (List.mem_append.1 hx).elim (fun hx => ?_) (hblank x)
    rw [isScalar, hnumerals x hx, Bool.or_true]
  · rw [hlist] at hc
    cases hc
  · rw [hobject] at hc
    cases hc
  · cases hread

end PromptChain.Json
