import Mathlib.Data.List.Nodup
import PromptChain.Proofs.ReadBack

/-!
# Objects read slot by slot

The members of an object are read in their own order, each into the slot to which it belongs. If
no name belongs to two slots and no two slots touch the same part of the record, then this order
does not matter: the record is the one that comes about slot by slot (`Source.ReadsEach`), where
each slot is given by one member at most, under whatever name, and leaves the record as it is if
there is none (`Source.readsEach_of_recordOf`).

So what a record type with slots has in a field is what is read from the one part that is given
for it, or else what was there to begin with (`Source.ReadOf`, `Source.ReadsEach.optional`).
-/

namespace PromptChain

/-- All names under which the field may be given. -/
def Slot.names {δ σ : Type} (slot : Slot δ σ) : List String := slot.name :: slot.aliases

theorem Slot.goesBy_iff {δ σ : Type} {slot : Slot δ σ} {name : String} :
    slot.goesBy name = true ↔ name ∈ slot.names := by
  simp only [goesBy, names, Bool.or_eq_true, beq_iff_eq, List.contains_iff_mem, List.mem_cons,
    eq_comm (a := name)]

namespace Json

/-- The values of all members whose keys are among the names. -/
def under (names : List String) (members : List (String × Json)) : List Json :=
  (members.filter (·.1 ∈ names)).map Prod.snd

variable {names : List String} {key : String} {value : Json} {members : List (String × Json)}

theorem under_cons_of_mem (h : key ∈ names) :
    under names ((key, value) :: members) = value :: under names members := by
  simp [under, h]

theorem under_cons_of_notMem (h : key ∉ names) :
    under names ((key, value) :: members) = under names members := by
  simp [under, h]

end Json

namespace Source

open Json (under)

variable {σ : Type}

/-! ## Slots that do not get in each other's way -/

/-- No name belongs to two slots. -/
def Distinct (slots : List (Slot Json σ)) : Prop := (slots.flatMap Slot.names).Nodup

instance (slots : List (Slot Json σ)) : Decidable (Distinct slots) :=
  inferInstanceAs (Decidable (List.Nodup _))

/-- Whatever is read into two slots, the order does not matter. -/
def Interchange (slot other : Slot Json σ) : Prop :=
  ∀ ⦃part part' : Json⦄ ⦃change change' : σ → σ⦄, slot.read part = .ok change →
    other.read part' = .ok change' → ∀ record, change' (change record) = change (change' record)

variable {members : List (String × Json)} {slots : List (Slot Json σ)}
  {slot head other : Slot Json σ} {start record : σ} {key name : String} {value : Json}
  {change : σ → σ}

theorem Distinct.tail (h : Distinct (head :: slots)) : Distinct slots :=
  (List.nodup_append.1 h).2.1

/-- A name of the first slot belongs to no other. -/
theorem Distinct.notMem (h : Distinct (head :: slots)) (hname : name ∈ head.names)
    (ho : other ∈ slots) : name ∉ other.names := fun hother =>
  (List.nodup_append.1 h).2.2 name hname name (List.mem_flatMap.2 ⟨other, ho, hother⟩) rfl

/-- The slot to which a name belongs is found by it. -/
theorem Distinct.eq_of_mem (h : Distinct slots) (hs : slot ∈ slots) (ho : other ∈ slots)
    (hname : name ∈ slot.names) (hother : name ∈ other.names) : slot = other := by
  induction slots with
  | nil => cases hs
  | cons head slots ih =>
    rcases List.mem_cons.1 hs with hshead | hslater
    · rcases List.mem_cons.1 ho with hohead | holater
      · exact hshead.trans hohead.symm
      · exact absurd hother (h.notMem (hshead ▸ hname) holater)
    · rcases List.mem_cons.1 ho with hohead | holater
      · exact absurd hname (h.notMem (hohead ▸ hother) hslater)
      · exact ih h.tail hslater holater

/-! ## Slot by slot -/

/-- The members of an object are read into the slots, one slot after the other. -/
inductive ReadsEach (members : List (String × Json)) : List (Slot Json σ) → σ → σ → Prop
  | nil (record : σ) : ReadsEach members [] record record
  | omitted {slot : Slot Json σ} {slots : List (Slot Json σ)} {start record : σ} :
      under slot.names members = [] → ReadsEach members slots start record →
      ReadsEach members (slot :: slots) start record
  | given {slot : Slot Json σ} {slots : List (Slot Json σ)} {part : Json} {change : σ → σ}
      {start record : σ} :
      under slot.names members = [part] → slot.read part = .ok change →
      ReadsEach members slots (change start) record →
      ReadsEach members (slot :: slots) start record

/-- A member that belongs to none of the slots is passed over. -/
theorem ReadsEach.cons_of_notMem (h : ReadsEach members slots start record)
    (hkey : ∀ slot ∈ slots, key ∉ slot.names) :
    ReadsEach ((key, value) :: members) slots start record := by
  induction h with
  | nil record => exact .nil record
  | omitted hparts _ ih =>
    rw [List.forall_mem_cons] at hkey
    exact .omitted (by rwa [Json.under_cons_of_notMem hkey.1]) (ih hkey.2)
  | given hparts hread _ ih =>
    rw [List.forall_mem_cons] at hkey
    exact .given (by rwa [Json.under_cons_of_notMem hkey.1]) hread (ih hkey.2)

/-- A member is read into its slot, which no other member belongs to: it may as well be read when
    the turn of the slot comes. -/
theorem ReadsEach.cons_of_mem (hd : Distinct slots) (hc : slots.Pairwise Interchange)
    (hs : slot ∈ slots) (hkey : key ∈ slot.names) (hread : slot.read value = .ok change)
    (hnone : under slot.names members = [])
    (h : ReadsEach members slots (change start) record) :
    ReadsEach ((key, value) :: members) slots start record := by
  induction slots generalizing start with
  | nil => cases hs
  | cons head slots ih =>
    rw [List.pairwise_cons] at hc
    rcases List.mem_cons.1 hs with rfl | hs
    · have hone : under slot.names ((key, value) :: members) = [value] := by
        rw [Json.under_cons_of_mem hkey, hnone]
      rcases h with _ | ⟨_, hrest⟩ | ⟨hparts, _, _⟩
      · exact .given hone hread (hrest.cons_of_notMem fun other ho => hd.notMem hkey ho)
      · rw [hnone] at hparts
        cases hparts
    · have hhead : under head.names ((key, value) :: members) = under head.names members :=
        Json.under_cons_of_notMem fun hmem => hd.notMem hmem hs hkey
      rcases h with _ | ⟨hparts, hrest⟩ | ⟨hparts, hread', hrest⟩
      · exact .omitted (hhead.trans hparts) (ih hd.tail hc.2 hs hrest)
      · -- The part of the first slot is read before that of the member now, not after it.
        rw [← hc.1 slot hs hread' hread] at hrest
        exact .given (hhead.trans hparts) hread' (ih hd.tail hc.2 hs hrest)

theorem readsEach_nil (slots : List (Slot Json σ)) (record : σ) :
    ReadsEach [] slots record record := by
  induction slots with
  | nil => exact .nil record
  | cons slot slots ih => exact .omitted rfl ih

/-- A slot that was given before is given by no member, and the others come about slot by slot. -/
theorem readsEach_of_fillNamed (hd : Distinct slots) (hc : slots.Pairwise Interchange)
    {given given' : List String}
    (h : fillNamed slots (members.map fun member => (.ok member.1, member.2)) given start =
      .ok (given', record)) :
    (∀ slot ∈ slots, slot.name ∈ given → under slot.names members = []) ∧
      ReadsEach members slots start record := by
  induction members generalizing given start with
  | nil =>
    obtain ⟨-, rfl⟩ := h
    exact ⟨fun _ _ _ => rfl, readsEach_nil slots _⟩
  | cons member rest ih =>
    obtain ⟨key, value⟩ := member
    obtain ⟨_, ⟨⟩, h⟩ := exists_of_bind_ok h
    split at h
    next hfind =>
      obtain ⟨-, -, h⟩ := exists_of_bind_ok h
      obtain ⟨hgiven, hreads⟩ := ih h
      have hkey : ∀ slot ∈ slots, key ∉ slot.names := fun slot hs hmem =>
        List.find?_eq_none.1 hfind slot hs (Slot.goesBy_iff.2 hmem)
      exact ⟨fun slot hs hname => (Json.under_cons_of_notMem (hkey slot hs)).trans
        (hgiven slot hs hname), hreads.cons_of_notMem hkey⟩
    next slot hfind =>
      have hs := List.mem_of_find?_eq_some hfind
      have hgoes : slot.goesBy key = true := by simpa using List.find?_some hfind
      have hkey := Slot.goesBy_iff.1 hgoes
      split at h
      · cases h
      next hnew =>
        obtain ⟨change, hread, h⟩ := exists_of_bind_ok h
        obtain ⟨hgiven, hreads⟩ := ih h
        refine ⟨fun other ho hname => ?_,
          hreads.cons_of_mem hd hc hs hkey hread (hgiven slot hs List.mem_cons_self)⟩
        -- A slot that was given before is not the one to which the key belongs.
        have hother : key ∉ other.names := by
          intro hmem
          obtain rfl := hd.eq_of_mem hs ho hkey hmem
          exact hnew (List.contains_iff_mem.2 hname)
        exact (Json.under_cons_of_notMem hother).trans
          (hgiven other ho (List.mem_cons_of_mem _ hname))

/-- The record that an object is read as comes about slot by slot. -/
theorem readsEach_of_recordOf (hd : Distinct slots) (hc : slots.Pairwise Interchange)
    (h : recordOf name slots start (Json.object members) = .ok record) :
    ReadsEach members slots start record := by
  rw [recordOf_object] at h
  obtain ⟨⟨given, _⟩, hfill, h⟩ := exists_of_bind_ok h
  obtain ⟨-, -, ⟨⟩⟩ := exists_of_bind_ok h
  exact (readsEach_of_fillNamed hd hc hfill).2

/-! ## Fields -/

variable {α : Type} {read : Json → Except DecodeError α} {initial a b : α} {parts : List Json}

/-- What a field is after its part has been read, if there is one. -/
inductive ReadOf (read : Json → Except DecodeError α) (initial : α) : List Json → α → Prop
  | omitted : ReadOf read initial [] initial
  | given {part : Json} {a : α} : read part = .ok a → ReadOf read initial [part] a

theorem ReadOf.unique (h : ReadOf read initial parts a) (h' : ReadOf read initial parts b) :
    a = b := by
  rcases h with _ | hread
  · cases h'
    rfl
  · rcases h' with _ | hread'
    exact Except.ok.inj (hread.symm.trans hread')

theorem ReadOf.length_le_one (h : ReadOf read initial parts a) : parts.length ≤ 1 := by
  rcases h with _ | _ <;> simp

/-- Where null is nothing, a field that may be nothing is what is read without that, or nothing. -/
theorem ReadOf.getD_optionally (hnull : ∀ a, read .null ≠ .ok a) {a? : Option α}
    (h : ReadOf read initial parts a) (h' : ReadOf (optionally read) none parts a?) :
    a?.getD initial = a := by
  rcases h with _ | hread
  · cases h'
    rfl
  · rcases h' with _ | hread'
    obtain rfl := Except.ok.inj ((optionally_of_ok hnull hread).symm.trans hread')
    rfl

/-- The first of the slots is a field that need not be given. -/
theorem ReadsEach.optional {aliases : List String} {set : α → σ → σ}
    (h : ReadsEach members (.optional name aliases read set :: slots) start record) (a : α)
    (hset : set a start = start) :
    ∃ b, ReadOf read a (under (name :: aliases) members) b ∧
      ReadsEach members slots (set b start) record := by
  rcases h with _ | ⟨hparts, hrest⟩ | ⟨hparts, hread, hrest⟩
  · refine ⟨a, ?_, hset.symm ▸ hrest⟩
    rw [show under (name :: aliases) members = [] from hparts]
    exact .omitted
  · obtain ⟨b, hb, rfl⟩ := exists_of_map_ok hread
    refine ⟨b, ?_, hrest⟩
    rw [show under (name :: aliases) members = _ from hparts]
    exact .given hb

theorem Interchange.optional {β : Type} {name' : String} {aliases aliases' : List String}
    {read' : Json → Except DecodeError β} {set : α → σ → σ} {set' : β → σ → σ}
    (h : ∀ a b record, set' b (set a record) = set a (set' b record)) :
    Interchange (.optional name aliases read set) (.optional name' aliases' read' set') := by
  intro part part' change change' hread hread' record
  obtain ⟨a, -, rfl⟩ := exists_of_map_ok hread
  obtain ⟨b, -, rfl⟩ := exists_of_map_ok hread'
  exact h a b record

end Source

end PromptChain
