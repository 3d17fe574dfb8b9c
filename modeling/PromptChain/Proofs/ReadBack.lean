import PromptChain.Decode.OfValue
import PromptChain.Decode.Record
import PromptChain.Proofs.Fresh

/-!
# Records that are read back

A record is written as an object that has its fields in the order of the slots, and leaves out
some of those that need not be given. Members *write* a record over another one if to read them,
slot by slot, leads from the one to the other (`Source.Writes`). If the slots are apart, each name
belonging to one of them, then the object with these members is read as the record
(`Source.recordOf_of_writes`), although its fields are looked for by name.
-/

namespace PromptChain

open Json (ofBinary64 ofWord)

/-! ## Numbers -/

namespace Binary64

theorem roundDiv_le (num den : Nat) : roundDiv num den ≤ num / den + 1 := by
  simp only [roundDiv]
  split <;> omega

theorem ofRank_of_lt {negative : Bool} {rank : Nat} (h : rank < 2047 * gridSize) :
    ofRank negative rank = .finite ⟨negative, rank, h⟩ := dif_pos h

/-- On its grid a natural number has a significand of at most one bit more than it should. -/
theorem roundDiv_scaled_le (num : Nat) {e : Int} (he : (num.log2 : Int) - 53 ≤ e) :
    roundDiv (scaled num 1 e).1 (scaled num 1 e).2 ≤ 4 * gridSize := by
  have hlt : num < 2 ^ (num.log2 + 1) := Nat.lt_log2_self
  have hgrid : 4 * gridSize = 2 ^ 54 := by decide
  rw [hgrid]
  refine Nat.le_trans (roundDiv_le _ _) (Nat.succ_le_of_lt ?_)
  rw [scaled]
  split
  next hpos =>
    simp only [Nat.shiftLeft_eq, Nat.one_mul]
    rw [Nat.div_lt_iff_lt_mul (Nat.two_pow_pos _), ← Nat.pow_add]
    exact Nat.lt_of_lt_of_le hlt (Nat.pow_le_pow_right (by decide) (by omega))
  next hneg =>
    simp only [Nat.shiftLeft_eq, Nat.div_one]
    calc num * 2 ^ (-e).toNat < 2 ^ (num.log2 + 1) * 2 ^ (-e).toNat :=
          Nat.mul_lt_mul_of_pos_right hlt (Nat.two_pow_pos _)
      _ = 2 ^ (num.log2 + 1 + (-e).toNat) := (Nat.pow_add ..).symm
      _ ≤ 2 ^ 54 := Nat.pow_le_pow_right (by decide) (by omega)

theorem gridExponent_one (num : Nat) : (num.log2 : Int) - 53 ≤ gridExponent num 1 ∧
    gridExponent num 1 ≤ max ((num.log2 : Int) - 52) (-1074) := by
  have hone : Nat.log2 1 = 0 := by decide
  simp only [gridExponent, hone]
  split <;> omega

/-- An integer of 64 bits is near a finite number. -/
theorem exists_ofInt_eq_finite {n : Int} (h : n.natAbs < UInt64.size) :
    ∃ x, ofInt n = .finite x := by
  rw [ofInt, ofRatio]
  split
  · exact ⟨_, ofRank_of_lt (by decide)⟩
  next hne =>
    have hlog := (Nat.log2_lt hne).2 (show n.natAbs < 2 ^ 64 from h)
    obtain ⟨hlow, hhigh⟩ := gridExponent_one n.natAbs
    have hround := roundDiv_scaled_le n.natAbs hlow
    have hgrid : (gridExponent n.natAbs 1 + 1074).toNat * gridSize ≤ 1085 * gridSize :=
      Nat.mul_le_mul_right _ (by omega)
    have hfits : 1085 * gridSize + 4 * gridSize < 2047 * gridSize := by decide
    exact ⟨_, ofRank_of_lt (Nat.lt_of_le_of_lt (Nat.add_le_add hgrid hround) hfits)⟩

end Binary64

namespace Source

/-- Whatever was read is read back from its own writing. -/
def Stable {α : Type} (read : Json → Except DecodeError α) (write : α → Json) : Prop :=
  ∀ {part : Json} {a : α}, read part = .ok a → read (write a) = .ok a

/-- Whatever was read is written as before if it is read from its own writing. -/
def Canonical {α : Type} (read : Json → Except DecodeError α) (write : α → Json) : Prop :=
  ∀ {part : Json} {a again : α}, read part = .ok a → read (write a) = .ok again →
    write again = write a

theorem Stable.canonical {α : Type} {read : Json → Except DecodeError α} {write : α → Json}
    (hstable : Stable read write) : Canonical read write := by
  intro part a again h hagain
  obtain rfl := Except.ok.inj ((hstable h).symm.trans hagain)
  rfl

/-- A number of a JSON value is finite. -/
theorem exists_of_double {part : Json} {x : Binary64} (h : double part = .ok x) :
    ∃ y, x = .finite y := by
  cases part with
  | number n =>
    obtain rfl := Except.ok.inj h
    cases n with
    | int n => exact Binary64.exists_ofInt_eq_finite (by have := n.2; rw [UInt64.size]; omega)
    | float y => exact ⟨y, rfl⟩
  | _ => cases h

theorem stable_double : Stable double ofBinary64 := by
  intro part x h
  obtain ⟨y, rfl⟩ := exists_of_double h
  rfl

theorem word32_ofWord (n : UInt32) : word32 (ofWord n.toUInt64) = .ok n := by
  have hlt := n.toNat_lt
  have hword : word UInt32.size "u32" (ofWord n.toUInt64) = .ok ⟨n.toNat, hlt⟩ := by
    show Json.Number.toWord UInt32.size "u32" (.int ⟨(n.toUInt64.toNat : Int), _⟩) = _
    rw [Json.Number.toWord, dif_pos (by simp; omega)]
    simp
  rw [word32, hword]
  rfl

end Source

/-! ## Alternatives, lists and values that may be missing -/

namespace Source

variable {α : Type} {read : Json → Except DecodeError α} {write : α → Json}

/-- An alternative is read back by its name. -/
theorem oneOf_string {names : List (String × α)} {name : String} {a : α}
    (h : Json.lookup name names = some a) : oneOf names (Json.string name) = .ok a := by
  simp only [oneOf, choice, h]

theorem readAll_map {values : List α} (h : ∀ a ∈ values, read (write a) = .ok a) :
    readAll read (values.map write) = .ok values := by
  induction values with
  | nil => rfl
  | cons a rest ih =>
    rw [List.forall_mem_cons] at h
    rw [List.map_cons, readAll, h.1, ih h.2]
    rfl

/-- A list is read back if its items are. -/
theorem listOf_array {values : List α} (h : ∀ a ∈ values, read (write a) = .ok a) :
    listOf read (.array (values.map write)) = .ok values := by
  show (readAll read (values.map write) >>= fun values => check none >>= fun _ => .ok values) =
    .ok values
  rw [readAll_map h]
  rfl

theorem listOf_ofStrings (texts : List String) : listOf string (Json.ofStrings texts) = .ok texts :=
  @listOf_array String string Json.string texts fun _ _ => rfl

theorem exists_of_mem_readAll {items : List Json} {values : List α} {a : α}
    (h : readAll read items = .ok values) (ha : a ∈ values) : ∃ item, read item = .ok a := by
  induction items generalizing values with
  | nil =>
    obtain rfl := Except.ok.inj h
    cases ha
  | cons item rest ih =>
    obtain ⟨value, hvalue, h⟩ := exists_of_bind_ok h
    obtain ⟨later, hlater, h⟩ := exists_of_bind_ok h
    obtain rfl := Except.ok.inj h
    rcases List.mem_cons.1 ha with rfl | ha
    · exact ⟨item, hvalue⟩
    · exact ih hlater ha

theorem Stable.of_listOf (hstable : Stable read write) {part : Json} {values : List α}
    (h : listOf read part = .ok values) : ∀ a ∈ values, read (write a) = .ok a := by
  intro a ha
  obtain ⟨items, -, h⟩ := exists_of_bind_ok h
  obtain ⟨read, hread, h⟩ := exists_of_bind_ok h
  obtain ⟨-, -, h⟩ := exists_of_bind_ok h
  obtain rfl := Except.ok.inj h
  obtain ⟨item, hitem⟩ := exists_of_mem_readAll hread ha
  exact hstable hitem

/-- What can be read from something else than null is read back where it may be missing. -/
theorem optionally_of_ok {value : Json} {a : α} (hnull : ∀ a, read .null ≠ .ok a)
    (h : read value = .ok a) : optionally read value = .ok (some a) := by
  cases value with
  | null => exact absurd h (hnull a)
  | _ =>
    show some <$> read _ = .ok (some a)
    rw [h]
    rfl

theorem Stable.of_optionally (hstable : Stable read write) {part : Json} {a? : Option α}
    (h : optionally read part = .ok a?) : ∀ a, a? = some a → read (write a) = .ok a := by
  rintro a rfl
  obtain ⟨part?, -, h⟩ := exists_of_bind_ok h
  cases part? with
  | none => cases h
  | some value =>
    obtain ⟨b, hb, heq⟩ := exists_of_map_ok h
    obtain rfl := Option.some.inj heq
    exact hstable hb

end Source

/-! ## Records -/

namespace Source

variable {σ : Type}

/-- Members write a record over another one, in the order of the slots. -/
inductive Writes : List (Slot Json σ) → List (String × Json) → σ → σ → Prop
  | nil (record : σ) : Writes [] [] record record
  | given {slot : Slot Json σ} {slots : List (Slot Json σ)} {value : Json} {change : σ → σ}
      {members : List (String × Json)} {start record : σ} : slot.read value = .ok change →
      Writes slots members (change start) record →
      Writes (slot :: slots) ((slot.name, value) :: members) start record
  | omitted {slot : Slot Json σ} {slots : List (Slot Json σ)} {members : List (String × Json)}
      {start record : σ} : slot.required = false → Writes slots members start record →
      Writes (slot :: slots) members start record

/-- No slot goes by the name of a later one. -/
def Apart (slots : List (Slot Json σ)) : Prop :=
  slots.Pairwise fun slot later => slot.goesBy later.name = false

instance (slots : List (Slot Json σ)) : Decidable (Apart slots) :=
  inferInstanceAs (Decidable (slots.Pairwise _))

variable {slots : List (Slot Json σ)} {members : List (String × Json)} {start record : σ}

theorem goesBy_name (slot : Slot Json σ) : slot.goesBy slot.name = true := by
  simp [Slot.goesBy]

theorem fillNamed_cons {slot : Slot Json σ} {name : String} {value : Json} {change : σ → σ}
    {given : List String} {rest : List (Except DecodeError String × Json)}
    (hfind : slots.find? (·.goesBy name) = some slot) (hnew : given.contains slot.name = false)
    (hread : slot.read value = .ok change) :
    fillNamed slots ((.ok name, value) :: rest) given start =
      fillNamed slots rest (slot.name :: given) (change start) := by
  rw [fillNamed]
  simp only [bind, Except.bind, hfind, hnew, hread]
  rfl

/-- The members are found one after the other in the slots to which they belong. -/
theorem fillNamed_of_writes (h : Writes slots members start record)
    {before : List (Slot Json σ)} {given : List String} (hapart : Apart (before ++ slots))
    (hgiven : ∀ name ∈ given, ∃ slot ∈ before, slot.name = name) :
    ∃ given', fillNamed (before ++ slots) (members.map fun member => (.ok member.1, member.2))
          given start = .ok (given', record) ∧
      (∀ name ∈ given, name ∈ given') ∧
      ∀ slot ∈ slots, slot.required = true → slot.name ∈ given' := by
  induction h generalizing before given with
  | nil record => exact ⟨given, rfl, fun _ h => h, nofun⟩
  | @given slot slots value change members start record hread _ ih =>
    have hnot : ∀ other ∈ before, other.goesBy slot.name = false := fun other ho =>
      (List.pairwise_append.1 hapart).2.2 other ho slot List.mem_cons_self
    have hfind : (before ++ slot :: slots).find? (·.goesBy slot.name) = some slot := by
      rw [List.find?_append, List.find?_eq_none.2 fun other ho => by simp [hnot other ho],
        Option.none_or, List.find?_cons, goesBy_name]
    have hnew : given.contains slot.name = false := by
      rw [List.contains_eq_mem, decide_eq_false_iff_not]
      intro hmem
      obtain ⟨other, ho, hname⟩ := hgiven _ hmem
      have := hnot other ho
      rw [← hname, goesBy_name] at this
      cases this
    rw [List.append_cons] at hapart
    obtain ⟨given', hfill, hkeep, hrequired⟩ := @ih (before ++ [slot]) (slot.name :: given) hapart
      (by
        intro name hname
        rcases List.mem_cons.1 hname with rfl | hname
        · exact ⟨slot, by simp, rfl⟩
        · obtain ⟨other, ho, rfl⟩ := hgiven _ hname
          exact ⟨other, List.mem_append_left _ ho, rfl⟩)
    rw [← List.append_cons] at hfill
    refine ⟨given', ?_, fun name hname => hkeep _ (List.mem_cons_of_mem _ hname), ?_⟩
    · rw [← hfill, List.map_cons, fillNamed_cons hfind hnew hread]
    · exact List.forall_mem_cons.2 ⟨fun _ => hkeep _ List.mem_cons_self, hrequired⟩
  | @omitted slot slots members start record hslot _ ih =>
    rw [List.append_cons] at hapart
    obtain ⟨given', hfill, hkeep, hrequired⟩ := @ih (before ++ [slot]) given hapart
      (fun name hname => by
        obtain ⟨other, ho, rfl⟩ := hgiven _ hname
        exact ⟨other, List.mem_append_left _ ho, rfl⟩)
    rw [← List.append_cons] at hfill
    refine ⟨given', hfill, hkeep, List.forall_mem_cons.2 ⟨fun h => ?_, hrequired⟩⟩
    rw [hslot] at h
    cases h

theorem recordOf_object (name : String) : recordOf name slots start (Json.object members) = do
    let read ← fillNamed slots (members.map fun member => (.ok member.1, member.2)) [] start
    checkGiven slots read.1
    return read.2 := rfl

/-- An object is read as the record that its members write. -/
theorem recordOf_of_writes (hapart : Apart slots) (h : Writes slots members start record)
    (name : String) : recordOf name slots start (Json.object members) = .ok record := by
  obtain ⟨given, hfill, -, hrequired⟩ := @fillNamed_of_writes _ _ _ _ _ h [] [] hapart nofun
  have hnone : slots.find? (fun slot => slot.required && !given.contains slot.name) = none := by
    rw [List.find?_eq_none]
    intro slot hslot
    cases hr : slot.required with
    | false => simp
    | true => simp [hrequired slot hslot hr]
  rw [List.nil_append] at hfill
  rw [recordOf_object, hfill]
  show (checkGiven slots given >>= fun _ => .ok record) = .ok record
  rw [checkGiven, hnone]
  rfl

/-! ### Fields -/

variable {α : Type} {name : String} {aliases : List String} {read : Json → Except DecodeError α}

/-- A field that must be given. -/
theorem Writes.needed {set : α → σ → σ} {value : Json} {a : α} (hread : read value = .ok a)
    (h : Writes slots members (set a start) record) :
    Writes (.needed name aliases read set :: slots) ((name, value) :: members) start record :=
  .given (show set <$> read value = .ok (set a) by rw [hread]; rfl) h

/-- A field that need not be given, and is. -/
theorem Writes.optional {set : α → σ → σ} {value : Json} {a : α} (hread : read value = .ok a)
    (h : Writes slots members (set a start) record) :
    Writes (.optional name aliases read set :: slots) ((name, value) :: members) start record :=
  .given (show set <$> read value = .ok (set a) by rw [hread]; rfl) h

/-- A field that is given if there is a value. -/
theorem Writes.optionally {write : α → Json} {set : Option α → σ → σ} {a? : Option α}
    (hread : ∀ a, a? = some a → read (write a) = .ok a) (hnull : ∀ a, read .null ≠ .ok a)
    (hnone : set none start = start) (h : Writes slots members (set a? start) record) :
    Writes (.optional name aliases (Source.optionally read) set :: slots)
      (Json.optionally name (a?.map write) ++ members) start record := by
  cases a? with
  | none =>
    rw [hnone] at h
    exact .omitted rfl h
  | some a => exact .optional (optionally_of_ok hnull (hread a rfl)) h

/-- A field that is null if there is no value. -/
theorem Writes.orNull {write : α → Json} {set : Option α → σ → σ} {a? : Option α}
    (hread : ∀ a, a? = some a → read (write a) = .ok a) (hnull : ∀ a, read .null ≠ .ok a)
    (h : Writes slots members (set a? start) record) :
    Writes (.optional name aliases (Source.optionally read) set :: slots)
      ((name, .orNull (a?.map write)) :: members) start record := by
  cases a? with
  | none => exact .optional rfl h
  | some a => exact .optional (optionally_of_ok hnull (hread a rfl)) h

end Source

end PromptChain
