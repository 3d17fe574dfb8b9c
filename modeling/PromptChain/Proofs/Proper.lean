import PromptChain.Json.Draft
import PromptChain.Proofs.Fresh
import PromptChain.Proofs.Members

/-!
# Proper values

Members are a list, which could repeat a key. In a *proper* value none is repeated, however deep,
and every value that is read from a text is proper (`Json.proper_of_parse`).
-/

namespace PromptChain.Json

/-- No object within the value repeats a key. -/
inductive Proper : Json → Prop
  | null : Proper .null
  | bool (b : Bool) : Proper (.bool b)
  | number (n : Number) : Proper (.number n)
  | string (s : String) : Proper (.string s)
  | array {items : List Json} : (∀ item ∈ items, Proper item) → Proper (.array items)
  | object {members : List (String × Json)} : (members.map Prod.fst).Nodup →
      (∀ member ∈ members, Proper member.2) → Proper (.object members)

attribute [simp] Proper.null Proper.bool Proper.number Proper.string

@[simp] theorem proper_array {items : List Json} :
    (array items).Proper ↔ ∀ item ∈ items, item.Proper := by
  constructor
  · rintro ⟨⟩
    assumption
  · exact .array

@[simp] theorem proper_object {members : List (String × Json)} :
    (object members).Proper ↔
      (members.map Prod.fst).Nodup ∧ ∀ member ∈ members, member.2.Proper := by
  constructor
  · rintro ⟨⟩
    exact ⟨‹_›, ‹_›⟩
  · rintro ⟨hkeys, hmembers⟩
    exact .object hkeys hmembers

theorem mem_of_lookup {α : Type} {key : String} {value : α} {members : List (String × α)}
    (h : lookup key members = some value) : (key, value) ∈ members := by
  induction members with
  | nil => cases h
  | cons member rest ih =>
    obtain ⟨k, v⟩ := member
    rw [lookup] at h
    split at h
    next hk =>
      obtain rfl := Option.some.inj h
      rw [hk]
      exact List.mem_cons_self
    next => exact List.mem_cons_of_mem _ (ih h)

theorem lookup_eq_none_iff {α : Type} {key : String} {members : List (String × α)} :
    lookup key members = none ↔ key ∉ members.map Prod.fst := by
  rw [← isSome_lookup_iff, Option.not_isSome_iff_eq_none]

theorem mem_of_mem_inserted {α : Type} {member : String × α} {members : List (String × α)}
    (h : member ∈ inserted members) : member ∈ members := by
  rw [← lookup_eq_some_iff (nodup_keys_inserted members), lookup_inserted] at h
  exact List.mem_reverse.1 (mem_of_lookup h)

/-- What is in a proper value is proper. -/
theorem Proper.get? {value part : Json} {key : String} (hv : value.Proper)
    (h : value.get? key = some part) : part.Proper := by
  cases hv with
  | object _ hmembers => exact hmembers _ (mem_of_lookup h)
  | _ => cases h

/-! ## Values from a text -/

mutual

/-- What is taken from a draft is proper. -/
theorem Draft.proper_of_take : ∀ {draft : Draft} {value : Json}, draft.take = .ok value →
    value.Proper
  | .absent _, _, h | .number (.error _), _, h => by cases h
  | .null _, _, h => by
    obtain ⟨-, -, rfl⟩ := exists_of_map_ok h
    exact .null
  | .bool b _, _, h => by
    obtain ⟨-, -, rfl⟩ := exists_of_map_ok h
    exact .bool b
  | .number (.ok _), _, h => by
    obtain ⟨n, -, rfl⟩ := exists_of_map_ok h
    exact .number n
  | .string _, _, h => by
    obtain ⟨s, -, rfl⟩ := exists_of_map_ok h
    exact .string s
  | .list _ items _, _, h => by
    obtain ⟨-, -, h⟩ := exists_of_bind_ok h
    obtain ⟨values, hvalues, h⟩ := exists_of_bind_ok h
    obtain ⟨-, -, h⟩ := exists_of_bind_ok h
    obtain rfl := Except.ok.inj h
    exact .array (proper_of_takeItems hvalues)
  | .object _ members _, _, h => by
    obtain ⟨-, -, h⟩ := exists_of_bind_ok h
    obtain ⟨entries, hentries, h⟩ := exists_of_bind_ok h
    obtain ⟨-, -, h⟩ := exists_of_bind_ok h
    obtain rfl := Except.ok.inj h
    exact .object (nodup_keys_inserted entries)
      fun member hmem => proper_of_takeMembers hentries member (mem_of_mem_inserted hmem)

theorem proper_of_takeItems : ∀ {items : List Draft} {values : List Json},
    takeItems items = .ok values → ∀ value ∈ values, value.Proper
  | [], _, h => by
    obtain rfl := Except.ok.inj h
    simp
  | _ :: _, _, h => by
    obtain ⟨value, hvalue, h⟩ := exists_of_bind_ok h
    obtain ⟨values, hvalues, h⟩ := exists_of_bind_ok h
    obtain rfl := Except.ok.inj h
    exact List.forall_mem_cons.2 ⟨Draft.proper_of_take hvalue, proper_of_takeItems hvalues⟩

theorem proper_of_takeMembers : ∀ {members : List (Draft × Draft)} {entries : List (String × Json)},
    takeMembers members = .ok entries → ∀ entry ∈ entries, entry.2.Proper
  | [], _, h => by
    obtain rfl := Except.ok.inj h
    simp
  | (_, _) :: _, _, h => by
    obtain ⟨_, -, h⟩ := exists_of_bind_ok h
    obtain ⟨value, hvalue, h⟩ := exists_of_bind_ok h
    obtain ⟨entries, hentries, h⟩ := exists_of_bind_ok h
    obtain rfl := Except.ok.inj h
    exact List.forall_mem_cons.2 ⟨Draft.proper_of_take hvalue, proper_of_takeMembers hentries⟩

end

/-- A value that is read from a text is proper. -/
theorem proper_of_parse {text : String} {value : Json} (h : parse text = .ok value) :
    value.Proper := by
  obtain ⟨taken, htake, h⟩ := exists_of_bind_ok h
  obtain ⟨-, -, h⟩ := exists_of_bind_ok h
  obtain rfl := Except.ok.inj h
  exact Draft.proper_of_take htake

end PromptChain.Json
