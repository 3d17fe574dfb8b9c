import Mathlib.Data.List.Induction
import Mathlib.Data.List.Nodup
import PromptChain.Json.Basic

/-!
# Members under keys

The value under a key is the first one that stands there (`Json.lookup`). Members that are
put in one after the other (`Json.inserted`) have every key once, and under it the value
that was put there last: it is the first one from the end (`Json.lookup_inserted`).
-/

namespace PromptChain.Json

variable {α : Type} {key : String} {value : α} {members : List (String × α)}

theorem isSome_lookup_iff : (lookup key members).isSome ↔ key ∈ members.map Prod.fst := by
  induction members with
  | nil => simp [lookup]
  | cons member rest ih =>
    obtain ⟨k, v⟩ := member
    by_cases hk : k = key
    · simp [lookup, hk]
    · simp only [lookup, if_neg hk, ih, List.map_cons, List.mem_cons]
      exact ⟨.inr, fun h => h.resolve_left (Ne.symm hk)⟩

theorem lookup_append (first second : List (String × α)) :
    lookup key (first ++ second) = (lookup key first).or (lookup key second) := by
  induction first with
  | nil => rfl
  | cons member rest ih =>
    obtain ⟨k, v⟩ := member
    by_cases hk : k = key <;> simp [lookup, hk, ih]

/-- Without repeated keys, every member is the one under its key. -/
theorem lookup_eq_some_iff (hd : (members.map Prod.fst).Nodup) :
    lookup key members = some value ↔ (key, value) ∈ members := by
  induction members with
  | nil => simp [lookup]
  | cons member rest ih =>
    obtain ⟨k, v⟩ := member
    rw [List.map_cons, List.nodup_cons] at hd
    by_cases hk : k = key
    · subst hk
      have hnot : (k, value) ∉ rest := fun h => hd.1 (List.mem_map.2 ⟨_, h, rfl⟩)
      simp [lookup, hnot, eq_comm]
    · simp [lookup, hk, ih hd.2, Ne.symm hk]

/-! ## Putting members in -/

theorem lookup_insert (k : String) (v : α) :
    lookup key (insert k v members) = if k = key then some v else lookup key members := by
  induction members with
  | nil => rfl
  | cons member rest ih =>
    obtain ⟨k', v'⟩ := member
    by_cases hk : k' = k
    · subst hk
      by_cases hkey : k' = key <;> simp [insert, lookup, hkey]
    · rw [insert, if_neg hk, lookup, ih, lookup]
      by_cases hkey : k' = key
      · have hne : k ≠ key := fun h => hk (hkey.trans h.symm)
        simp [hkey, hne]
      · simp [hkey]

/-- A key that is there already keeps its place, and a new one comes last. -/
theorem keys_insert (k : String) (v : α) :
    (insert k v members).map Prod.fst =
      if k ∈ members.map Prod.fst then members.map Prod.fst else members.map Prod.fst ++ [k] := by
  induction members with
  | nil => rfl
  | cons member rest ih =>
    obtain ⟨k', v'⟩ := member
    by_cases hk : k' = k
    · simp [insert, hk]
    · rw [insert, if_neg hk, List.map_cons, ih]
      by_cases hmem : k ∈ rest.map Prod.fst <;> simp [hmem, Ne.symm hk]

theorem nodup_keys_insert (hd : (members.map Prod.fst).Nodup) (k : String) (v : α) :
    ((insert k v members).map Prod.fst).Nodup := by
  rw [keys_insert]
  split
  next => exact hd
  next hmem => exact List.concat_eq_append ▸ hd.concat hmem

theorem nodup_keys_foldl_insert {done : List (String × α)} (hd : (done.map Prod.fst).Nodup) :
    ((members.foldl (fun done (k, v) => insert k v done) done).map Prod.fst).Nodup := by
  induction members generalizing done with
  | nil => exact hd
  | cons member rest ih => exact ih (nodup_keys_insert hd _ _)

theorem lookup_foldl_insert (done : List (String × α)) :
    lookup key (members.foldl (fun done (k, v) => insert k v done) done) =
      (lookup key members.reverse).or (lookup key done) := by
  induction members generalizing done with
  | nil => rfl
  | cons member rest ih =>
    obtain ⟨k, v⟩ := member
    rw [List.foldl_cons, ih, lookup_insert, List.reverse_cons, lookup_append]
    by_cases hk : k = key <;> simp [lookup, hk]

/-- Every key is there once. -/
theorem nodup_keys_inserted (members : List (String × α)) :
    ((inserted members).map Prod.fst).Nodup :=
  nodup_keys_foldl_insert List.nodup_nil

/-- Under a key is the value that was put there last. -/
theorem lookup_inserted (key : String) (members : List (String × α)) :
    lookup key (inserted members) = lookup key members.reverse := by
  rw [inserted, lookup_foldl_insert]
  exact Option.or_none

theorem mem_keys_inserted : key ∈ (inserted members).map Prod.fst ↔ key ∈ members.map Prod.fst := by
  rw [← isSome_lookup_iff, lookup_inserted, isSome_lookup_iff, List.map_reverse, List.mem_reverse]

/-- The keys are in the order in which they came first. -/
theorem keys_inserted (members : List (String × α)) :
    (inserted members).map Prod.fst = (members.map Prod.fst).eraseDups := by
  induction members using List.reverseRecOn with
  | nil => rfl
  | append_singleton members member ih =>
    have hlast : inserted (members ++ [member]) = insert member.1 member.2 (inserted members) := by
      rw [inserted, List.foldl_append]
      rfl
    rw [hlast, keys_insert, ih, List.map_append, List.eraseDups_append]
    by_cases hk : member.1 ∈ members.map Prod.fst <;> simp [hk, List.removeAll, List.eraseDups_cons]

end PromptChain.Json
