import PromptChain.Proofs.Conformance
import PromptChain.Proofs.Proper

/-!
# Envelopes

A model is asked for an object in any case. So the schema that it is asked to obey is that of
the *envelope* in which a list or a choice travels, an object with one property
(`Compiled.requestSchema`), whereas the answer itself is checked after it was taken out of the
envelope (`Compiled.unwrap`). The two schemas fit each other, whatever the names of the fields
are:

* `Compiled.isValid_requestSchema_wrap`, `Compiled.exists_eq_wrap_of_isValid`: the envelopes of
  conforming values obey the schema of the request, and nothing else does;
* `Compiled.unwrap_of_conforms`: a conforming value is never taken for an envelope.

The members of an object are a list here, which could repeat a key. In a value that is read from
a text no key is repeated (`Json.distinctKeys_of_parse`), so an answer whose text obeys the schema
of the request always passes (`envelopes_fit`).
-/

namespace PromptChain

namespace Json

/-- The value has every key once, if it is an object. -/
def DistinctKeys (value : Json) : Prop :=
  ∀ members, value = .object members → (members.map Prod.fst).Nodup

/-- A list of members with one key has one member. -/
theorem exists_eq_singleton {α : Type} {key : String} {members : List (String × α)}
    (hd : (members.map Prod.fst).Nodup) (hk : ∀ name, name ∈ members.map Prod.fst ↔ name = key) :
    ∃ value, members = [(key, value)] := by
  obtain ⟨⟨k, value⟩, hmem, rfl⟩ := List.mem_map.1 ((hk key).2 rfl)
  obtain ⟨before, after, rfl⟩ := List.append_of_mem hmem
  rw [List.map_append, List.map_cons, List.nodup_middle, List.nodup_cons] at hd
  -- A member beside this one has the same key.
  have hnone : ∀ member ∈ before ++ after, False := fun member hm => by
    have hkey := (hk member.1).1 (List.mem_map_of_mem (by
      rcases List.mem_append.1 hm with hb | ha <;> simp [*]))
    refine hd.1 ?_
    rw [← List.map_append, ← hkey]
    exact List.mem_map_of_mem hm
  obtain ⟨rfl, rfl⟩ := List.append_eq_nil_iff.1 (List.eq_nil_iff_forall_not_mem.2 hnone)
  exact ⟨value, rfl⟩

theorem Proper.distinctKeys {value : Json} (h : value.Proper) : value.DistinctKeys := by
  rintro members rfl
  exact (proper_object.1 h).1

/-- A value that is read from a text repeats no key. -/
theorem distinctKeys_of_parse {text : String} {value : Json} (h : parse text = .ok value) :
    value.DistinctKeys :=
  (proper_of_parse h).distinctKeys

end Json

namespace Schema

namespace Compiled

variable {description : Description} {compiled : Compiled}

theorem shape_of_compile? (h : compile? description = some compiled) :
    compiled.shape = description.shape := by
  obtain ⟨shape, fields, choices⟩ := description
  cases shape with
  | single | list =>
    obtain rfl := Option.some.inj h
    rfl
  | choice =>
    cases choices with
    | nil => cases h
    | cons first rest =>
      obtain rfl := Option.some.inj h
      rfl

/-- The schema of the request expresses that a value is an envelope of one key, with a conforming
    value in it, if the shape has an envelope. -/
theorem expresses_requestSchema (h : compile? description = some compiled) :
    Expresses compiled.requestSchema fun w =>
      match envelopeKey? compiled.shape with
      | none => description.Conforms w
      | some key => ∃ members, w = .object members ∧
          (∀ name, name ∈ members.map Prod.fst ↔ name = key) ∧
          ∀ name v, Json.lookup name members = some v → description.Conforms v := by
  rw [requestSchema]
  cases envelopeKey? compiled.shape with
  | none => exact expresses_conforms h
  | some key =>
    have hpart : ∀ name part, Json.lookup name [(key, compiled.schema)].reverse = some part →
        Expresses part description.Conforms := fun name part hp => by
      obtain ⟨-, rfl⟩ : key = name ∧ compiled.schema = part := by
        simpa [Json.lookup] using hp
      exact expresses_conforms h
    refine (expresses_closedObject (P := fun _ => description.Conforms) hpart).congr fun w => ?_
    simp

/-- The envelope of a conforming value obeys the schema of the request. -/
theorem isValid_requestSchema_wrap (h : compile? description = some compiled) {v : Json}
    (hv : description.Conforms v) :
    (validate compiled.requestSchema (compiled.wrap v)).isValid = true := by
  rw [isValid_validate_iff, expresses_requestSchema h _ [], wrap]
  cases envelopeKey? compiled.shape with
  | none => exact hv
  | some key =>
    refine ⟨_, rfl, by simp, fun name v' hl => ?_⟩
    obtain ⟨-, rfl⟩ : key = name ∧ v = v' := by simpa [Json.lookup] using hl
    exact hv

/-- What obeys the schema of the request is the envelope of a conforming value. -/
theorem exists_eq_wrap_of_isValid (h : compile? description = some compiled) {w : Json}
    (hw : w.DistinctKeys) (hvalid : (validate compiled.requestSchema w).isValid = true) :
    ∃ v, description.Conforms v ∧ w = compiled.wrap v := by
  rw [isValid_validate_iff, expresses_requestSchema h w []] at hvalid
  simp only [wrap]
  cases hk : envelopeKey? compiled.shape with
  | none =>
    rw [hk] at hvalid
    exact ⟨w, hvalid, rfl⟩
  | some key =>
    rw [hk] at hvalid
    obtain ⟨members, rfl, hkeys, hvalues⟩ := hvalid
    obtain ⟨v, rfl⟩ := Json.exists_eq_singleton (hw members rfl) hkeys
    exact ⟨v, hvalues key v (by simp [Json.lookup]), rfl⟩

/-- What is put into its envelope is taken out again. -/
theorem unwrap_wrap (compiled : Compiled) (v : Json) : compiled.unwrap (compiled.wrap v) = v := by
  cases hk : envelopeKey? compiled.shape <;> simp [unwrap, wrap, hk]

/-- A conforming value is never taken for an envelope. -/
theorem unwrap_of_conforms (h : compile? description = some compiled) {v : Json}
    (hv : description.Conforms v) : compiled.unwrap v = v := by
  have hshape := shape_of_compile? h
  cases hv with
  | single hs | list hs | choice hs =>
    rw [hs] at hshape
    simp [unwrap, hshape, envelopeKey?]

end Compiled

/-- The schema that a model is asked to obey fits the one that its answer is checked with. -/
theorem envelopes_fit {description : Description} {compiled : Compiled}
    (h : compile? description = some compiled) :
    -- A list travels as the elements of an object, a choice as its result.
    (∀ v, compiled.wrap v =
      match description.shape with
      | .single => v
      | .list => .object [("elements", v)]
      | .choice => .object [("result", v)]) ∧
    -- What obeys the schema of the request holds an answer that passes.
    (∀ w, w.DistinctKeys → (validate compiled.requestSchema w).isValid = true →
      (compiled.check (compiled.unwrap w)).isValid = true) ∧
    -- So the answer of a model passes if its text obeys the schema of the request, as what is
    -- read from a text repeats no key.
    (∀ text w, Json.parse text = .ok w → (validate compiled.requestSchema w).isValid = true →
      (compiled.check (compiled.unwrap w)).isValid = true) ∧
    -- An answer that passes obeys the schema of the request in its envelope, and is taken out of
    -- it as it was.
    (∀ v, (compiled.check v).isValid = true →
      (validate compiled.requestSchema (compiled.wrap v)).isValid = true ∧
        compiled.unwrap (compiled.wrap v) = v) ∧
    -- An answer that passes is left as it is if it comes without an envelope.
    (∀ v, (compiled.check v).isValid = true → compiled.unwrap v = v) := by
  have hobeys : ∀ w, w.DistinctKeys → (validate compiled.requestSchema w).isValid = true →
      (compiled.check (compiled.unwrap w)).isValid = true := by
    intro w hw hvalid
    obtain ⟨v, hv, rfl⟩ := compiled.exists_eq_wrap_of_isValid h hw hvalid
    rw [compiled.unwrap_wrap]
    exact (compiled.isValid_check_iff h v).2 hv
  refine ⟨fun v => ?_, hobeys, fun text w hw => hobeys w (Json.distinctKeys_of_parse hw),
    fun v hv => ⟨?_, compiled.unwrap_wrap v⟩,
    fun v hv => compiled.unwrap_of_conforms h ((compiled.isValid_check_iff h v).1 hv)⟩
  · rw [Compiled.wrap, Compiled.shape_of_compile? h]
    cases description.shape <;> rfl
  · exact compiled.isValid_requestSchema_wrap h ((compiled.isValid_check_iff h v).1 hv)

/-- A field is called like the property of the envelope. -/
theorem envelopes_fit_namesake :
    ∃ compiled answer, compile? (.list [⟨"elements", .textList, none⟩]) = some compiled ∧
      answer = .array [.object [("elements", .array [.string "a"])]] ∧
      (compiled.check (compiled.unwrap (.object [("elements", answer)]))).isValid = true ∧
      compiled.unwrap (.object [("elements", answer)]) = answer ∧
      compiled.unwrap answer = answer := by
  have hcompiled : compile? (.list [⟨"elements", .textList, none⟩]) = some _ := rfl
  obtain ⟨hwrap, hobeys, -, hpasses, hbare⟩ := envelopes_fit hcompiled
  let answer : Json := .array [.object [("elements", .array [.string "a"])]]
  have hdistinct : (Json.object [("elements", answer)]).DistinctKeys := by
    rintro members ⟨rfl⟩
    exact List.nodup_singleton _
  have hanswer := hobeys (.object [("elements", answer)]) hdistinct (by decide +kernel)
  have hunwrap := (hpasses answer hanswer).2
  rw [hwrap] at hunwrap
  exact ⟨_, answer, hcompiled, rfl, hanswer, hunwrap, hbare answer hanswer⟩

end Schema

end PromptChain
