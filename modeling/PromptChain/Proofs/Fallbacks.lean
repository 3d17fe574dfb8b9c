import Mathlib.Data.List.Perm.Subperm
import Mathlib.Data.List.Sort
import PromptChain.Proofs.Declarations

/-!
# Fields that fall back to texts

A field whose type is not known is compiled as a text, and the compiled schema lists its name to
tell so. What decides on the property of a name is the last declaration of the name, though, while
a name is listed once for each of its declarations with an unknown type, whether or not a later
one takes its place.

So the list never conceals a property that fell back (`Field.mem_unknownNames_of_last?`), but it
may name one that did not, or name one twice, or not keep to the order of the properties. It tells
the truth (`Compiled.TellsFallbacks`) just if each declaration of an unknown type is the last one
of its name, and these declarations are in the order in which their names were declared first
(`Field.InPlace`).
-/

namespace PromptChain

/-! ## First occurrences -/

section

variable {α : Type} [BEq α] [LawfulBEq α]

/-- The first occurrences in a list are in the order of their places. -/
theorem pairwise_idxOf_eraseDups (names : List α) :
    names.eraseDups.Pairwise fun a b => names.idxOf a < names.idxOf b := by
  induction names using List.reverseRecOn with
  | nil => exact .nil
  | append_singleton names name ih =>
    have hkept : names.eraseDups.Pairwise fun a b =>
        (names ++ [name]).idxOf a < (names ++ [name]).idxOf b := by
      refine ih.imp_of_mem fun {a b} ha hb hlt => ?_
      rwa [List.idxOf_append_of_mem (List.mem_eraseDups.1 ha),
        List.idxOf_append_of_mem (List.mem_eraseDups.1 hb)]
    rw [List.eraseDups_append]
    by_cases hname : name ∈ names
    · simpa [List.removeAll, hname] using hkept
    · have hlast : ∀ a ∈ names, (names ++ [name]).idxOf a < (names ++ [name]).idxOf name := by
        intro a ha
        rw [List.idxOf_append_of_mem ha, List.idxOf_append_of_notMem hname]
        exact Nat.lt_add_right _ (List.idxOf_lt_length_of_mem ha)
      rw [List.pairwise_append]
      simpa [List.removeAll, hname, List.eraseDups_cons] using ⟨hkept, hlast⟩

/-- What occurs in a list, in the order of the places, is a part of its first occurrences. -/
theorem sublist_eraseDups_iff {part names : List α} :
    part.Sublist names.eraseDups ↔
      part ⊆ names ∧ part.Pairwise fun a b => names.idxOf a < names.idxOf b := by
  constructor
  · intro h
    exact ⟨fun a ha => List.mem_eraseDups.1 (h.subset ha),
      (pairwise_idxOf_eraseDups names).sublist h⟩
  · rintro ⟨hsub, hordered⟩
    let precedes (a b : α) : Prop := names.idxOf a < names.idxOf b
    have hanti : Std.Antisymm precedes := ⟨fun _ _ h h' => absurd h' (Nat.lt_asymm h)⟩
    have hirrefl : Std.Irrefl precedes := ⟨fun _ => Nat.lt_irrefl _⟩
    have hperm : part.Subperm names.eraseDups :=
      List.Nodup.subperm (List.Pairwise.nodup (r := precedes) hordered)
        fun a ha => List.mem_eraseDups.2 (hsub ha)
    exact List.sublist_of_subperm_of_pairwise hperm hordered (pairwise_idxOf_eraseDups names)

/-- Without repetition, what comes first has the place before. -/
theorem idxOf_lt_idxOf_of_nodup {a b : α} {names : List α} (hd : names.Nodup)
    (h : [a, b].Sublist names) : names.idxOf a < names.idxOf b := by
  obtain ⟨front, back, rfl, ha, hb⟩ := List.cons_sublist_iff.1 h
  rw [List.singleton_sublist] at hb
  have hfront : b ∉ front := fun hmem => (List.disjoint_of_nodup_append hd) hmem hb
  rw [List.idxOf_append_of_mem ha, List.idxOf_append_of_notMem hfront]
  exact Nat.lt_add_right _ (List.idxOf_lt_length_of_mem ha)

end

namespace Schema

namespace Field

/-! ## Last declarations -/

variable {fields before after : List Field} {field later : Field} {name : String}

/-- A declaration that comes later takes the place of one before it. -/
theorem last?_append (before after : List Field) (name : String) :
    last? (before ++ after) name = (last? after name).or (last? before name) := by
  rw [last?, List.reverse_append, List.find?_append]
  rfl

theorem mem_of_last? (h : last? fields name = some field) : field ∈ fields ∧ field.name = name :=
  ⟨List.mem_reverse.1 (List.mem_of_find?_eq_some h), by simpa using List.find?_some h⟩

/-- A declaration is the last one of its name if no later one has the name. -/
theorem last?_of_split (h : ∀ later ∈ after, later.name ≠ field.name) :
    last? (before ++ field :: after) field.name = some field := by
  have hafter : last? after field.name = none := by simpa [last?] using h
  rw [← List.singleton_append, last?_append, last?_append, hafter]
  simp [last?]

/-! ## Declarations of unknown types -/

/-- The type of the field is none of the known ones. -/
def IsUnknown (field : Field) : Prop := ∃ name, field.type = .other name

theorem isUnknown_iff : field.IsUnknown ↔ field.type.isOther = true := by
  obtain ⟨name, type, description?⟩ := field
  rw [IsUnknown]
  cases type <;> simp [FieldType.isOther]

instance (field : Field) : Decidable field.IsUnknown := decidable_of_iff' _ isUnknown_iff

/-- The names of the declarations of unknown types, in order. -/
def unknownNames (fields : List Field) : List String :=
  (fields.filter fun field => field.type.isOther).map Field.name

theorem mem_unknownNames_iff :
    name ∈ unknownNames fields ↔ ∃ field ∈ fields, field.IsUnknown ∧ field.name = name := by
  simp only [unknownNames, List.mem_map, List.mem_filter, isUnknown_iff, and_assoc]

/-- A name whose last declaration has an unknown type is among them. -/
theorem mem_unknownNames_of_last? (h : last? fields name = some field) (hu : field.IsUnknown) :
    name ∈ unknownNames fields :=
  mem_unknownNames_iff.2 ⟨field, (mem_of_last? h).1, hu, (mem_of_last? h).2⟩

/-- Of two such declarations, the names come in the same order. -/
theorem sublist_unknownNames (h : [field, later].Sublist fields) (hf : field.IsUnknown)
    (hl : later.IsUnknown) : [field.name, later.name].Sublist (unknownNames fields) := by
  have hboth : [field, later].filter (fun field => field.type.isOther) = [field, later] := by
    simp [isUnknown_iff.1 hf, isUnknown_iff.1 hl]
  have hfiltered := (h.filter fun field => field.type.isOther).map Field.name
  rwa [hboth] at hfiltered

/-- Each declaration of an unknown type is the last one of its name, and these declarations are
    in the order in which their names were declared first. -/
def InPlace (fields : List Field) : Prop :=
  fields.Pairwise fun field later => field.IsUnknown → later.name ≠ field.name ∧
    (later.IsUnknown →
      (fields.map Field.name).idxOf field.name < (fields.map Field.name).idxOf later.name)

instance (fields : List Field) : Decidable (InPlace fields) :=
  inferInstanceAs (Decidable (fields.Pairwise _))

/-- If no name is declared twice, every declaration is in its place. -/
theorem inPlace_of_nodup (hd : (fields.map Field.name).Nodup) : InPlace fields := by
  refine List.pairwise_iff_forall_sublist.2 fun {field later} h _ => ?_
  have hlt := idxOf_lt_idxOf_of_nodup hd (h.map Field.name)
  refine ⟨fun hname => ?_, fun _ => hlt⟩
  rw [hname] at hlt
  exact Nat.lt_irrefl _ hlt

end Field

/-! ## What is listed -/

/-- The schema of the property with a name, in an object of the answer. -/
def Compiled.property? (compiled : Compiled) (name : String) : Option Json := do
  let properties ← (← compiled.objectSchema?).get? "properties"
  properties.get? name

/-- The compiled schema tells which of its properties fell back to texts. -/
structure Compiled.TellsFallbacks (compiled : Compiled) (fields : List Field) : Prop where
  /-- A name is listed just if the declaration that decides on its property has an unknown type. -/
  listed : ∀ name, name ∈ compiled.fallbackFields ↔
    ∃ field, Field.last? fields name = some field ∧ field.IsUnknown
  /-- It is listed once, and in the order of the first declarations. -/
  ordered : compiled.fallbackFields.Sublist (fields.map Field.name).eraseDups

variable {description : Description} {compiled : Compiled} {fields : List Field}

/-- The property with a name has the schema of the last declaration of the name. -/
theorem property?_eq_last? (h : description.shape ≠ .choice)
    (hc : compile? description = some compiled) (name : String) :
    compiled.property? name = (Field.last? description.fields name).map Field.schema := by
  obtain ⟨_, hcompiled, hobject⟩ := exists_objectSchema h
  obtain rfl := Option.some.inj (hc.symm.trans hcompiled)
  rw [← lookup_schema, ← Json.lookup_inserted, Compiled.property?, hobject]
  rfl

/-- The names of all declarations of unknown types are listed. -/
theorem fallbackFields_eq (h : description.shape ≠ .choice)
    (hc : compile? description = some compiled) :
    compiled.fallbackFields = Field.unknownNames description.fields := by
  obtain ⟨shape, fields, choices⟩ := description
  rcases shape with _ | _ | _
  · obtain rfl := Option.some.inj hc
    rfl
  · obtain rfl := Option.some.inj hc
    rfl
  · exact absurd rfl h

/-- Declarations that are in their places are listed as they should be. -/
theorem tellsFallbacks_of_inPlace (hlisted : compiled.fallbackFields = Field.unknownNames fields)
    (h : Field.InPlace fields) : compiled.TellsFallbacks fields := by
  refine ⟨fun name => ⟨fun hmem => ?_, ?_⟩, ?_⟩
  · rw [hlisted] at hmem
    obtain ⟨field, hfield, hu, rfl⟩ := Field.mem_unknownNames_iff.1 hmem
    obtain ⟨before, after, rfl⟩ := List.append_of_mem hfield
    have hafter := (List.pairwise_cons.1 (List.pairwise_append.1 h).2.1).1
    exact ⟨field, Field.last?_of_split fun later hl => (hafter later hl hu).1, hu⟩
  · rintro ⟨field, hlast, hu⟩
    rw [hlisted]
    exact Field.mem_unknownNames_of_last? hlast hu
  · rw [hlisted, sublist_eraseDups_iff, Field.unknownNames, List.pairwise_map]
    refine ⟨(List.filter_sublist.map Field.name).subset, ?_⟩
    refine (h.filter _).imp_of_mem fun {field later} hf hl hpair => ?_
    exact (hpair (Field.isUnknown_iff.2 (List.mem_filter.1 hf).2)).2
      (Field.isUnknown_iff.2 (List.mem_filter.1 hl).2)

/-- If declarations are listed as they should be, they are in their places. -/
theorem inPlace_of_tellsFallbacks (hlisted : compiled.fallbackFields = Field.unknownNames fields)
    (h : compiled.TellsFallbacks fields) : Field.InPlace fields := by
  -- Two declarations of unknown types are in the order of their names, so have different ones.
  have hordered {field later : Field} (hsub : [field, later].Sublist fields)
      (hf : field.IsUnknown) (hl : later.IsUnknown) :
      (fields.map Field.name).idxOf field.name < (fields.map Field.name).idxOf later.name := by
    have hnames := (hlisted ▸ Field.sublist_unknownNames hsub hf hl).trans h.ordered
    exact List.pairwise_iff_forall_sublist.1 (pairwise_idxOf_eraseDups _) hnames
  refine List.pairwise_iff_forall_sublist.2 fun {field later} hsub hu =>
    ⟨fun hname => ?_, hordered hsub hu⟩
  obtain ⟨front, back, rfl, hfront, hback⟩ := List.cons_sublist_iff.1 hsub
  rw [List.singleton_sublist] at hback
  -- The name is listed, so the last declaration of it has an unknown type, too. That one comes
  -- after the first of the two, and has the same name.
  have hmem : field.name ∈ compiled.fallbackFields := by
    rw [hlisted]
    exact Field.mem_unknownNames_iff.2 ⟨field, List.mem_append_left _ hfront, hu, rfl⟩
  obtain ⟨last, hlast, hlu⟩ := (h.listed _).1 hmem
  have hdeclared : field.name ∈ back.map Field.name := hname ▸ List.mem_map_of_mem hback
  obtain ⟨found, hfound⟩ := Field.exists_last? hdeclared
  rw [Field.last?_append, hfound, Option.some_or] at hlast
  obtain rfl := Option.some.inj hlast
  obtain ⟨hlback, hlname⟩ := Field.mem_of_last? hfound
  have hlt := hordered
    ((List.singleton_sublist.2 hfront).append (List.singleton_sublist.2 hlback)) hu hlu
  rw [hlname] at hlt
  exact Nat.lt_irrefl _ hlt

/-- What the list of the fields that fell back tells about the compiled schema, and when it is
    right. -/
theorem fallbacks_told_iff (h : description.shape ≠ .choice) :
    ∃ compiled, compile? description = some compiled ∧
      -- The last declaration of a name decides on the schema of its property.
      (∀ name, compiled.property? name =
        (Field.last? description.fields name).map Field.schema) ∧
      -- A property that fell back is never concealed.
      (∀ name field, Field.last? description.fields name = some field → field.IsUnknown →
        name ∈ compiled.fallbackFields) ∧
      (compiled.TellsFallbacks description.fields ↔ Field.InPlace description.fields) ∧
      ((description.fields.map Field.name).Nodup → compiled.TellsFallbacks description.fields) := by
  obtain ⟨compiled, hc, -⟩ := exists_objectSchema h
  have hlisted := fallbackFields_eq h hc
  refine ⟨compiled, hc, property?_eq_last? h hc, fun name field hlast hu => ?_,
    ⟨inPlace_of_tellsFallbacks hlisted, tellsFallbacks_of_inPlace hlisted⟩,
    fun hd => tellsFallbacks_of_inPlace hlisted (Field.inPlace_of_nodup hd)⟩
  rw [hlisted]
  exact Field.mem_unknownNames_of_last? hlast hu

/-- A name is declared twice, and what is unknown is the type of the last declaration. -/
theorem fallbacks_told_redeclared :
    let description := Description.list
      [⟨"when", .number, none⟩, ⟨"names", .textList, none⟩, ⟨"when", .other "date", none⟩]
    description.shape ≠ .choice ∧ ∃ compiled, compile? description = some compiled ∧
      compiled.property? "when" = some (.object [("type", .string "string")]) ∧
      compiled.fallbackFields = ["when"] ∧ compiled.TellsFallbacks description.fields := by
  intro description
  have hshape : description.shape ≠ .choice := by decide
  obtain ⟨compiled, hc, hproperty, -, htells, -⟩ := fallbacks_told_iff hshape
  refine ⟨hshape, compiled, hc, hproperty "when", ?_, htells.2 (by decide)⟩
  obtain rfl := Option.some.inj hc
  rfl

/-- A name is declared twice, and the last declaration makes it a number. It is listed all the
    same. -/
theorem fallback_listed_though_overridden :
    let description := Description.object [⟨"when", .other "date", none⟩, ⟨"when", .number, none⟩]
    ∃ compiled, compile? description = some compiled ∧
      compiled.property? "when" = some (.object [("type", .string "number")]) ∧
      compiled.fallbackFields = ["when"] ∧ ¬ compiled.TellsFallbacks description.fields := by
  intro description
  have hmisplaced : ¬ Field.InPlace description.fields := by decide
  exact ⟨_, rfl, rfl, rfl, mt (inPlace_of_tellsFallbacks rfl) hmisplaced⟩

end Schema

end PromptChain
