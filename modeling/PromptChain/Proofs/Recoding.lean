import PromptChain.Flow.Definition
import PromptChain.Proofs.ReadBack
import PromptChain.Request

/-!
# Reading what was written

Values come in many writings: with older names, in other orders, with parts left out or in excess,
by position. Each type has one writing of its own, and whatever the writing was from which a value
was read, it is read back from this one (`decoding_stable`).

Not every value of the types is read back. A number that is not finite is written as null, and the
name of a known type of fields is not read as that of an unknown one. But no value that was read
has such a part, which is shown slot by slot (`Source.recordOf_preserves`).
-/

namespace PromptChain

open Source (Stable Canonical double)
open Json (ofBinary64)

/-! ## Schema descriptions -/

namespace Schema

theorem Shape.decode_encode (shape : Shape) : decode shape.encode = .ok shape := by
  cases shape <;> exact Source.oneOf_string (by decide)

/-- The name of a type that was read is read as the same type. -/
theorem FieldType.ofName_name_ofName (name : String) : ofName (ofName name).name = ofName name := by
  by_cases htext : name = "string"
  · rw [htext]
    decide
  by_cases hnumber : name = "number"
  · rw [hnumber]
    decide
  by_cases hboolean : name = "boolean"
  · rw [hboolean]
    decide
  by_cases hlist : (name = "string-list" || name = "string[]") = true
  · simp [ofName, htext, hnumber, hboolean, hlist, FieldType.name]
  · simp [ofName, htext, hnumber, hboolean, hlist, FieldType.name]

theorem FieldType.stable_decode : Stable decode encode := by
  intro part type h
  obtain ⟨name, -, rfl⟩ := exists_of_map_ok h
  exact congrArg Except.ok (ofName_name_ofName name)

theorem Field.decode_encode {field : Field}
    (htype : FieldType.decode field.type.encode = .ok field.type) :
    decode field.encode = .ok field := by
  refine Source.recordOf_of_writes (by decide +kernel) ?_ _
  rw [← List.append_nil (Json.optionally "description" _)]
  exact .needed rfl (.needed htype (.optionally (fun _ _ => rfl) nofun rfl (.nil _)))

theorem Field.stable_decode : Stable decode encode := by
  intro part field h
  refine decode_encode (Source.recordOf_preserves
    (Q := fun field => FieldType.decode field.type.encode = .ok field.type)
    (fun slot hslot part change hread field htype => ?_) h rfl)
  simp only [slots, List.mem_cons, List.not_mem_nil, or_false] at hslot
  rcases hslot with rfl | rfl | rfl <;> obtain ⟨value, hvalue, rfl⟩ := exists_of_map_ok hread
  · exact htype
  · exact FieldType.stable_decode hvalue
  · exact htype

theorem Description.decode_encode {description : Description}
    (hfields : ∀ field ∈ description.fields, Field.decode field.encode = .ok field) :
    decode description.encode = .ok description := by
  refine Source.recordOf_of_writes (by decide +kernel) ?_ _
  exact .optional (Shape.decode_encode _) (.optional (Source.listOf_array hfields)
    (.optional (Source.listOf_ofStrings _) (.nil _)))

theorem Description.stable_decode : Stable decode encode := by
  intro part description h
  refine decode_encode (Source.recordOf_preserves
    (Q := fun description => ∀ field ∈ description.fields, Field.decode field.encode = .ok field)
    (fun slot hslot part change hread description hfields => ?_) h (List.forall_mem_nil _))
  simp only [slots, List.mem_cons, List.not_mem_nil, or_false] at hslot
  rcases hslot with rfl | rfl | rfl <;> obtain ⟨value, hvalue, rfl⟩ := exists_of_map_ok hread
  · exact hfields
  · exact Field.stable_decode.of_listOf hvalue
  · exact hfields

end Schema

/-! ## Settings -/

theorem AnswerShape.decode_encode (shape : AnswerShape) : decode shape.encode = .ok shape := by
  cases shape <;> exact Source.oneOf_string (by decide)

theorem Block.Kind.decode_encode (kind : Kind) : decode kind.encode = .ok kind := by
  cases kind <;> exact Source.oneOf_string (by decide)

/-- A temperature and a schema are read back, as far as they are there. They are the parts of
    settings, however these are given, that are not read back in general. -/
structure PartsReadBack (temperature? : Option Binary64) (schema? : Option Schema.Description) :
    Prop where
  temperature : ∀ x, temperature? = some x → double (ofBinary64 x) = .ok x
  schema : ∀ schema, schema? = some schema → Schema.Description.decode schema.encode = .ok schema

namespace PartsReadBack

variable {temperature? : Option Binary64} {schema? : Option Schema.Description} {part : Json}

theorem none : PartsReadBack none none := ⟨nofun, nofun⟩

theorem default : PartsReadBack (some defaultTemperature) Option.none :=
  ⟨by rintro _ ⟨⟩; rfl, nofun⟩

theorem withTemperature (h : PartsReadBack temperature? schema?) {x : Binary64}
    (hread : double part = .ok x) : PartsReadBack (some x) schema? :=
  ⟨by rintro _ ⟨⟩; exact Source.stable_double hread, h.schema⟩

theorem withTemperature? (h : PartsReadBack temperature? schema?) {x? : Option Binary64}
    (hread : Source.optionally double part = .ok x?) : PartsReadBack x? schema? :=
  ⟨Source.stable_double.of_optionally hread, h.schema⟩

theorem withSchema? (h : PartsReadBack temperature? schema?) {read? : Option Schema.Description}
    (hread : Source.optionally Schema.Description.decode part = .ok read?) :
    PartsReadBack temperature? read? :=
  ⟨h.temperature, Schema.Description.stable_decode.of_optionally hread⟩

end PartsReadBack

namespace Block

theorem Settings.decode_encode {settings : Settings}
    (h : PartsReadBack (some settings.temperature) settings.schema?) :
    decode settings.encode = .ok settings := by
  refine Source.recordOf_of_writes (by decide +kernel) ?_ _
  simp only [List.append_assoc, List.cons_append, List.nil_append]
  rw [← List.append_nil (Json.optionally "schema" _)]
  exact .optionally (fun _ _ => rfl) nofun rfl (.optionally (fun _ _ => rfl) nofun rfl
    (.optional (h.temperature _ rfl) (.optional (Source.word32_ofWord _)
      (.optional (AnswerShape.decode_encode _) (.optionally h.schema nofun rfl (.nil _))))))

theorem Settings.stable_decode : Stable decode encode := by
  intro part settings h
  refine decode_encode (Source.recordOf_preserves
    (Q := fun settings => PartsReadBack (some settings.temperature) settings.schema?)
    (fun slot hslot part change hread settings hparts => ?_) h .default)
  simp only [slots, List.mem_cons, List.not_mem_nil, or_false] at hslot
  rcases hslot with rfl | rfl | rfl | rfl | rfl | rfl <;>
    obtain ⟨value, hvalue, rfl⟩ := exists_of_map_ok hread
  · exact hparts
  · exact hparts
  · exact hparts.withTemperature hvalue
  · exact hparts
  · exact hparts
  · exact hparts.withSchema? hvalue

theorem Patch.decode_encode {patch : Patch} (h : PartsReadBack patch.temperature? patch.schema?) :
    decode patch.encode = .ok patch := by
  refine Source.recordOf_of_writes (by decide +kernel) ?_ _
  exact .orNull (fun _ _ => rfl) nofun (.orNull (fun _ _ => rfl) nofun
    (.orNull h.temperature nofun (.orNull (fun _ _ => Source.word32_ofWord _) nofun
      (.orNull (fun _ _ => AnswerShape.decode_encode _) nofun (.orNull h.schema nofun (.nil _))))))

theorem Patch.stable_decode : Stable decode encode := by
  intro part patch h
  refine decode_encode (Source.recordOf_preserves
    (Q := fun patch => PartsReadBack patch.temperature? patch.schema?)
    (fun slot hslot part change hread patch hparts => ?_) h .none)
  simp only [slots, List.mem_cons, List.not_mem_nil, or_false] at hslot
  rcases hslot with rfl | rfl | rfl | rfl | rfl | rfl <;>
    obtain ⟨value, hvalue, rfl⟩ := exists_of_map_ok hread
  · exact hparts
  · exact hparts
  · exact hparts.withTemperature? hvalue
  · exact hparts
  · exact hparts
  · exact hparts.withSchema? hvalue

end Block

/-! ## Results and blocks -/

namespace Block

theorem Result.decode_encode (result : Result) : decode result.encode = .ok result := by
  cases result <;> rfl

/-- Settings and a result are the parts of a block that are written in their own way. -/
theorem decode_encode {block : Block} (hfresh : block.IsFresh)
    (hsettings : Settings.decode block.settings.encode = .ok block.settings) :
    decode block.encode = .ok block := by
  obtain ⟨id, kind, name, expanded, settings, result?, executing, inFlight, run⟩ := block
  obtain ⟨rfl, rfl, rfl⟩ := hfresh
  refine Source.recordOf_of_writes (by decide +kernel) ?_ _
  rw [← List.append_nil (Json.optionally "result" _)]
  exact .needed rfl (.needed (Kind.decode_encode _) (.needed rfl (.optional rfl
    (.optional hsettings (.optionally (fun _ _ => Result.decode_encode _) nofun rfl (.nil _))))))

theorem stable_decode : Stable decode encode := by
  intro part block h
  refine decode_encode (isFresh_of_decode h) (Source.recordOf_preserves
    (Q := fun block => Settings.decode block.settings.encode = .ok block.settings)
    (fun slot hslot part change hread block hsettings => ?_) h (Settings.decode_encode .default))
  simp only [slots, List.mem_cons, List.not_mem_nil, or_false] at hslot
  rcases hslot with rfl | rfl | rfl | rfl | rfl | rfl <;>
    obtain ⟨value, hvalue, rfl⟩ := exists_of_map_ok hread
  · exact hsettings
  · exact hsettings
  · exact hsettings
  · exact hsettings
  · exact Settings.stable_decode hvalue
  · exact hsettings

end Block

/-! ## Requests and flows -/

theorem Request.decode_encode {request : Request}
    (h : PartsReadBack (some request.temperature) request.schema?) :
    decode request.encode = .ok request := by
  refine Source.recordOf_of_writes (by decide +kernel) ?_ _
  rw [← List.append_nil (Json.optionally "schemaDescription" _)]
  exact .optional rfl (.optional (AnswerShape.decode_encode _) (.optional (h.temperature _ rfl)
    (.optional (Source.word32_ofWord _) (.optionally h.schema nofun rfl (.nil _)))))

theorem Request.stable_decode : Stable decode encode := by
  intro part request h
  refine decode_encode (Source.recordOf_preserves
    (Q := fun request => PartsReadBack (some request.temperature) request.schema?)
    (fun slot hslot part change hread request hparts => ?_) h .default)
  simp only [slots, List.mem_cons, List.not_mem_nil, or_false] at hslot
  rcases hslot with rfl | rfl | rfl | rfl | rfl <;>
    obtain ⟨value, hvalue, rfl⟩ := exists_of_map_ok hread
  · exact hparts
  · exact hparts
  · exact hparts.withTemperature hvalue
  · exact hparts
  · exact hparts.withSchema? hvalue

theorem BlockDefinition.decode_encode {definition : BlockDefinition}
    (h : PartsReadBack definition.temperature? definition.schema?) :
    decode definition.encode = .ok definition := by
  refine Source.recordOf_of_writes (by decide +kernel) ?_ _
  simp only [List.append_assoc, List.cons_append, List.nil_append]
  rw [← List.append_nil (Json.optionally "schema" _)]
  exact .optionally (fun _ _ => rfl) nofun rfl (.needed (Block.Kind.decode_encode _)
    (.optionally (fun _ _ => rfl) nofun rfl (.optionally (fun _ _ => rfl) nofun rfl
      (.optionally (fun _ _ => rfl) nofun rfl (.optionally h.temperature nofun rfl
        (.optionally (fun _ _ => Source.word32_ofWord _) nofun rfl
          (.optionally (fun _ _ => AnswerShape.decode_encode _) nofun rfl
            (.optionally h.schema nofun rfl (.nil _)))))))))

theorem BlockDefinition.stable_decode : Stable decode encode := by
  intro part definition h
  refine decode_encode (Source.recordOf_preserves
    (Q := fun definition => PartsReadBack definition.temperature? definition.schema?)
    (fun slot hslot part change hread definition hparts => ?_) h .none)
  simp only [slots, List.mem_cons, List.not_mem_nil, or_false] at hslot
  rcases hslot with rfl | rfl | rfl | rfl | rfl | rfl | rfl | rfl | rfl <;>
    obtain ⟨value, hvalue, rfl⟩ := exists_of_map_ok hread
  · exact hparts
  · exact hparts
  · exact hparts
  · exact hparts
  · exact hparts
  · exact hparts.withTemperature? hvalue
  · exact hparts
  · exact hparts
  · exact hparts.withSchema? hvalue

theorem FlowDefinition.decode_encode {definition : FlowDefinition}
    (hblocks : ∀ block ∈ definition.blocks, BlockDefinition.decode block.encode = .ok block) :
    decode definition.encode = .ok definition := by
  refine Source.recordOf_of_writes (by decide +kernel) ?_ _
  exact .optionally (fun _ _ => rfl) nofun rfl
    (.optional (Source.listOf_array hblocks) (.nil _))

theorem FlowDefinition.stable_decode : Stable decode encode := by
  intro part definition h
  refine decode_encode (Source.recordOf_preserves
    (Q := fun definition => ∀ block ∈ definition.blocks,
      BlockDefinition.decode block.encode = .ok block)
    (fun slot hslot part change hread definition hblocks => ?_) h (List.forall_mem_nil _))
  simp only [slots, List.mem_cons, List.not_mem_nil, or_false] at hslot
  rcases hslot with rfl | rfl <;> obtain ⟨value, hvalue, rfl⟩ := exists_of_map_ok hread
  · exact hblocks
  · exact BlockDefinition.stable_decode.of_listOf hvalue

/-- What was read from whatever writing is read back from its own one, and is then written as
    before. A block that was read has never run. -/
theorem decoding_stable :
    (Stable Schema.Description.decode Schema.Description.encode ∧
      Canonical Schema.Description.decode Schema.Description.encode) ∧
    (Stable Block.Settings.decode Block.Settings.encode ∧
      Canonical Block.Settings.decode Block.Settings.encode) ∧
    (Stable Block.Patch.decode Block.Patch.encode ∧
      Canonical Block.Patch.decode Block.Patch.encode) ∧
    (Stable Block.Result.decode Block.Result.encode ∧
      Canonical Block.Result.decode Block.Result.encode) ∧
    (Stable Block.decode Block.encode ∧ Canonical Block.decode Block.encode ∧
      ∀ {part : Json} {block : Block}, Block.decode part = .ok block →
        block.executing = false ∧ block.inFlight = 0 ∧ block.run = 0) ∧
    (Stable Request.decode Request.encode ∧ Canonical Request.decode Request.encode) ∧
    (Stable FlowDefinition.decode FlowDefinition.encode ∧
      Canonical FlowDefinition.decode FlowDefinition.encode) := by
  have hresult : Stable Block.Result.decode Block.Result.encode := fun _ =>
    Block.Result.decode_encode _
  refine ⟨⟨Schema.Description.stable_decode, Schema.Description.stable_decode.canonical⟩,
    ⟨Block.Settings.stable_decode, Block.Settings.stable_decode.canonical⟩,
    ⟨Block.Patch.stable_decode, Block.Patch.stable_decode.canonical⟩,
    ⟨hresult, hresult.canonical⟩,
    ⟨Block.stable_decode, Block.stable_decode.canonical, fun h => ?_⟩,
    ⟨Request.stable_decode, Request.stable_decode.canonical⟩,
    ⟨FlowDefinition.stable_decode, FlowDefinition.stable_decode.canonical⟩⟩
  exact ⟨(Block.isFresh_of_decode h).executing, (Block.isFresh_of_decode h).inFlight,
    (Block.isFresh_of_decode h).run⟩

/-- A block by position, with older names in its settings, and a value before its type. -/
theorem decoding_stable_older_names :
    ∃ block,
      Block.decode (Json.array [.string "1", .string "generate", .string "name", .bool true,
        .object [("generateType", .string "object"), ("schemaDefinition", .object
          [("enumValues", .array []), ("unknown", .null), ("outputType", .string "array"),
            ("properties", .array [.array [.string "tags", .string "string[]"]])])],
        .object [("value", .null), ("type", .string "structured")]]) = .ok block ∧
      Block.decode block.encode = .ok block ∧ block.run = 0 := by
  obtain ⟨-, -, -, -, ⟨hstable, -, hfresh⟩, -, -⟩ := decoding_stable
  exact Exists.imp (fun block h => ⟨h, hstable h, (hfresh h).2.2⟩) ⟨_, rfl⟩

end PromptChain
