/-
What is written is read back (`decode_toJson`): decoding the JSON value of a manifest gives the
manifest, and decoding that of the settings of a run gives the settings, whatever they are. The
order of entries does not matter, so a value in memory, which keeps them sorted, will do as well.

Each format is read as its parts are, field by field. What a format adds of its own is small: a
method is known again by its name, a layout by its own, and no two fields share a name, the second
name of the package's prefix included.
-/
import ServiceSchema.Format.Config
import ServiceSchema.Format.Manifest
import ServiceSchema.Proofs.Decode

namespace ServiceSchema

/-! ## Services -/

theorem ServiceInfo.decode_reads (info : ServiceInfo) : decode.Reads info.toJson info :=
  Decode.record_reads _ <|
    (Fields.Reads.required (Decode.text_reads info.name)).map mk
      |>.followedBy (.withDefault (Decode.text_reads info.packagePath)) (by decide)
      |>.followedBy (.withDefault (Decode.text_reads info.goPackage)) (by decide)
      |>.followedBy (.withDefault (Decode.uint32_reads info.version)) (by decide)

theorem HttpMethod.ofName?_name (method : HttpMethod) : ofName? method.name = some method := by
  cases method <;> decide

theorem HttpMethod.decode_reads (method : HttpMethod) : decode.Reads method.toJson method := by
  intro source j h
  have htext := Decode.text_reads method.name source j h
  simp only [decode, htext, bind, Except.bind, ofName?_name]
  rfl

theorem WellKnownType.decode_reads (type : WellKnownType) : decode.Reads type.toJson type :=
  Decode.record_reads _ <|
    (Fields.Reads.required (Decode.text_reads type.wireType)).map mk
      |>.followedBy (.withDefault
        (Decode.option_reads Decode.text_reads nofun (by cases type.importPath <;> rfl)))
        (by decide)

/-! ## Manifests -/

theorem FieldSpec.decode_reads (spec : FieldSpec) : decode.Reads spec.toJson spec :=
  Decode.record_reads _ <|
    (Fields.Reads.required (Decode.text_reads spec.name)).map mk
      |>.followedBy (.required (Decode.text_reads spec.type)) (by decide)

theorem RecordSpec.decode_reads (spec : RecordSpec) : decode.Reads spec.toJson spec :=
  Decode.record_reads _ <|
    (Fields.Reads.required (Decode.text_reads spec.name)).map mk
      |>.followedBy (.withDefault (Decode.list_reads FieldSpec.decode_reads spec.fields))
        (by decide)

theorem HandlerSpec.decode_reads (spec : HandlerSpec) : decode.Reads spec.toJson spec :=
  Decode.record_reads _ <|
    (Fields.Reads.required (Decode.text_reads spec.name)).map mk
      |>.followedBy (.required (HttpMethod.decode_reads spec.method)) (by decide)
      |>.followedBy (.required (Decode.text_reads spec.route)) (by decide)
      |>.followedBy (.required (Decode.text_reads spec.request)) (by decide)
      |>.followedBy (.required (Decode.text_reads spec.response)) (by decide)
      |>.followedBy (.withDefault (Decode.list_reads Decode.text_reads spec.authentication))
        (by decide)
      |>.followedBy (.withDefault (Decode.list_reads Decode.text_reads spec.permissions))
        (by decide)

theorem Manifest.decode_reads (m : Manifest) : decode.Reads m.toJson m :=
  Decode.record_reads _ <|
    (Fields.Reads.required (ServiceInfo.decode_reads m.service)).map mk
      |>.followedBy (.withDefault (Decode.list_reads RecordSpec.decode_reads m.records)) (by decide)
      |>.followedBy (.withDefault (Decode.list_reads HandlerSpec.decode_reads m.handlers))
        (by decide)

/-! ## Settings of a run -/

theorem Layout.decode_reads (layout : Layout) : decode.Reads (.text layout.name) layout :=
  Decode.variant_reads (by cases layout <;> decide)

theorem CompilerConfig.decode_reads (c : CompilerConfig) : decode.Reads c.toJson c :=
  Decode.record_reads _ <|
    (Fields.Reads.withDefault (Decode.text_reads c.program)).map mk
      |>.followedBy (.withDefault (Decode.list_reads Decode.text_reads c.args)) (by decide)
      |>.followedBy (.withDefault
        (Decode.option_reads Decode.uint64_reads nofun (by cases c.timeoutSeconds <;> rfl)))
        (by decide)

theorem Config.decode_reads (c : Config) : decode.Reads c.toJson c :=
  Decode.record_reads _ <|
    (Fields.Reads.withDefault (Decode.textAs_reads .path c.outputDir)).map mk
      |>.followedBy (.withDefault (Layout.decode_reads c.layout)) (by decide)
      |>.followedBy (.withDefault (Decode.table_reads WellKnownType.decode_reads c.wellKnown))
        (by decide)
      |>.followedBy (.withDefault (CompilerConfig.decode_reads c.compiler)) (by decide)

/-! ## What is written has no key twice -/

theorem distinctItems_texts (texts : List String) : Json.DistinctItems (texts.map .text) :=
  Json.distinctItems_map fun _ _ => trivial

theorem FieldSpec.distinct_toJson (spec : FieldSpec) : spec.toJson.Distinct :=
  ⟨(by decide : ["name", "type"].Nodup), trivial, trivial, trivial⟩

theorem RecordSpec.distinct_toJson (spec : RecordSpec) : spec.toJson.Distinct :=
  ⟨(by decide : ["name", "fields"].Nodup), trivial,
    Json.distinctItems_map fun field _ => field.distinct_toJson, trivial⟩

theorem HandlerSpec.distinct_toJson (spec : HandlerSpec) : spec.toJson.Distinct :=
  ⟨(by decide : ["name", "method", "route", "request", "response", "authentication",
      "permissions"].Nodup),
    trivial, trivial, trivial, trivial, trivial, distinctItems_texts spec.authentication,
    distinctItems_texts spec.permissions, trivial⟩

theorem Manifest.distinct_toJson (m : Manifest) : m.toJson.Distinct := by
  have hservice : m.service.toJson.Distinct :=
    ⟨(by decide : ["name", "package_path", "go_package", "version"].Nodup), trivial, trivial,
      trivial, trivial, trivial⟩
  exact ⟨(by decide : ["service", "records", "handlers"].Nodup), hservice,
    Json.distinctItems_map fun record _ => record.distinct_toJson,
    Json.distinctItems_map fun handler _ => handler.distinct_toJson, trivial⟩

theorem WellKnownType.distinct_toJson (type : WellKnownType) : type.toJson.Distinct := by
  refine ⟨(by decide : ["wire_type", "import"].Nodup), trivial, ?_, trivial⟩
  cases type.importPath <;> trivial

theorem CompilerConfig.distinct_toJson (c : CompilerConfig) : c.toJson.Distinct := by
  refine ⟨(by decide : ["program", "args", "timeout_secs"].Nodup), trivial,
    distinctItems_texts c.args, ?_, trivial⟩
  cases c.timeoutSeconds <;> trivial

theorem Config.distinct_toJson (c : Config) : c.toJson.Distinct := by
  have htable : (Json.object (c.wellKnown.entries.map fun e => (e.1, e.2.toJson))).Distinct := by
    refine ⟨?_, Json.distinctEntries_map fun e _ => e.2.distinct_toJson⟩
    rw [List.map_map]
    exact c.wellKnown.sorted.nodup_keys
  exact ⟨(by decide : ["output_dir", "field_layout", "well_known_types", "compiler"].Nodup),
    trivial, trivial, htable, c.compiler.distinct_toJson, trivial⟩

/-- **A manifest and the settings of a run are read back from what they are written as**, also when
the entries are sorted, as in a value in memory, or stand in any other order. -/
theorem decode_toJson (m : Manifest) (c : Config) (source : Source) :
    (Manifest.decode source m.toJson.toNode = .ok m ∧
        Config.decode source c.toJson.toNode = .ok c) ∧
      (Manifest.decode source m.toJson.sorted.toNode = .ok m ∧
        Config.decode source c.toJson.sorted.toNode = .ok c) ∧
      (∀ j, m.toJson.Reordered j → Manifest.decode source j.toNode = .ok m) ∧
      ∀ j, c.toJson.Reordered j → Config.decode source j.toNode = .ok c := by
  have hm := m.decode_reads source
  have hc := c.decode_reads source
  have hmsorted := Json.reordered_sorted m.distinct_toJson
  have hcsorted := Json.reordered_sorted c.distinct_toJson
  exact ⟨⟨hm _ (.refl _), hc _ (.refl _)⟩, ⟨hm _ hmsorted, hc _ hcsorted⟩, hm, hc⟩

end ServiceSchema
