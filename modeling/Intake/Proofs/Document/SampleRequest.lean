import Intake.Proofs.Document.Required
import Intake.Proofs.Document.SampleFit
import Intake.Proofs.Engine.Verdict

/-!
# Requests that are made up

The example of a request has an example of a record for each side that has fields. A working engine at
its start answers it as a fresh validation does: it is accepted exactly if the examples of the fields
fit and the rules of the tool accept what the sides make of them. Main statement: this, and the same of
the example of a single definition.
-/

namespace Intake

/-- The data of a tool that a request hands over. -/
def Value.handedOver (request : Value) : Value :=
  .record [("input", request.get Side.input.partName), ("config", request.get Side.config.partName)]

namespace Schema

variable {schema : Schema}

/-- A request is made of examples of the sides that have fields. -/
theorem sampleRequest_eq {input config : List (String × Value)}
    (hinput : Definition.sampleFields schema.input = .ok input)
    (hconfig : Definition.sampleFields schema.config = .ok config) :
    schema.sampleRequest =
      .ok (.record ((if schema.input.isEmpty then [] else [(Side.input.partName, .record input)]) ++
        if schema.config.isEmpty then [] else [(Side.config.partName, .record config)])) := by
  simp only [sampleRequest, hinput, hconfig, Except.map]
  cases schema.input.isEmpty <;> cases schema.config.isEmpty <;> rfl

/-- A request has an example of a record for each side, or nothing for a side without fields. -/
theorem exists_sampleRequest (plain : ∀ side, (schema.fields side).IsPlain) :
    ∃ request, schema.sampleRequest = .ok request ∧ ∀ side, ∃ entries,
      (request.get side.partName = .record entries ∨
        request.get side.partName = .null ∧ entries = []) ∧
      entries.map (·.1) = (schema.fields side).map (·.1) ∧
      ∀ required, FieldsConform required (schema.fields side) entries ↔
        FieldsFit required (schema.fields side) := by
  have hsides (side : Side) := Definition.exists_sampleFields_conform_iff (plain side).names
    fun name p hm => Definition.exemplifies ((plain side).plain name p hm)
  choose entries hentries hkeys hconform using hsides
  refine ⟨_, sampleRequest_eq (hentries .input) (hentries .config), fun side =>
    ⟨entries side, ?_, hkeys side, hconform side⟩⟩
  have hget : (Value.record ((if schema.input.isEmpty then [] else
        [(Side.input.partName, .record (entries .input))]) ++
      if schema.config.isEmpty then [] else
        [(Side.config.partName, .record (entries .config))])).get side.partName =
      if (schema.fields side).isEmpty then .null else .record (entries side) := by
    by_cases hinput : schema.input.isEmpty = true <;>
      by_cases hconfig : schema.config.isEmpty = true <;> cases side <;>
      simp only [fields, hinput, hconfig, if_true] <;> rfl
  rw [hget]
  cases hempty : (schema.fields side).isEmpty with
  | true =>
    have hnone := hkeys side
    rw [List.isEmpty_iff.mp hempty] at hnone
    exact .inr ⟨rfl, List.map_eq_nil_iff.mp hnone⟩
  | false => exact .inl rfl

end Schema

namespace ValidatorSource

variable {source : ValidatorSource} {validator : Validator}

/-- A source answers with an output exactly if its validator accepts the data. -/
theorem answers_accepted_iff (hc : source.compile = .ok validator) (data : Value) :
    (∃ output, source.answer data = .ok (.accepted output)) ↔
      ∃ output, validator.validate data = .ok (.accepted output) := by
  cases hv : validator.validate data with
  | error failure => simp [answer_of_failure hc hv]
  | ok verdict =>
    rw [answer_of_verdict hc hv]
    cases verdict <;> simp [EngineParts.answerOf]

end ValidatorSource

namespace EngineParts

/-- The rules of a schema accept the outputs of its sides. -/
def RulesAccept (p : EngineParts) (data : Value) (schema : Schema) (options : Options) : Prop :=
  ∀ outputs : Side → List (String × Value),
    (∀ side, (EngineCall.toolRequest data schema options side).source.answer
      (EngineCall.toolRequest data schema options side).data = .ok (.accepted (outputs side))) →
    ∃ output, p.rulesAnswer schema.rules (outputs .input) (outputs .config) = .accepted output

/-- Without rules everything is accepted. -/
theorem rulesAccept_of_nil (p : EngineParts) {schema : Schema} (h : schema.rules = []) (data : Value)
    (options : Options) : p.RulesAccept data schema options := by
  intro outputs _
  rw [h]
  exact ⟨_, rfl⟩

/-- Phases end with an output exactly if the first ones do, and the last one does on their outputs. -/
theorem inPhases_eq_accepted_iff {input config : Except SchemaFault Answer}
    {last : List (String × Value) → List (String × Value) → Answer} {output : List (String × Value)} :
    inPhases input config last = .ok (.accepted output) ↔
      ∃ first second, input = .ok (.accepted first) ∧ config = .ok (.accepted second) ∧
        last first second = .accepted output := by
  rcases input with _ | _ | _ <;> rcases config with _ | _ | _ <;> simp [inPhases]

/-- A tool accepts data exactly if its sides do, and its rules accept their outputs. -/
theorem toolAnswer_accepted_iff (p : EngineParts) (data : Value) (schema : Schema)
    (options : Options) :
    (∃ output, p.toolAnswer data schema options = .ok (.accepted output)) ↔
      (∀ side, ∃ output, (EngineCall.toolRequest data schema options side).source.answer
        (EngineCall.toolRequest data schema options side).data = .ok (.accepted output)) ∧
      p.RulesAccept data schema options := by
  constructor
  · rintro ⟨output, h⟩
    obtain ⟨input, config, hinput, hconfig, hrules⟩ := inPhases_eq_accepted_iff.mp h
    refine ⟨fun side => ?_, fun outputs houtputs => ?_⟩
    · cases side with
      | input => exact ⟨input, hinput⟩
      | config => exact ⟨config, hconfig⟩
    · have hfirst := houtputs .input
      have hsecond := houtputs .config
      rw [hinput] at hfirst
      rw [hconfig] at hsecond
      cases hfirst
      cases hsecond
      exact ⟨output, hrules⟩
  · rintro ⟨hsides, hrules⟩
    choose outputs houtputs using hsides
    obtain ⟨output, houtput⟩ := hrules outputs houtputs
    exact ⟨output, inPhases_eq_accepted_iff.mpr ⟨_, _, houtputs .input, houtputs .config, houtput⟩⟩

/-- A working engine at its start answers for a tool as a fresh validation does: the validators of the
two sides have different keys. -/
theorem answer_validateTool_initial {p : EngineParts} (hp : p.IsCached) (step : Binary64)
    (data : Value) (schema : Schema) (options : Options) :
    (p.validateTool (.initial step) data schema options).2.map (·.answer) =
      p.toolAnswer data schema options := by
  have hk : KeysDiffer fun source => ∃ side,
      source = (EngineCall.toolRequest data schema options side).source := by
    rintro _ _ ⟨side, rfl⟩ ⟨other, rfl⟩ hkey
    have hname := congrArg ValidatorKey.name hkey
    cases side <;> cases other
    · rfl
    · exact absurd (show "input" = "config" from hname) (by decide)
    · exact absurd (show "config" = "input" from hname) (by decide)
    · rfl
  have hanswer := (callsFresh_tool hp hk (Moment.faithful_initial _ step) data schema options
    fun side => ⟨side, rfl⟩).1.answer
  exact Option.some.inj hanswer

end EngineParts

/-- The fields of every side can be made ready. -/
def Schema.Compiles (schema : Schema) (options : Options) : Prop :=
  ∀ side, ∃ validator, (ValidatorSource.mk side (schema.fields side) options).compile = .ok validator

/-- Of a plain schema an example of a request is made, and a working engine at its start accepts it
exactly if the examples of the fields fit and the rules accept the outputs of the sides. -/
theorem Schema.sampleRequest_accepted_iff {schema : Schema}
    (plain : ∀ side, (schema.fields side).IsPlain) :
    ∃ request, schema.sampleRequest = .ok request ∧
      ∀ (p : EngineParts) (options : Options) (step : Binary64), p.IsCached →
        schema.Compiles options →
          ((∃ output, (p.validateTool (.initial step) request.handedOver schema options).2.map
              (·.answer) = .ok (.accepted output)) ↔
            (∀ side, FieldsFit [] (schema.fields side)) ∧
              p.RulesAccept request.handedOver schema options) := by
  obtain ⟨request, hrequest, hsides⟩ := exists_sampleRequest plain
  refine ⟨request, hrequest, fun p options step hp hc => ?_⟩
  rw [EngineParts.answer_validateTool_initial hp, EngineParts.toolAnswer_accepted_iff]
  refine and_congr_left' (forall_congr' fun side => ?_)
  obtain ⟨validator, hvalidator⟩ := hc side
  obtain ⟨entries, hget, hkeys, hconform⟩ := hsides side
  have hsource : EngineCall.toolRequest request.handedOver schema options side =
      ⟨⟨side, schema.fields side, options⟩, request.get side.partName⟩ := by
    cases side <;> rfl
  have hvalidate : validator.validate (request.get side.partName) =
      validator.validateRecord entries := by
    rcases hget with h | ⟨h, rfl⟩ <;> rw [h] <;> rfl
  have hdeclared : ∀ entry ∈ entries, entry.1 ∈ (schema.fields side).map (·.1) := fun entry hm =>
    hkeys ▸ List.mem_map_of_mem hm
  rw [hsource, ValidatorSource.answers_accepted_iff hvalidator, hvalidate,
    Validator.validateRecord_accepts_iff hvalidator, hconform]
  exact and_iff_left fun _ => hdeclared

/-- Of a plain definition an example is made, and its check passes the example exactly if it fits; of a
plain schema an example of a request is made, and a working engine at its start accepts it exactly if
the examples of the fields fit and the rules accept the outputs of the sides. -/
theorem samples_accepted_iff {d : Definition} (hd : d.IsPlain) {label : String} {check : Check}
    (hc : d.compile label = .ok check) {schema : Schema}
    (hs : ∀ side, (schema.fields side).IsPlain) :
    (∃ v, d.sample = .ok v ∧ ∀ (options : Options) (path : DataPath),
      Passes (check.run options path v) ↔ d.SampleFits) ∧
    ∃ request, schema.sampleRequest = .ok request ∧
      ∀ (p : EngineParts) (options : Options) (step : Binary64), p.IsCached →
        schema.Compiles options →
          ((∃ output, (p.validateTool (.initial step) request.handedOver schema options).2.map
              (·.answer) = .ok (.accepted output)) ↔
            (∀ side, FieldsFit [] (schema.fields side)) ∧
              p.RulesAccept request.handedOver schema options) :=
  ⟨Definition.sample_passes_iff hd hc, Schema.sampleRequest_accepted_iff hs⟩

/-- Two texts or more that differ. -/
def tagsDefinition : Definition where
  attributes :=
    { FieldAttributes.ofKind .array with
      required := some true, minItems := .of 2, uniqueItems := some true }
  items := .of (.ofKind .string)
  properties := .undeclared

/-- A tool that is given tags. -/
def tagsSchema : Schema := ⟨some [("tags", tagsDefinition)], none, none⟩

theorem isPlain_tags : tagsDefinition.IsPlain := by
  unfold Definition.IsPlain
  rw [Definition.forall_at_items_iff rfl rfl,
    Definition.forall_at_whole_iff (Definition.isWhole_of_ne (by decide) (by decide))]
  exact ⟨⟨⟨rfl, rfl, rfl, nofun, nofun⟩, nofun⟩, ⟨rfl, rfl, rfl, fun _ => rfl, fun _ => rfl⟩, nofun⟩

/-- Any text is a tag. -/
theorem admits_tag (s : String) : (Definition.ofKind .string).Admits (.text s) := by
  have htext : (FieldAttributes.ofKind .string).AdmitsText s := ⟨⟨nofun, nofun⟩, nofun, nofun⟩
  rw [Definition.admits_iff]
  exact ⟨⟨s, rfl, htext⟩, nofun, nofun, nofun⟩

/-- The example of tags fits: two texts, the second one with a number. -/
theorem sampleFits_tags : tagsDefinition.SampleFits := by
  have hitem : (Definition.ofKind .string).SampleFits :=
    ⟨⟨0, nofun, nofun⟩, nofun, nofun⟩
  refine ⟨⟨2, ?_, nofun⟩, nofun, fun _ => ⟨hitem, fun _ _ => ⟨_, rfl, fun i _ _ => admits_tag _⟩⟩⟩
  rintro _ ⟨⟩
  decide

/-- An example of tags is accepted, alone and in a request. -/
theorem samples_accepted_tags :
    tagsDefinition.IsPlain ∧ (∃ check v, tagsDefinition.compile "tags" = .ok check ∧
      tagsDefinition.sample = .ok v ∧ Passes (check.run .standard [] v)) ∧
    EngineParts.standard.IsCached ∧ tagsSchema.Compiles .standard ∧
      ∃ request, tagsSchema.sampleRequest = .ok request ∧
        ∃ output, (EngineParts.standard.validateTool (.initial (.zero false)) request.handedOver
          tagsSchema .standard).2.map (·.answer) = .ok (.accepted output) := by
  have hcompile : tagsDefinition.compile "tags" = .ok _ := rfl
  have hplain (side : Side) : (tagsSchema.fields side).IsPlain := by
    cases side with
    | input =>
      refine ⟨by decide, fun name d hm => ?_⟩
      cases List.mem_singleton.mp hm
      exact isPlain_tags
    | config => exact ⟨List.nodup_nil, fun name d hm => absurd hm List.not_mem_nil⟩
  have hcompiles : tagsSchema.Compiles .standard := by
    intro side
    cases side <;> exact ⟨_, rfl⟩
  have hfit (side : Side) : FieldsFit [] (tagsSchema.fields side) := by
    cases side with
    | input => exact ⟨⟨nofun, fun _ => sampleFits_tags⟩, trivial⟩
    | config => trivial
  obtain ⟨⟨v, hv, hpasses⟩, request, hrequest, haccepted⟩ :=
    samples_accepted_iff isPlain_tags hcompile hplain
  exact ⟨isPlain_tags, ⟨_, v, rfl, hv, (hpasses .standard []).mpr sampleFits_tags⟩,
    EngineParts.standard_isCached, hcompiles, request, hrequest,
    (haccepted .standard .standard (.zero false) EngineParts.standard_isCached hcompiles).mpr
      ⟨hfit, EngineParts.rulesAccept_of_nil _ rfl _ _⟩⟩

/-- A text of which only the rules declare a least length. -/
def longDefinition : Definition where
  attributes :=
    { FieldAttributes.ofKind .string with
      rules := .of ⟨.of (Binary64.ofInt 20), .undeclared, .undeclared, .undeclared, .undeclared,
        .undeclared, .undeclared⟩ }
  items := .undeclared
  properties := .undeclared

/-- A text of twenty characters passes, and the example of the text does not. -/
theorem not_passes_long :
    longDefinition.IsPlain ∧ ∃ check, longDefinition.compile "f" = .ok check ∧
      Passes (check.run .standard [] (.text "example stringxxxxxx")) ∧
      longDefinition.sample = .ok (.text "example string") ∧
      ¬ Passes (check.run .standard [] (.text "example string")) := by
  refine ⟨?_, _, rfl, ⟨_, rfl, rfl⟩, rfl, ?_⟩
  · unfold Definition.IsPlain
    rw [Definition.forall_at_whole_iff (Definition.isWhole_of_ne (by decide) (by decide))]
    exact ⟨⟨rfl, rfl, rfl, fun _ => rfl, fun _ => rfl⟩, nofun⟩
  · rintro ⟨o, ho, hnone⟩
    cases ho
    cases hnone

end Intake
