import Intake.Proofs.Engine.Interchange
import Intake.Proofs.Engine.Transparency
import Intake.Proofs.Validation.Exposure
import Intake.Proofs.Validation.Secrecy

/-!
# What an engine shows of secrets

A detail shows the value of an issue unless the issue is secret, and an issue is secret as the
definition of its own place is. Main statement: an engine masks all values at secret places and below
them, whatever it was asked before, exactly if the definitions below secret ones are secret as well or
show nothing. A validator may come from the cache, where something else with the same key has left it:
this has the same places and the same secrets, if digests tell the texts of fields apart.
-/

namespace Intake

/-- A detail shows no value: null stands there, or the replacement of a secret. -/
def Detail.Masked (detail : Detail) : Prop :=
  detail.value = .null ∨ detail.value = .text redactedText

namespace FieldMap

/-- No engine shows a value at a secret place or below it: after all calls, if digests tell the texts
of what they asked for from that of the fields, each validation masks all that it tells there. -/
def KeepsSecrets (fields : FieldMap) : Prop :=
  ∀ (p : EngineParts) (step : Binary64) (calls : List EngineCall),
    (∀ source ∈ calls.flatMap EngineCall.sources,
      DigestsTell source.fields.outline fields.outline) →
    ∀ side data options r,
      (p.validate (calls.foldl p.after (.initial step)).state side data fields options).2 = .ok r →
        ∀ detail ∈ r.answer.details, ∀ path d, fields.Governs path d → d.isSecret = true →
          path <+: detail.path → detail.Masked

/-- All that a secret definition holds is secret as well or shows nothing. -/
def SecretsCovered (fields : FieldMap) : Prop :=
  ∀ path d, fields.Governs path d → d.isSecret = true →
    ∀ rest e, fields.Governs (path ++ rest) e → e.isSecret = true ∨ e.ShowsNothing

end FieldMap

namespace EngineParts

variable {known : ValidatorSource → Prop} {p : EngineParts} {s : EngineState}

/-- An engine hands out a validator that is made of something known with the key asked for, and keeps
only such ones. -/
theorem madeOf_validatorFor (h : s.cache.MadeOf known) {source : ValidatorSource}
    (hs : known source) {t : EngineState} {outcome : Except CompileError (Validator × Bool)}
    (hf : p.validatorFor s source.side source.fields source.options = (t, outcome)) :
    t.cache.MadeOf known ∧ ∀ validator atHand, outcome = .ok (validator, atHand) →
      ∃ other, known other ∧ other.key = source.key ∧ other.compile = .ok validator := by
  have hkey : ValidatorKey.of source.side.name source.fields source.options = source.key := rfl
  have hcompile : Validator.compile source.options source.side.name source.fields =
      source.compile := rfl
  have hasked := h.get p.policy s.clock source.key
  unfold validatorFor at hf
  rw [hkey, hcompile] at hf
  cases hfails : p.cacheFailure with
  | some message =>
    rw [hfails] at hf
    cases hf
    exact ⟨h, fun _ _ heq => by cases heq⟩
  | none =>
    cases hget : s.cache.get p.policy s.clock source.key with | mk cache found =>
    rw [hget] at hasked
    simp only [hfails, hget] at hf
    cases found with
    | some validator =>
      cases hf
      refine ⟨hasked, fun other atHand heq => ?_⟩
      cases heq
      exact h.exists_of_get (congrArg Prod.snd hget)
    | none =>
      cases hv : source.compile with
      | error e =>
        rw [hv] at hf
        cases hf
        exact ⟨hasked, fun _ _ heq => by cases heq⟩
      | ok validator =>
        have hput := hasked.put hs hv p.policy s.clock
        cases hwritten : cache.put p.policy s.clock source.key validator with | mk written result =>
        rw [hwritten] at hput
        simp only [hv, hwritten] at hf
        cases result with
        | error failure =>
          cases hf
          exact ⟨hput, fun _ _ heq => by cases heq⟩
        | ok _ =>
          cases hf
          refine ⟨hput, fun other atHand heq => ?_⟩
          cases heq
          exact ⟨source, hs, rfl, hv⟩

/-- Where a detail of a validation comes from: it is told of an issue of a validator that is made of
something known with the key of the source, or it tells of a failure, and no value. -/
inductive DetailFrom (known : ValidatorSource → Prop) (source : ValidatorSource) (data : Value)
    (detail : Detail) : Prop where
  /-- The detail tells of a failure of the engine. -/
  | failure (hpath : detail.path = [])
  /-- The detail is told of an issue. -/
  | issue {other : ValidatorSource} {validator : Validator} {issues : List Issue} {issue : Issue}
      (hknown : known other) (hkey : other.key = source.key)
      (hcompile : other.compile = .ok validator)
      (hissues : validator.validate data = .ok (.rejected issues)) (hm : issue ∈ issues)
      (hdetail : detail = issue.detail)

/-- A request keeps only validators that are made of something known, and tells only details that
come from one of them. -/
theorem madeOf_respond (h : s.cache.MadeOf known) (request : SideRequest)
    (hs : known request.source) :
    (p.respond s request).1.cache.MadeOf known ∧
      ∀ r, (p.respond s request).2 = .ok r →
        ∀ detail ∈ r.answer.details, DetailFrom known request.source request.data detail := by
  have h' : s.startTimer.2.cache.MadeOf known := h
  unfold respond validate
  dsimp only
  cases hf : p.validatorFor s.startTimer.2 request.source.side request.source.fields
    request.source.options with | mk t outcome =>
  obtain ⟨hcache, hvalidator⟩ := madeOf_validatorFor h' hs hf
  rcases outcome with (fault | failure) | ⟨validator, atHand⟩
  · exact ⟨hcache, fun r hr => by cases hr⟩
  · refine ⟨hcache, fun r hr detail hm => ?_⟩
    cases hr
    cases List.mem_singleton.mp hm
    exact .failure rfl
  · obtain ⟨other, hknown, hkey, hcompile⟩ := hvalidator validator atHand rfl
    dsimp only
    cases hd : validator.validate request.data with
    | error failure =>
      refine ⟨hcache, fun r hr detail hm => ?_⟩
      cases hr
      cases List.mem_singleton.mp hm
      exact .failure rfl
    | ok verdict =>
      refine ⟨hcache, fun r hr detail hm => ?_⟩
      cases hr
      cases verdict with
      | accepted output => cases hm
      | rejected issues =>
        obtain ⟨issue, hissue, rfl⟩ := List.mem_map.mp hm
        exact .issue hknown hkey hcompile hd hissue rfl

/-- A call for a tool keeps only validators that are made of something known. -/
theorem madeOf_validateTool (h : s.cache.MadeOf known) {data : Value} {schema : Schema}
    {options : Options}
    (hs : ∀ side, known (EngineCall.toolRequest data schema options side).source) :
    (p.validateTool s data schema options).1.cache.MadeOf known := by
  have hstart : s.startTimer.2.cache.MadeOf known := h
  have hinput := (madeOf_respond (p := p) hstart _ (hs .input)).1
  change (p.validate s.startTimer.2 .input (toolData data).1 schema.input options).1.cache.MadeOf
    known at hinput
  unfold validateTool
  dsimp only
  generalize p.validate s.startTimer.2 .input (toolData data).1 schema.input options = first
    at hinput ⊢
  obtain ⟨t, fault | ⟨output | details, timing⟩⟩ := first
  · exact hinput
  · have hconfig := (madeOf_respond (p := p) hinput _ (hs .config)).1
    change (p.validate t .config (toolData data).2 schema.config options).1.cache.MadeOf
      known at hconfig
    dsimp only
    generalize p.validate t .config (toolData data).2 schema.config options = second
      at hconfig ⊢
    obtain ⟨u, fault | ⟨others | details, timing⟩⟩ := second
    · exact hconfig
    · dsimp only
      rw [(p.checkTool_spec ..).1]
      exact hconfig
    · exact hconfig
  · exact hinput

/-- A call whose sources are known keeps only validators that are made of something known. -/
theorem madeOf_run (h : s.cache.MadeOf known) (call : EngineCall)
    (hs : ∀ source ∈ call.sources, known source) : (p.run s call).1.cache.MadeOf known := by
  cases call with
  | ofSide side data fields options =>
    exact (madeOf_respond h ⟨⟨side, fields, options⟩, data⟩
      (hs _ List.mem_cons_self)).1
  | ofTool data schema options =>
    refine madeOf_validateTool h fun side => hs _ ?_
    cases side <;> simp [EngineCall.sources]
  | ofField schema side name value =>
    cases hl : (schema.fields side).lookup name with
    | none =>
      simp only [run, testField, hl, Prod.map, id]
      exact h
    | some d =>
      simp only [run, testField, hl, Prod.map, id]
      exact (madeOf_respond h (EngineCall.fieldRequest d side name value)
        (hs _ (by simp [EngineCall.sources, hl]))).1
  | ofValue d name value options =>
    exact (madeOf_respond h (EngineCall.valueRequest d name value options)
      (hs _ List.mem_cons_self)).1
  | reset => exact .empty
  | advance seconds => exact h

/-- A run whose sources are known keeps only validators that are made of something known. -/
theorem madeOf_foldl_after (calls : List EngineCall) {m : Moment}
    (hs : ∀ source ∈ calls.flatMap EngineCall.sources, known source)
    (h : m.state.cache.MadeOf known) : (calls.foldl p.after m).state.cache.MadeOf known := by
  induction calls generalizing m with
  | nil => exact h
  | cons call rest ih =>
    rw [List.flatMap_cons, List.forall_mem_append] at hs
    exact ih hs.2 (madeOf_run h call hs.1)

end EngineParts

namespace Issue

variable {issue : Issue} {path : DataPath}

/-- The detail of an issue without a value has none. -/
theorem value_detail_of_null (h : issue.value = .null) : issue.detail.value = .null := by
  simp [detail, h, Value.isNull]

/-- The detail of an issue that shows a value has this value. -/
theorem ShowsAt.value_detail (h : issue.ShowsAt path) : issue.detail.value = issue.value := by
  simp [detail, h.secret]

/-- The detail of an issue that shows a value is not masked. -/
theorem ShowsAt.not_masked (h : issue.ShowsAt path) : ¬ issue.detail.Masked := by
  rintro (hnull | hmask)
  · exact h.value (h.value_detail.symm.trans hnull)
  · exact h.unmasked (h.value_detail.symm.trans hmask)

end Issue

namespace FieldMap

variable {fields : FieldMap}

/-- What a secret place covers is masked in the details of all validators whose fields have the same
text. -/
theorem SecretsCovered.masked (h : fields.SecretsCovered) {others : FieldMap}
    (htext : Json.canonical (Definition.fieldsRecord others) =
      Json.canonical (Definition.fieldsRecord fields))
    {issue : Issue} (htold : ToldAmong others issue) {path : DataPath} {d : Definition}
    (hd : fields.Governs path d) (hsecret : d.isSecret = true)
    (hbelow : path <+: issue.detail.path) : issue.detail.Masked := by
  obtain ⟨rest, hrest⟩ := hbelow
  have hpath : issue.path = path ++ rest := hrest.symm
  rcases htold with hnil | hnull | ⟨e, he, hissue, hshows⟩
  · obtain ⟨name, _, _, -, rfl, -⟩ := hd
    rw [hnil] at hpath
    cases hpath
  · exact .inl (Issue.value_detail_of_null hnull)
  · obtain ⟨e', he', hsame⟩ := he.exists_of_text htext
    have hshowing := Definition.sameShowing hsame
    rw [hpath] at he'
    rcases h path d hd hsecret rest e' he' with hcovered | hnothing
    · exact Issue.value_detail_of_secret
        (hissue.trans (hshowing.isSecret.trans hcovered))
    · exact absurd (hshowing.showsNothing.mpr hnothing) hshows

/-- An engine masks what is covered. -/
theorem keepsSecrets_of_covered (h : fields.SecretsCovered) : fields.KeepsSecrets := by
  intro p step calls htell side data options r hr detail hm path d hd hsecret hbelow
  have hcache : (calls.foldl p.after (.initial step)).state.cache.MadeOf
      fun source => DigestsTell source.fields.outline fields.outline :=
    EngineParts.madeOf_foldl_after calls htell .empty
  obtain ⟨-, hdetails⟩ := EngineParts.madeOf_respond (p := p) hcache
    ⟨⟨side, fields, options⟩, data⟩ fun _ => rfl
  cases hdetails r hr detail hm with
  | failure hpath =>
    obtain ⟨name, _, rest, -, rfl, -⟩ := hd
    rw [hpath] at hbelow
    exact absurd (List.prefix_nil.mp hbelow) (List.cons_ne_nil _ _)
  | issue hknown hkey hcompile hissues hissue hdetail =>
    -- The validator may be made of other fields, whose outline has the same digest.
    subst hdetail
    have hdigest := congrArg ValidatorKey.fields hkey
    exact h.masked (fieldsRecord_eq_of_outline (hknown.canonical_eq hdigest))
      (toldAmong_validate hcompile hissues _ hissue) hd hsecret hbelow

/-- An engine answers its first validation by the details of the validator that it makes. -/
theorem exists_first_result {source : ValidatorSource} {validator : Validator} {data : Value}
    {issues : List Issue} (hcompile : source.compile = .ok validator)
    (hissues : validator.validate data = .ok (.rejected issues)) :
    ∃ r, (EngineParts.standard.respond (.initial (.zero false)) ⟨source, data⟩).2 = .ok r ∧
      r.answer.details = issues.map (·.detail) := by
  have hdiffer : KeysDiffer (· = source) := fun a b ha hb _ => ha.trans hb.symm
  obtain ⟨hanswer, -, -⟩ := EngineParts.respond_spec EngineParts.standard_isCached hdiffer
    (Moment.faithful_initial _ (.zero false)) ⟨source, data⟩ rfl
  have hfresh : source.answer data = .ok (.rejected (issues.map (·.detail))) := by
    simp only [ValidatorSource.answer, hcompile, hissues]
    rfl
  rw [hfresh] at hanswer
  change (EngineParts.standard.respond (.initial (.zero false)) ⟨source, data⟩).2.map _ = _
    at hanswer
  cases hr : (EngineParts.standard.respond (.initial (.zero false)) ⟨source, data⟩).2 with
  | error fault =>
    rw [hr] at hanswer
    cases hanswer
  | ok r =>
    rw [hr] at hanswer
    exact ⟨r, rfl, congrArg Answer.details (Except.ok.inj hanswer)⟩

/-- If secrets are kept, they are covered: where they are not, a first validation shows a value. -/
theorem covered_of_keepsSecrets (hnames : fields.UniqueNames)
    (hready : ValidatorSource.Ready ⟨.input, fields, .standard⟩) (h : fields.KeepsSecrets) :
    fields.SecretsCovered := by
  intro path d hd hsecret rest e he
  by_contra hopen
  obtain ⟨hplain, hshows⟩ := not_or.mp hopen
  obtain ⟨validator, hcompile⟩ := hready
  obtain ⟨data, issues, issue, hissues, hm, hshown⟩ :=
    he.exists_shown hnames rfl (eq_false_of_ne_true hplain) hshows hcompile
  obtain ⟨r, hr, hdetails⟩ := exists_first_result hcompile hissues
  refine hshown.not_masked (h EngineParts.standard (.zero false) [] (fun _ hs => by cases hs)
    .input data .standard r hr issue.detail (hdetails ▸ List.mem_map_of_mem hm)
    path.throughFirst d hd.throughFirst hsecret ?_)
  change path.throughFirst <+: issue.path
  rw [hshown.path, DataPath.throughFirst, DataPath.throughFirst, List.map_append]
  exact List.prefix_append ..

/-- Engines mask values at secret places and below them if everything below is secret or shows
nothing. They do so only then, if no name is declared twice and the fields can be made ready. -/
theorem keepsSecrets_iff_covered (fields : FieldMap) :
    (fields.SecretsCovered → fields.KeepsSecrets) ∧
      (fields.UniqueNames → ValidatorSource.Ready ⟨.input, fields, .standard⟩ →
        fields.KeepsSecrets → fields.SecretsCovered) :=
  ⟨keepsSecrets_of_covered, covered_of_keepsSecrets⟩

/-- One field, which is a secret list. -/
def ofSecretList (item : Definition) : FieldMap :=
  [("codes", ⟨{ FieldAttributes.ofKind .array with sensitive := some true }, .of item, .undeclared⟩)]

/-- The list is governed by a secret definition. -/
theorem exists_governs_codes (item : Definition) :
    ∃ d, (ofSecretList item).Governs [.key "codes"] d ∧ d.isSecret = true :=
  ⟨_, ⟨"codes", _, [], List.mem_cons_self, rfl, .here _⟩, rfl⟩

/-- What is governed is the list or an item, if items hold nothing. -/
theorem eq_of_governs_ofSecretList {kind : FieldKind} {path : DataPath} {e : Definition}
    (h : (ofSecretList (.ofKind kind)).Governs path e) :
    (ofSecretList (.ofKind kind)).lookup "codes" = some e ∨ e = .ofKind kind := by
  obtain ⟨name, d, rest, hm, rfl, hat⟩ := h
  cases List.mem_singleton.mp hm
  cases hat with
  | here => exact .inl rfl
  | items hk hi i h =>
    cases hi
    cases h with
    | here => exact .inr rfl
    | items hk hi => cases hi
    | property hk hp => cases hp
  | property hk => cases hk

/-- Nothing has properties in a list of items that hold nothing. -/
theorem uniqueNames_ofSecretList (kind : FieldKind) :
    (ofSecretList (.ofKind kind)).UniqueNames where
  top := List.nodup_singleton _
  nested path d h properties _ hp := by
    rcases eq_of_governs_ofSecretList h with heq | rfl
    · cases heq
      cases hp
    · cases hp

/-- A secret list of keys is masked as a whole, and a secret list of numbers is not. -/
theorem keepsSecrets_ofSecretList :
    (ofSecretList (.ofKind .apiKey)).KeepsSecrets ∧
      ¬ (ofSecretList (.ofKind .number)).KeepsSecrets := by
  constructor
  · refine (keepsSecrets_iff_covered _).1 fun path d _ _ rest e he => .inl ?_
    rcases eq_of_governs_ofSecretList he with heq | rfl
    · cases heq
      rfl
    · rfl
  · intro h
    have hcovered := (keepsSecrets_iff_covered _).2 (uniqueNames_ofSecretList .number) ⟨_, rfl⟩ h
    obtain ⟨d, hd, hsecret⟩ := exists_governs_codes (.ofKind .number)
    have hitem : (ofSecretList (.ofKind .number)).Governs [.key "codes", .index 0]
        (.ofKind .number) :=
      ⟨"codes", _, [.index 0], List.mem_cons_self, rfl, .items rfl rfl 0 (.here _)⟩
    rcases hcovered _ d hd hsecret [.index 0] _ hitem with hopen | hshows
    · cases hopen
    · cases hshows.kind

/-- A text in a list that should hold numbers. -/
def codesData : Value := .record [("codes", .list [.text "1234"])]

/-- The text is shown in the details of a first validation, below the path of the secret list. -/
theorem shown_in_secret_list :
    ∃ d r detail, (ofSecretList (.ofKind .number)).Governs [.key "codes"] d ∧ d.isSecret = true ∧
      (EngineParts.standard.validate (.initial (.zero false)) .input codesData
        (ofSecretList (.ofKind .number)) .standard).2 = .ok r ∧ detail ∈ r.answer.details ∧
      detail.path = [.key "codes", .index 0] ∧ detail.value = .text "1234" ∧ ¬ detail.Masked := by
  have hmade : ∃ validator issue,
      (ValidatorSource.mk .input (ofSecretList (.ofKind .number)) .standard).compile =
          .ok validator ∧
        validator.validate codesData = .ok (.rejected [issue]) ∧
        issue.path = [.key "codes", .index 0] ∧ issue.secret = false ∧
        issue.value = .text "1234" := ⟨_, _, rfl, rfl, rfl, rfl, rfl⟩
  obtain ⟨validator, issue, hcompile, hissues, hpath, hopen, hvalue⟩ := hmade
  have hshown : issue.ShowsAt [.key "codes", .index 0] :=
    ⟨hpath, hopen, by simp [hvalue], by simp [hvalue, redactedText]⟩
  obtain ⟨r, hr, hdetails⟩ := exists_first_result hcompile hissues
  obtain ⟨d, hd, hsecret⟩ := exists_governs_codes (.ofKind .number)
  refine ⟨d, r, issue.detail, hd, hsecret, hr, ?_, hshown.path, ?_, hshown.not_masked⟩
  · rw [hdetails]
    exact List.mem_singleton_self _
  · rw [hshown.value_detail, hvalue]

end FieldMap

end Intake
