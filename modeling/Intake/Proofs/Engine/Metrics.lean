import Intake.Engine.Demand
import Intake.Proofs.Engine.Capacity
import Intake.Proofs.Engine.Phases
import Intake.Proofs.Validation.Locality

/-!
# What an engine tells of its work

An engine counts in one place, which is reached on many ways: calls for a side, for a tool, for a
field and for a value, and callers that ask for the output itself. Main statement: after every run the
engine tells exactly how many validations of a side came to a verdict since it was last reset, how many
of them had their validator at hand, and how many entries its cache has, which are never too many. A
fault of the schema is no verdict, nor is a failure of the engine, whoever tells of it.
-/

namespace Intake

/-- A use of an engine: a call, or a call by someone who asks for the output itself. -/
inductive EngineUse where
  /-- A call. -/
  | ofCall (call : EngineCall)
  /-- The output of an input is asked for. -/
  | demandInput (data : Value) (fields : FieldMap) (options : Options)
  /-- The output of a configuration is asked for. -/
  | demandConfig (data : Value) (fields : FieldMap) (options : Options)
  /-- The output of all data of a tool is asked for. -/
  | demandTool (data : Value) (schema : Schema) (options : Options)

namespace EngineUse

/-- The call that a use makes. -/
def asCall : EngineUse → EngineCall
  | .ofCall call => call
  | .demandInput data fields options => .ofSide .input data fields options
  | .demandConfig data fields options => .ofSide .config data fields options
  | .demandTool data schema options => .ofTool data schema options

/-- Whether the engine is reset. -/
def isReset : EngineUse → Bool
  | .ofCall .reset => true
  | _ => false

end EngineUse

/-- What the validation of a side leads to: a result or a fault of the schema. -/
abbrev SideOutcome := Except SchemaFault Result

namespace SideOutcome

/-- There is a result, and it does not tell of a failure of the engine. -/
def isVerdict : SideOutcome → Bool
  | .ok r => r.answer.details.all fun detail => decide (detail.code ≠ .system)
  | .error _ => false

/-- There is a verdict, and its validator was at hand. -/
def isHit (outcome : SideOutcome) : Bool :=
  outcome.isVerdict &&
    match outcome with
    | .ok r => r.fromCache
    | .error _ => false

end SideOutcome

namespace EngineParts

/-- The state after a use. -/
def use (p : EngineParts) (s : EngineState) : EngineUse → EngineState
  | .ofCall call => (p.run s call).1
  | .demandInput data fields options => (p.demandInput s data fields options).1
  | .demandConfig data fields options => (p.demandConfig s data fields options).1
  | .demandTool data schema options => (p.demandTool s data schema options).1

/-- What the validations of a side lead to that a call asks for. -/
def outcomes (p : EngineParts) (s : EngineState) (call : EngineCall) : List SideOutcome :=
  (p.requests ⟨s, []⟩ call).map fun (start, request) => (p.respond start.state request).2

/-- The state of an engine, and what its validations led to since it was last reset. -/
structure Ledger where
  /-- The state. -/
  state : EngineState
  /-- What the validations led to, the oldest first. -/
  outcomes : List SideOutcome

namespace Ledger

/-- The ledger after a use. -/
def after (p : EngineParts) (ledger : Ledger) (use : EngineUse) : Ledger :=
  ⟨p.use ledger.state use,
    if use.isReset then [] else ledger.outcomes ++ p.outcomes ledger.state use.asCall⟩

/-- The ledger of a run from the start, with a timer that goes on by a step. -/
def ofUses (p : EngineParts) (step : Binary64) (uses : List EngineUse) : Ledger :=
  uses.foldl (after p) ⟨.initial step, []⟩

end Ledger

/-- What an engine tells of its work is exact. -/
structure MetricsExact (p : EngineParts) (limits : CacheLimits) (ledger : Ledger) : Prop where
  /-- The validations are those that came to a verdict. -/
  validations : ledger.state.metrics.validations = ledger.outcomes.countP SideOutcome.isVerdict
  /-- The hits are those of them whose validator was at hand. -/
  hits : ledger.state.metrics.hits = ledger.outcomes.countP SideOutcome.isHit
  /-- There are no more hits than validations. -/
  hits_le : ledger.state.metrics.hits ≤ ledger.state.metrics.validations
  /-- The size of the cache is the number of the keys that it contains. -/
  cacheSize : ∃ keys : List ValidatorKey, keys.Nodup ∧
    (∀ key, key ∈ keys ↔ ledger.state.cache.contains key = true) ∧
      ledger.state.metrics.cacheSize = keys.length
  /-- The cache has no more entries than fill it. -/
  cacheSize_le : (ledger.state.metrics.cacheSize : Int) ≤ limits.maxSize
  /-- After a reset there is nothing to tell, and the cache contains nothing. -/
  reset : ledger.state.reset.metrics =
      ⟨0, 0, .zero false, .zero false, .zero false, 0⟩ ∧
    ∀ key, ledger.state.reset.cache.contains key = false
  /-- A field that is not declared is answered without a change. -/
  unknown : ∀ schema side name value, (schema.fields side).lookup name = none →
    p.testField ledger.state schema side name value =
      (ledger.state, .ok ⟨.rejected [unknownFieldDetail side name], none⟩)

end EngineParts

/-- A cache has different keys and no more entries than fill it. -/
structure Cache.Within (limits : CacheLimits) (c : Cache ValidatorKey Validator Binary64) : Prop where
  /-- The keys are different. -/
  nodup : c.keys.Nodup
  /-- The cache is not overfull. -/
  size_le : (c.size : Int) ≤ limits.maxSize

/-- From one state to another, what validations led to is counted, and a cache that is not overfull
stays so. -/
structure EngineState.Accounts (limits : CacheLimits) (s t : EngineState)
    (outcomes : List SideOutcome) : Prop where
  /-- Each verdict is counted. -/
  validations : t.tally.validations = s.tally.validations + outcomes.countP SideOutcome.isVerdict
  /-- Each hit is counted. -/
  hits : t.tally.hits = s.tally.hits + outcomes.countP SideOutcome.isHit
  /-- The cache stays as it should be. -/
  within : s.cache.Within limits → t.cache.Within limits

namespace EngineState.Accounts

variable {limits : CacheLimits} {s t u : EngineState} {outcomes more : List SideOutcome}

/-- What changes times only counts nothing. -/
theorem of_same (htally : t.tally = s.tally) (hcache : t.cache = s.cache) :
    s.Accounts limits t [] := by
  refine ⟨?_, ?_, ?_⟩
  · rw [htally]
    rfl
  · rw [htally]
    rfl
  · rw [hcache]
    exact id

theorem trans (h : s.Accounts limits t outcomes) (ht : t.Accounts limits u more) :
    s.Accounts limits u (outcomes ++ more) := by
  refine ⟨?_, ?_, fun hs => ht.within (h.within hs)⟩
  · rw [ht.validations, h.validations, List.countP_append, Nat.add_assoc]
  · rw [ht.hits, h.hits, List.countP_append, Nat.add_assoc]

end EngineState.Accounts

/-- No issue of a validator tells of a failure of the engine. -/
theorem Validator.code_ne_system {validator : Validator} {data : Value} {issues : List Issue}
    (h : validator.validate data = .ok (.rejected issues)) :
    ∀ issue ∈ issues, issue.code ≠ .system := by
  refine forall_validate (fun subject path finding => finding.code_ne) (fun path keys => ?_) ?_ h
  · exact ErrorCode.noConfusion
  · exact ErrorCode.noConfusion

/-- A verdict is no failure of the engine. -/
theorem isVerdict_answerOf {validator : Validator} {data : Value} {verdict : Verdict}
    (h : validator.validate data = .ok verdict) (timing : Option Timing) :
    SideOutcome.isVerdict (.ok ⟨EngineParts.answerOf verdict, timing⟩) = true := by
  cases verdict with
  | accepted output => rfl
  | rejected issues =>
    have hcodes := Validator.code_ne_system h
    simp only [SideOutcome.isVerdict, EngineParts.answerOf, Answer.details, List.all_map,
      List.all_eq_true]
    exact fun issue hm => decide_eq_true (hcodes issue hm)

namespace EngineParts

variable {p : EngineParts} {limits : CacheLimits} {s : EngineState}

/-- Looking for a validator counts nothing. -/
theorem accounts_validatorFor (hp : p.policy = limits.policy) (hmax : 1 ≤ limits.maxSize)
    (s : EngineState) (side : Side) (fields : FieldMap) (options : Options) :
    s.Accounts limits (p.validatorFor s side fields options).1 [] := by
  have hcall (c : Cache ValidatorKey Validator Binary64)
      (timed : TimedCall ValidatorKey Validator Binary64) (hc : c.Within limits) :
      (c.afterCall p.policy timed).Within limits := by
    rw [hp]
    have hsize : ((c.afterCall limits.policy timed).size : Int) ≤ limits.policy.maxSize :=
      Cache.size_afterCall_le hmax (fun _ _ => one_le_of_evictedOf) hc.size_le timed
    exact ⟨Cache.nodup_keys_afterCall hc.nodup timed, hsize⟩
  unfold validatorFor
  split
  · exact .of_same rfl rfl
  · dsimp only
    have hget := hcall s.cache ⟨s.clock, .get (.of side.name fields options)⟩
    simp only [Cache.afterCall] at hget
    generalize s.cache.get p.policy s.clock (.of side.name fields options) = found at hget ⊢
    obtain ⟨cache, - | validator⟩ := found
    · cases Validator.compile options side.name fields with
      | error e => exact ⟨rfl, rfl, hget⟩
      | ok validator =>
        dsimp only
        have hput := hcall cache ⟨s.clock, .put (.of side.name fields options) validator⟩
        simp only [Cache.afterCall] at hput
        generalize cache.put p.policy s.clock (.of side.name fields options) validator = written
          at hput ⊢
        obtain ⟨cache, failure | ⟨⟩⟩ := written
        · exact ⟨rfl, rfl, fun hs => hput (hget hs)⟩
        · exact ⟨rfl, rfl, fun hs => hput (hget hs)⟩
    · exact ⟨rfl, rfl, hget⟩

/-- A request is counted if it comes to a verdict. -/
theorem accounts_respond (hp : p.policy = limits.policy) (hmax : 1 ≤ limits.maxSize)
    (s : EngineState) (request : SideRequest) :
    s.Accounts limits (p.respond s request).1 [(p.respond s request).2] := by
  have hfound := accounts_validatorFor (p := p) hp hmax s.startTimer.2 request.source.side
    request.source.fields request.source.options
  unfold respond validate
  dsimp only
  generalize p.validatorFor s.startTimer.2 request.source.side request.source.fields
    request.source.options = found at hfound ⊢
  obtain ⟨t, (fault | failure) | ⟨validator, atHand⟩⟩ := found
  · exact ⟨hfound.validations, hfound.hits, hfound.within⟩
  · exact ⟨hfound.validations, hfound.hits, hfound.within⟩
  · dsimp only
    cases hverdict : validator.validate request.data with
    | error failure => exact ⟨hfound.validations, hfound.hits, hfound.within⟩
    | ok verdict =>
      have htold := isVerdict_answerOf hverdict (some (t.stopTimer s.startTimer.1 atHand).1)
      refine ⟨?_, ?_, hfound.within⟩
      · simp only [List.countP_singleton, htold, if_true]
        exact congrArg (· + 1) hfound.validations
      · simp only [List.countP_singleton, SideOutcome.isHit, htold, Bool.true_and]
        exact congrArg (· + if atHand then 1 else 0) hfound.hits

/-- What does not end the validation of a tool accepts its side. -/
theorem exists_accepted_of_not_endsTool {outcome : SideOutcome} (h : ¬ EndsTool outcome) :
    ∃ r, outcome = .ok r ∧ ∃ output, r.answer = .accepted output := by
  rcases outcome with fault | ⟨output | details, timing⟩
  · exact absurd trivial h
  · exact ⟨_, rfl, output, rfl⟩
  · exact absurd rfl h

/-- A tool that is ended by its input asks for one validation. -/
theorem outcomes_of_input_ends {s t : EngineState} {data : Value} {schema : Schema}
    {options : Options} {outcome : SideOutcome}
    (hinput : p.phase s.startTimer.2 data schema options .input = (t, outcome))
    (hends : EndsTool outcome) : p.outcomes s (.ofTool data schema options) = [outcome] := by
  change p.respond s.startTimer.2 (EngineCall.toolRequest data schema options .input) = _ at hinput
  simp only [outcomes, requests, hinput]
  rcases outcome with fault | ⟨output | details, timing⟩
  · simp only [List.map_cons, List.map_nil, hinput]
  · cases hends
  · simp only [List.map_cons, List.map_nil, hinput]

/-- A tool whose input is accepted asks for two validations. -/
theorem outcomes_of_input_accepted {s t u : EngineState} {data : Value} {schema : Schema}
    {options : Options} {first : Result} {input : List (String × Value)} {second : SideOutcome}
    (hinput : p.phase s.startTimer.2 data schema options .input = (t, .ok first))
    (hfirst : first.answer = .accepted input)
    (hconfig : p.phase t data schema options .config = (u, second)) :
    p.outcomes s (.ofTool data schema options) = [.ok first, second] := by
  change p.respond s.startTimer.2 (EngineCall.toolRequest data schema options .input) = _ at hinput
  change p.respond t (EngineCall.toolRequest data schema options .config) = _ at hconfig
  obtain ⟨answer, timing⟩ := first
  obtain rfl : answer = .accepted input := hfirst
  simp only [outcomes, requests, afterRequest, hinput, List.map_cons, List.map_nil, hconfig]

/-- The validation of a tool counts its phases, and nothing for its rules. -/
theorem accounts_validateTool (hp : p.policy = limits.policy) (hmax : 1 ≤ limits.maxSize)
    (s : EngineState) (data : Value) (schema : Schema) (options : Options) :
    s.Accounts limits (p.validateTool s data schema options).1
      (p.outcomes s (.ofTool data schema options)) := by
  have hphase (s : EngineState) (side : Side) :
      s.Accounts limits (p.phase s data schema options side).1
        [(p.phase s data schema options side).2] := accounts_respond hp hmax s _
  have hstart : s.Accounts limits s.startTimer.2 [] := .of_same rfl rfl
  have hinput := hstart.trans (hphase s.startTimer.2 .input)
  cases hfirst : p.phase s.startTimer.2 data schema options .input with | mk t first =>
  rw [hfirst] at hinput
  by_cases hends : EndsTool first
  · rw [validateTool_of_input_ends hfirst hends, outcomes_of_input_ends hfirst hends]
    exact hinput
  · obtain ⟨r, rfl, input, hinputAccepted⟩ := exists_accepted_of_not_endsTool hends
    have hboth := hinput.trans (hphase t .config)
    cases hsecond : p.phase t data schema options .config with | mk u second =>
    rw [hsecond] at hboth
    rw [outcomes_of_input_accepted hfirst hinputAccepted hsecond]
    by_cases hends' : EndsTool second
    · rw [validateTool_of_config_ends hfirst (by rw [hinputAccepted]; rfl) hsecond hends']
      exact hboth
    · obtain ⟨r', rfl, config, hconfigAccepted⟩ := exists_accepted_of_not_endsTool hends'
      obtain ⟨result, hresult, -⟩ := p.exists_checkTool_eq u s.startTimer.1
        (r.fromCache && r'.fromCache) schema.rules input config
      rw [validateTool_of_accepted hfirst hinputAccepted hsecond hconfigAccepted, hresult]
      exact hboth.trans (.of_same rfl rfl)

/-- A field that is not declared is answered without a change. -/
theorem testField_of_unknown (p : EngineParts) (s : EngineState) {schema : Schema} {side : Side}
    {name : String} (h : (schema.fields side).lookup name = none) (value : Value) :
    p.testField s schema side name value =
      (s, .ok ⟨.rejected [unknownFieldDetail side name], none⟩) := by
  simp only [testField, h]

/-- A call that does not reset the engine counts what it asks for. -/
theorem accounts_run (hp : p.policy = limits.policy) (hmax : 1 ≤ limits.maxSize)
    (s : EngineState) {call : EngineCall} (h : call ≠ .reset) :
    s.Accounts limits (p.run s call).1 (p.outcomes s call) := by
  cases call with
  | ofSide side data fields options =>
    exact accounts_respond hp hmax s ⟨⟨side, fields, options⟩, data⟩
  | ofTool data schema options => exact accounts_validateTool hp hmax s data schema options
  | ofField schema side name value =>
    cases hl : (schema.fields side).lookup name with
    | none =>
      simp only [run, outcomes, requests, hl, testField_of_unknown p s hl]
      exact .of_same rfl rfl
    | some d =>
      simp only [run, outcomes, requests, testField, hl]
      exact accounts_respond hp hmax s (EngineCall.fieldRequest d side name value)
  | ofValue d name value options =>
    exact accounts_respond hp hmax s (EngineCall.valueRequest d name value options)
  | reset => exact absurd rfl h
  | advance seconds => exact .of_same rfl rfl

/-- A use changes the state as its call does. -/
theorem use_eq (p : EngineParts) (s : EngineState) (use : EngineUse) :
    p.use s use = (p.run s use.asCall).1 := by
  cases use <;> rfl

/-- From the start of a run everything is counted. -/
theorem Ledger.accounts_ofUses (hp : p.policy = limits.policy) (hmax : 1 ≤ limits.maxSize)
    (step : Binary64) (uses : List EngineUse) :
    (EngineState.initial step).Accounts limits (Ledger.ofUses p step uses).state
      (Ledger.ofUses p step uses).outcomes := by
  induction uses using List.reverseRecOn with
  | nil => exact .of_same rfl rfl
  | append_singleton uses use ih =>
    rw [Ledger.ofUses, List.foldl_append]
    change (EngineState.initial step).Accounts limits
      ((Ledger.ofUses p step uses).after p use).state ((Ledger.ofUses p step uses).after p use).outcomes
    generalize Ledger.ofUses p step uses = ledger at ih ⊢
    unfold Ledger.after
    dsimp only
    cases hreset : use.isReset with
    | true =>
      obtain rfl : use = .ofCall .reset := by
        unfold EngineUse.isReset at hreset
        split at hreset
        · rfl
        · cases hreset
      exact .of_same rfl rfl
    | false =>
      rw [use_eq, if_neg Bool.false_ne_true]
      refine ih.trans (accounts_run hp hmax ledger.state fun h => ?_)
      rcases use with call | _ | _ | _
      · cases h
        cases hreset
      · cases h
      · cases h
      · cases h

/-- After every run the engine tells exactly what was done since it was last reset, if its cache can
hold an entry. -/
theorem metricsExact_ofUses (p : EngineParts) {limits : CacheLimits}
    (hp : p.policy = limits.policy) (hmax : 1 ≤ limits.maxSize) (step : Binary64)
    (uses : List EngineUse) : p.MetricsExact limits (.ofUses p step uses) := by
  have h := Ledger.accounts_ofUses hp hmax step uses
  generalize Ledger.ofUses p step uses = ledger at h ⊢
  have hvalidations := h.validations.trans (Nat.zero_add _)
  have hhits := h.hits.trans (Nat.zero_add _)
  have hwithin : ledger.state.cache.Within limits :=
    h.within ⟨List.nodup_nil, Int.le_of_lt hmax⟩
  refine ⟨hvalidations, hhits, ?_, ?_, hwithin.size_le, ⟨rfl, fun _ => rfl⟩,
    fun schema side name value hname => testField_of_unknown p ledger.state hname value⟩
  · change ledger.state.tally.hits ≤ ledger.state.tally.validations
    rw [hvalidations, hhits]
    exact List.countP_mono_left fun outcome _ hhit => (Bool.and_eq_true_iff.mp hhit).1
  · refine ⟨ledger.state.cache.keys, hwithin.nodup, fun key => ?_, ?_⟩
    · rw [Cache.contains, Option.isSome_iff_ne_none, ne_eq, Cache.lookup?_eq_none_iff, not_not]
    · exact (List.length_map _).symm

/-- A run in which the engine is reset between two validations, and a field is asked for at the end
that is not declared. -/
def resetUses : List EngineUse :=
  [.demandInput (.record [("city", .text "Oslo")]) [("city", .ofKind .string)] .standard,
   .ofCall .reset,
   .ofCall (.ofSide .input (.record [("city", .int 3)]) [("city", .ofKind .string)] .standard),
   .ofCall (.ofField .empty .input "city" .null)]

/-- The engine tells of the one validation since it was reset. -/
theorem metricsExact_resetUses :
    standard.policy = CacheLimits.standard.policy ∧ 1 ≤ CacheLimits.standard.maxSize ∧
      standard.MetricsExact .standard (.ofUses standard (.zero false) resetUses) ∧
      (Ledger.ofUses standard (.zero false) resetUses).state.metrics.validations = 1 ∧
      (Ledger.ofUses standard (.zero false) resetUses).state.metrics.cacheSize = 1 :=
  ⟨rfl, by decide, metricsExact_ofUses standard rfl (by decide) (.zero false) resetUses,
    by decide +kernel, by decide +kernel⟩

end EngineParts

end Intake
