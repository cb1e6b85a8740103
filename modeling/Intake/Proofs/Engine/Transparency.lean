import Intake.Proofs.Engine.Run

/-!
# The cache from the outside

Main statement: in every run in which different validators have different keys, every call is answered
as a fresh one is, and every validation that comes to a verdict says that its validator was at hand
exactly if the history of the cache holds its entry. A validation in which the check of the data
fails never says so, held or not.
-/

namespace Intake

namespace EngineParts

variable {known : ValidatorSource → Prop} {p : EngineParts} {m : Moment}

/-- A request of something known is answered as a fresh one is. -/
theorem respond_spec (hp : p.IsCached) (hk : KeysDiffer known) (h : m.Faithful known)
    (request : SideRequest) (hs : known request.source) :
    (p.respond m.state request).2.map (·.answer) = request.source.answer request.data ∧
      (p.afterRequest m request).Faithful known ∧
      ∀ r, (p.respond m.state request).2 = .ok r →
        TellsOrigin request.source request.data
          (m.history ++ p.askEvents m.state request.source) r :=
  validate_spec hp hk h hs request.data rfl

/-- The rules of a tool leave the cache. -/
theorem checkTool_spec (p : EngineParts) (s : EngineState) (start : Binary64) (fromCache : Bool)
    (rules : List Rule) (input config : List (String × Value)) :
    (p.checkTool s start fromCache rules input config).1.cache = s.cache ∧
      (p.checkTool s start fromCache rules input config).2.map (·.answer) =
        .ok (p.rulesAnswer rules input config) := by
  unfold checkTool rulesAnswer
  cases rules with
  | nil => exact ⟨rfl, rfl⟩
  | cons rule others =>
    cases p.rulesFailure with
    | some message => exact ⟨rfl, rfl⟩
    | none =>
      dsimp only
      cases checkRules p.handler
        (.record [("input", .record input), ("config", .record config)]) (rule :: others) with
      | nil => exact ⟨rfl, rfl⟩
      | cons detail details => exact ⟨rfl, rfl⟩

/-- The answer of a tool is that of its phases, one after the other. -/
theorem answer_validateTool (p : EngineParts) (s : EngineState) (data : Value) (schema : Schema)
    (options : Options) {t u : EngineState} {first second : Except SchemaFault Result}
    (hi : p.respond s.startTimer.2 (EngineCall.toolRequest data schema options .input) = (t, first))
    (hc : p.respond t (EngineCall.toolRequest data schema options .config) = (u, second)) :
    (p.validateTool s data schema options).2.map (·.answer) =
      inPhases (first.map (·.answer)) (second.map (·.answer)) (p.rulesAnswer schema.rules) := by
  change p.validate s.startTimer.2 .input (toolData data).1 schema.input options = _ at hi
  change p.validate t .config (toolData data).2 schema.config options = _ at hc
  simp only [validateTool, hi]
  rcases first with fault | ⟨output | details, timing⟩
  · rfl
  · simp only [hc]
    rcases second with fault | ⟨output | details, timing⟩
    · rfl
    · exact (p.checkTool_spec ..).2
    · rfl
  · rfl

/-- After a tool the cache is as its last request left it. -/
theorem exists_last_request (p : EngineParts) (m : Moment) (data : Value) (schema : Schema)
    (options : Options) :
    ∃ start request,
      (p.requests m (.ofTool data schema options)).getLast? = some (start, request) ∧
        (p.validateTool m.state data schema options).1.cache =
          (p.respond start.state request).1.cache := by
  cases hi : p.respond m.state.startTimer.2 (EngineCall.toolRequest data schema options .input) with
  | mk t first =>
  cases hc : p.respond t (EngineCall.toolRequest data schema options .config) with
  | mk u second =>
  have hi' : p.validate m.state.startTimer.2 .input (toolData data).1 schema.input options =
    (t, first) := hi
  have hc' : p.validate t .config (toolData data).2 schema.config options = (u, second) := hc
  simp only [requests, afterRequest, validateTool, hi, hi']
  rcases first with fault | ⟨output | details, timing⟩
  · exact ⟨_, _, rfl, by rw [hi]⟩
  · refine ⟨_, _, rfl, ?_⟩
    simp only [hc, hc']
    rcases second with fault | ⟨output | details, timing⟩
    · rfl
    · exact (p.checkTool_spec ..).1
    · rfl
  · exact ⟨_, _, rfl, by rw [hi]⟩

/-- A call whose requests start with a faithful cache is a fresh one from the outside if its answer
is, and the cache is faithful after it if it is as the last request left it. -/
theorem callsFresh_of_requests (hp : p.IsCached) (hk : KeysDiffer known) {call : EngineCall}
    (hanswer : (p.run m.state call).2.map (·.map (·.answer)) = p.freshAnswer call)
    (hrequests : ∀ start request, (start, request) ∈ p.requests m call →
      start.Faithful known ∧ known request.source)
    {start : Moment} {request : SideRequest}
    (hlast : (p.requests m call).getLast? = some (start, request))
    (hcache : (p.run m.state call).1.cache = (p.respond start.state request).1.cache)
    (hevents : call.ownEvents = []) : p.CallsFresh m call ∧ (p.after m call).Faithful known := by
  refine ⟨⟨hanswer, fun start request hm => ?_⟩, ?_⟩
  · obtain ⟨h, hs⟩ := hrequests start request hm
    exact (respond_spec hp hk h request hs).2.2
  · obtain ⟨h, hs⟩ := hrequests start request (List.mem_of_getLast? hlast)
    unfold after Moment.Faithful
    rw [hcache, hlast, hevents, List.append_nil]
    exact (respond_spec hp hk h request hs).2.1

/-- A call that is a single request is a fresh one from the outside. -/
theorem callsFresh_of_single (hp : p.IsCached) (hk : KeysDiffer known) (h : m.Faithful known)
    {call : EngineCall} (request : SideRequest) (hs : known request.source)
    (hrun : p.run m.state call = (p.respond m.state request).map id some)
    (hrequests : p.requests m call = [(m, request)])
    (hfresh : p.freshAnswer call = some (request.source.answer request.data))
    (hevents : call.ownEvents = []) : p.CallsFresh m call ∧ (p.after m call).Faithful known := by
  have hlast : (p.requests m call).getLast? = some (m, request) := by rw [hrequests]; rfl
  refine callsFresh_of_requests hp hk ?_ ?_ hlast ?_ hevents
  · rw [hrun, hfresh, ← (respond_spec hp hk h request hs).1]
    rfl
  · intro start other hm
    rw [hrequests] at hm
    obtain ⟨rfl, rfl⟩ : start = m ∧ other = request := by simpa using hm
    exact ⟨h, hs⟩
  · rw [hrun]
    rfl

/-- A call for a tool is a fresh one from the outside. -/
theorem callsFresh_tool (hp : p.IsCached) (hk : KeysDiffer known) (h : m.Faithful known)
    (data : Value) (schema : Schema) (options : Options)
    (hs : ∀ side, known (EngineCall.toolRequest data schema options side).source) :
    p.CallsFresh m (.ofTool data schema options) ∧
      (p.after m (.ofTool data schema options)).Faithful known := by
  have hstart : Moment.Faithful known ⟨m.state.startTimer.2, m.history⟩ := h
  obtain ⟨ha, hf, -⟩ := respond_spec hp hk hstart _ (hs .input)
  obtain ⟨hb, -, -⟩ := respond_spec hp hk hf _ (hs .config)
  obtain ⟨start, request, hlast, hcache⟩ := exists_last_request p m data schema options
  refine callsFresh_of_requests hp hk ?_ ?_ hlast hcache rfl
  · rw [freshAnswer, toolAnswer, ← ha, ← hb]
    exact congrArg some (answer_validateTool p m.state data schema options rfl rfl)
  · intro start request hm
    unfold requests at hm
    dsimp only at hm
    split at hm
    · rcases List.mem_cons.mp hm with hm | hm
      · cases hm
        exact ⟨hstart, hs .input⟩
      · cases List.mem_singleton.mp hm
        exact ⟨hf, hs .config⟩
    · cases List.mem_singleton.mp hm
      exact ⟨hstart, hs .input⟩

/-- A call for a declared or undeclared field is a fresh one from the outside. -/
theorem callsFresh_field (hp : p.IsCached) (hk : KeysDiffer known) (h : m.Faithful known)
    (schema : Schema) (side : Side) (name : String) (value : Value)
    (hs : ∀ source ∈ (EngineCall.ofField schema side name value).sources, known source) :
    p.CallsFresh m (.ofField schema side name value) ∧
      (p.after m (.ofField schema side name value)).Faithful known := by
  cases hl : (schema.fields side).lookup name with
  | none =>
    have hrun : p.run m.state (.ofField schema side name value) =
        (m.state, some (.ok ⟨.rejected [unknownFieldDetail side name], none⟩)) := by
      simp only [run, testField, hl, Prod.map, id]
    have hrequests : p.requests m (.ofField schema side name value) = [] := by
      simp only [requests, hl]
    refine ⟨⟨?_, ?_⟩, ?_⟩
    · rw [hrun]
      simp only [freshAnswer, hl]
      rfl
    · rw [hrequests]
      simp
    · unfold after Moment.Faithful
      rw [hrun, hrequests]
      change Cache.Faithful known m.state.cache (m.history ++ [])
      rwa [List.append_nil]
  | some d =>
    have hknown : known (EngineCall.fieldRequest d side name value).source :=
      hs _ (by simp [EngineCall.sources, hl])
    refine callsFresh_of_single hp hk h (EngineCall.fieldRequest d side name value) hknown ?_ ?_ ?_
      rfl
    · simp only [run, testField, hl]
      rfl
    · simp only [requests, hl]
    · simp only [freshAnswer, hl]

/-- A call whose sources are known is a fresh one from the outside. -/
theorem callsFresh_of_faithful (hp : p.IsCached) (hk : KeysDiffer known) (h : m.Faithful known)
    (call : EngineCall) (hs : ∀ source ∈ call.sources, known source) :
    p.CallsFresh m call ∧ (p.after m call).Faithful known := by
  cases call with
  | ofSide side data fields options =>
    exact callsFresh_of_single hp hk h ⟨⟨side, fields, options⟩, data⟩ (hs _ List.mem_cons_self)
      rfl rfl rfl rfl
  | ofTool data schema options =>
    refine callsFresh_tool hp hk h data schema options fun side => hs _ ?_
    cases side <;> simp [EngineCall.sources]
  | ofField schema side name value => exact callsFresh_field hp hk h schema side name value hs
  | ofValue d name value options =>
    exact callsFresh_of_single hp hk h (EngineCall.valueRequest d name value options)
      (hs _ List.mem_cons_self) rfl rfl rfl rfl
  | reset =>
    refine ⟨⟨rfl, ?_⟩, Cache.faithful_cleared m.history⟩
    simp [requests]
  | advance seconds =>
    refine ⟨⟨rfl, ?_⟩, ?_⟩
    · simp [requests]
    · change Cache.Faithful known m.state.cache (m.history ++ [])
      rwa [List.append_nil]

/-- The cache stays faithful in a run whose sources are known. -/
theorem faithful_foldl_after (hp : p.IsCached) (hk : KeysDiffer known) (calls : List EngineCall)
    (hs : ∀ call ∈ calls, ∀ source ∈ call.sources, known source) (h : m.Faithful known) :
    (calls.foldl p.after m).Faithful known := by
  induction calls generalizing m with
  | nil => exact h
  | cons call rest ih =>
    have hcall := callsFresh_of_faithful hp hk h call (hs call List.mem_cons_self)
    exact ih (fun other hm => hs other (List.mem_cons_of_mem _ hm)) hcall.2

/-- In every run in which different validators have different keys the cache cannot be told from the
outside: every call is answered as a fresh one is, and every validation tells where its validator
came from. -/
theorem run_callsFresh (hp : p.IsCached) (step : Binary64) (calls : List EngineCall)
    (hk : KeysDiffer (· ∈ calls.flatMap EngineCall.sources)) (before after : List EngineCall)
    (call : EngineCall) (hcalls : calls = before ++ call :: after) :
    p.CallsFresh (before.foldl p.after (.initial step)) call := by
  have hs (other : EngineCall) (hm : other ∈ calls) (source : ValidatorSource)
      (hsource : source ∈ other.sources) : source ∈ calls.flatMap EngineCall.sources :=
    List.mem_flatMap.mpr ⟨other, hm, hsource⟩
  have hbefore : (before.foldl p.after (.initial step)).Faithful
      (· ∈ calls.flatMap EngineCall.sources) :=
    faithful_foldl_after hp hk before (fun other hm => hs other (by simp [hcalls, hm]))
      (Moment.faithful_initial _ step)
  exact (callsFresh_of_faithful hp hk hbefore call (hs call (by simp [hcalls]))).1

/-- An engine with the limits that stand where none are given. -/
def standard : EngineParts := ⟨CacheLimits.standard.policy, none, none, none⟩

theorem standard_isCached : standard.IsCached where
  works := rfl
  limited := by
    refine ⟨CacheLimits.standard, ⟨?_, ?_, ?_, ?_⟩, rfl⟩
    all_goals decide +kernel

/-- A call for a tool with a field on each side. -/
def twoSidedCall : EngineCall :=
  .ofTool (.record [("input", .record [("city", .text "Oslo")])])
    ⟨some [("city", .ofKind .string)], some [("key", .ofKind .apiKey)], none⟩ .standard

/-- A tool is validated a second time. -/
theorem callsFresh_again :
    standard.IsCached ∧ KeysDiffer (· ∈ [twoSidedCall, twoSidedCall].flatMap EngineCall.sources) ∧
      standard.CallsFresh ([twoSidedCall].foldl standard.after (.initial (.zero false)))
        twoSidedCall := by
  have hk : KeysDiffer (· ∈ [twoSidedCall, twoSidedCall].flatMap EngineCall.sources) := by
    intro a b ha hb hkey
    have hname : a.key.name = b.key.name := congrArg ValidatorKey.name hkey
    simp only [twoSidedCall, EngineCall.sources, List.flatMap_cons, List.flatMap_nil,
      List.append_nil, List.cons_append, List.nil_append, List.mem_cons, List.not_mem_nil,
      or_false] at ha hb
    rcases ha with rfl | rfl | rfl | rfl <;> rcases hb with rfl | rfl | rfl | rfl <;>
      first | rfl | exact absurd hname (by decide)
  exact ⟨standard_isCached, hk, run_callsFresh standard_isCached (.zero false) _ hk [twoSidedCall]
    [] twoSidedCall rfl⟩

/-- A field whose JSON Schema refers to nothing. -/
def danglingDefinition : Definition :=
  (Definition.ofKind .json).withAttributes fun a =>
    { a with
      rules := .of ⟨.undeclared, .undeclared, .undeclared, .undeclared, .undeclared, .undeclared,
        .of [("$ref", .text "#/nowhere")]⟩ }

/-- A request whose validator is made, but fails on the data. -/
def danglingRequest : SideRequest :=
  ⟨⟨.input, [("f", danglingDefinition)], .standard⟩, .record [("f", .int 1)]⟩

/-- The call that makes the request. -/
def danglingCall : EngineCall :=
  .ofSide .input danglingRequest.data danglingRequest.source.fields .standard

/-- The moment after the first of such calls. -/
def danglingMoment : Moment := standard.after (.initial (.zero false)) danglingCall

theorem exists_dangling_failure :
    ∃ validator failure, danglingRequest.source.compile = .ok validator ∧
      validator.validate danglingRequest.data = .error failure := by
  have hc : danglingRequest.source.compile.isOk = true := by decide +kernel
  have hf : (danglingRequest.source.compile.bind fun validator =>
    (validator.validate danglingRequest.data).mapError .failure).isOk = false := by decide +kernel
  cases hv : danglingRequest.source.compile with
  | error e =>
    rw [hv] at hc
    cases hc
  | ok validator =>
    rw [hv] at hf
    cases hd : validator.validate danglingRequest.data with
    | error failure => exact ⟨validator, failure, rfl, hd⟩
    | ok verdict =>
      simp only [Except.bind, hd] at hf
      cases hf

/-- The first request of a run stores the entry of its validator. -/
theorem afterRequest_initial {validator : Validator} {request : SideRequest}
    (hv : request.source.compile = .ok validator) :
    (standard.afterRequest (.initial (.zero false)) request).history =
        [.stored request.source.key] ∧
      (standard.afterRequest (.initial (.zero false)) request).state.cache =
        ⟨[⟨request.source.key, validator, .zero false, 0⟩]⟩ ∧
      (standard.afterRequest (.initial (.zero false)) request).state.clock = .zero false := by
  have hv' : Validator.compile request.source.options request.source.side.name
    request.source.fields = .ok validator := hv
  have hfor : standard.validatorFor (Moment.initial (.zero false)).state.startTimer.2
      request.source.side request.source.fields request.source.options =
        ({ (Moment.initial (.zero false)).state.startTimer.2 with
          cache := ⟨[⟨request.source.key, validator, .zero false, 0⟩]⟩ },
          .ok (validator, false)) := by
    simp only [validatorFor, hv']
    rfl
  refine ⟨?_, ?_⟩
  · simp only [afterRequest, askEvents, makeEvents, hv]
    rfl
  · simp only [afterRequest, respond, validate, hfor]
    cases hd : validator.validate request.data with
    | ok verdict => exact ⟨rfl, rfl⟩
    | error failure => exact ⟨rfl, rfl⟩

theorem danglingMoment_eq :
    danglingMoment = standard.afterRequest (.initial (.zero false)) danglingRequest := by
  unfold danglingMoment after
  change Moment.mk _ (_ ++ []) = _
  rw [List.append_nil]
  rfl

/-- The entry is held when the validator is asked for again at the same time. -/
theorem held_dangling :
    CacheEvent.Held danglingRequest.source.key
      (danglingMoment.history ++ standard.askEvents danglingMoment.state danglingRequest.source) := by
  obtain ⟨validator, failure, hv, -⟩ := exists_dangling_failure
  obtain ⟨hhistory, hcache, hclock⟩ := afterRequest_initial hv
  have hyoung : standard.policy.isExpired (.zero false) (.zero false) = false := by decide +kernel
  rw [danglingMoment_eq, hhistory]
  refine ⟨[], [], ?_, by simp⟩
  simp [askEvents, hcache, hclock, Cache.getEvents, Cache.lookup?, hyoung]

/-- A validation does not always say that its validator was at hand when the entry was held: the
second of two validations does not in which the check of the data fails. -/
theorem held_of_not_fromCache :
    ¬ ∀ start request, (start, request) ∈ standard.requests danglingMoment danglingCall →
      ∀ r timing, (standard.respond start.state request).2 = .ok r → r.timing = some timing →
        (timing.fromCache = true ↔ CacheEvent.Held request.source.key
          (start.history ++ standard.askEvents start.state request.source)) := by
  intro h
  obtain ⟨validator, failure, hv, hd⟩ := exists_dangling_failure
  have hk : KeysDiffer (· = danglingRequest.source) := fun a b ha hb _ => ha.trans hb.symm
  have hfaithful : danglingMoment.Faithful (· = danglingRequest.source) := by
    rw [danglingMoment_eq]
    exact (respond_spec standard_isCached hk (Moment.faithful_initial _ _) danglingRequest rfl).2.1
  obtain ⟨hanswer, -, horigin⟩ := respond_spec standard_isCached hk hfaithful danglingRequest rfl
  -- The answer is no fault of the schema, so that there is a result.
  have hfails : danglingRequest.source.answer danglingRequest.data =
      .ok (.rejected [failureDetail "Validation system error" failure]) := by
    simp only [ValidatorSource.answer, hv, hd]
    rfl
  cases hr : (standard.respond danglingMoment.state danglingRequest).2 with
  | error fault =>
    rw [hr, hfails] at hanswer
    cases hanswer
  | ok r =>
    obtain ⟨timing, htiming, hfrom⟩ := horigin r hr
    have hsaid : timing.fromCache = true :=
      (h _ danglingRequest (List.mem_singleton.mpr rfl) r timing hr htiming).mpr held_dangling
    obtain ⟨verdict, hverdict⟩ := (ValidatorSource.decides_iff hv _).mp (hfrom.mp hsaid).1
    rw [hd] at hverdict
    cases hverdict

end EngineParts

end Intake
