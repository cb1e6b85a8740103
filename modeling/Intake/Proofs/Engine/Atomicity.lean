import Intake.Proofs.Engine.Metrics
import Intake.Proofs.Engine.Secrecy
import Intake.Proofs.Engine.Verdict

/-!
# What goes wrong leaves no trace

A validation looks for a validator, makes one, keeps it, checks the data with it and counts, and may
end after each of these steps. Main statement: whatever an engine was used for before, a fault of
the schema leaves its cache and what it counted as they were, if different schemas have different
keys; a failure of the engine leaves what it counted; and a result refuses the data exactly if it
tells of something. An entry that has expired is dropped when it is asked for, so the first of these
needs a reason: an entry is only there under the key of a schema that was made ready.
-/

namespace Intake

/-- A state of an engine that has validated by known fields only. -/
inductive EngineState.Reached (known : ValidatorSource → Prop) : EngineState → Prop
  /-- There is nothing in the cache. -/
  | start {s : EngineState} (h : s.cache = .empty) : Reached known s
  /-- An engine is used. -/
  | use {s : EngineState} (h : Reached known s) (p : EngineParts) (use : EngineUse)
    (hs : ∀ source ∈ use.asCall.sources, known source) : Reached known (p.use s use)
  /-- Another engine has the same cache. -/
  | shared {s t : EngineState} (h : Reached known s) (hcache : t.cache = s.cache) : Reached known t

/-- An answer tells of something exactly if it refuses the data. -/
structure Answer.Coherent (answer : Answer) : Prop where
  /-- Data is refused exactly if something is told of it. -/
  rejected : answer.isAccepted = false ↔ ∃ first rest, answer = .rejected (first :: rest)
  /-- Data is accepted exactly if nothing is told of it. -/
  accepted : answer.isAccepted = true ↔ answer.details = []

/-- A call that validates by itself: by fields of a side, or a value by a definition. -/
def EngineCall.IsSingle : EngineCall → Prop
  | .ofSide .. => True
  | .ofValue .. => True
  | _ => False

/-- What goes wrong in an engine leaves no trace. -/
structure EngineParts.LeavesNoTrace (p : EngineParts) (known : ValidatorSource → Prop)
    (s : EngineState) : Prop where
  /-- A fault of the schema leaves the cache and what was counted. -/
  fault : ∀ call : EngineCall, call.IsSingle → (∀ source ∈ call.sources, known source) →
    ∀ fault, (p.run s call).2 = some (.error fault) →
      (p.run s call).1.cache = s.cache ∧ (p.run s call).1.tally = s.tally
  /-- A failure of the engine leaves what was counted. -/
  failure : ∀ call : EngineCall, call.IsSingle → ∀ r, (p.run s call).2 = some (.ok r) →
    r.answer.TellsFailure → (p.run s call).1.tally = s.tally
  /-- A result tells of something exactly if it refuses the data. -/
  coherent : ∀ call r, (p.run s call).2 = some (.ok r) → r.answer.Coherent

/-- Only a refusal that tells of nothing is not coherent. -/
theorem Answer.coherent_of_ne {answer : Answer} (h : answer ≠ .rejected []) : answer.Coherent := by
  rcases answer with output | _ | ⟨first, rest⟩
  · exact ⟨by simp [isAccepted], by simp [isAccepted, details]⟩
  · exact absurd rfl h
  · exact ⟨by simp [isAccepted], by simp [isAccepted, details]⟩

/-- A validator that refuses data tells of something. -/
theorem Validator.answerOf_ne {validator : Validator} {data : Value} {verdict : Verdict}
    (h : validator.validate data = .ok verdict) :
    EngineParts.answerOf verdict ≠ .rejected [] := by
  have hrecord (entries : List (String × Value))
      (h : validator.validateRecord entries = .ok verdict) :
      EngineParts.answerOf verdict ≠ .rejected [] := by
    unfold validateRecord at h
    split at h
    · cases h
    · dsimp only at h
      split at h
      · cases h
        simp [EngineParts.answerOf]
      · next hissues =>
        cases h
        simpa [EngineParts.answerOf] using hissues
  unfold validate at h
  split at h
  · exact hrecord [] h
  · exact hrecord _ h
  · cases h
    simp [EngineParts.answerOf]

/-- A call that validates by itself makes one request. -/
theorem EngineCall.IsSingle.exists_request {call : EngineCall} (h : call.IsSingle) :
    ∃ request : SideRequest, request.source ∈ call.sources ∧
      ∀ (p : EngineParts) (s : EngineState), p.run s call = (p.respond s request).map id some := by
  cases call with
  | ofSide side data fields options => exact ⟨⟨⟨side, fields, options⟩, data⟩, by simp [sources],
      fun _ _ => rfl⟩
  | ofValue d name value options =>
    exact ⟨valueRequest d name value options, by simp [sources], fun _ _ => rfl⟩
  | _ => exact absurd h id

namespace EngineParts

variable {known : ValidatorSource → Prop} {p : EngineParts} {s t : EngineState}

/-- The cache of an engine that has validated by known fields holds what is made of them. -/
theorem madeOf_of_reached (h : s.Reached known) : s.cache.MadeOf known := by
  induction h with
  | start hcache =>
    rw [hcache]
    exact .empty
  | use _ p use hs ih =>
    rw [use_eq]
    exact madeOf_run ih use.asCall hs
  | shared _ hcache ih =>
    rw [hcache]
    exact ih

/-- Looking for a validator counts nothing. -/
theorem tally_validatorFor (p : EngineParts) (s : EngineState) (side : Side) (fields : FieldMap)
    (options : Options) : (p.validatorFor s side fields options).1.tally = s.tally := by
  unfold validatorFor
  split
  · rfl
  · dsimp only
    split
    · rfl
    · split
      · rfl
      · split <;> rfl

/-- Under the key of a schema that is at fault nothing is held, so looking for its validator changes
nothing. -/
theorem eq_of_validatorFor_fault (hk : KeysDiffer known) (h : s.cache.MadeOf known)
    {source : ValidatorSource} (hs : known source) {fault : SchemaFault}
    (hf : p.validatorFor s source.side source.fields source.options = (t, .error (.schema fault))) :
    t = s := by
  have hkey : ValidatorKey.of source.side.name source.fields source.options = source.key := rfl
  have hcompile : Validator.compile source.options source.side.name source.fields =
      source.compile := rfl
  unfold validatorFor at hf
  rw [hkey, hcompile] at hf
  cases hworks : p.cacheFailure with
  | some message =>
    rw [hworks] at hf
    cases hf
  | none =>
    rw [hworks] at hf
    dsimp only at hf
    rcases Cache.get_cases p.policy s.cache s.clock source.key with
      ⟨-, hget⟩ | ⟨e, hfound, -, hget⟩ | ⟨e, -, -, hget⟩
    · -- nothing is held
      rw [hget] at hf
      cases hv : source.compile with
      | error e =>
        rw [hv] at hf
        cases hf
        rfl
      | ok validator =>
        rw [hv] at hf
        dsimp only at hf
        split at hf <;> cases hf
    · -- an expired entry would be that of the same schema, which was made ready then
      obtain ⟨hm, hsame⟩ := Cache.mem_of_lookup? hfound
      obtain ⟨other, hother, hotherKey, hv⟩ := h e hm
      obtain rfl : other = source := hk other source hother hs (hotherKey.trans hsame)
      rw [hget, hv] at hf
      dsimp only at hf
      split at hf <;> cases hf
    · rw [hget] at hf
      cases hf

/-- A fault of the schema leaves the cache and what was counted. -/
theorem unchanged_of_fault (hk : KeysDiffer known) (h : s.cache.MadeOf known)
    {request : SideRequest} (hs : known request.source) {fault : SchemaFault}
    (hr : (p.respond s request).2 = .error fault) :
    (p.respond s request).1.cache = s.cache ∧ (p.respond s request).1.tally = s.tally := by
  have hstart : s.startTimer.2.cache.MadeOf known := h
  unfold respond validate at hr ⊢
  dsimp only at hr ⊢
  cases hf : p.validatorFor s.startTimer.2 request.source.side request.source.fields
    request.source.options with | mk t outcome =>
  rw [hf] at hr
  rcases outcome with (fault | failure) | ⟨validator, atHand⟩
  · obtain rfl := eq_of_validatorFor_fault hk hstart hs hf
    exact ⟨rfl, rfl⟩
  · cases hr
  · dsimp only at hr
    split at hr <;> cases hr

/-- A validation that tells of a failure of the engine is not counted. -/
theorem tally_of_tellsFailure {request : SideRequest} {r : Result}
    (hr : (p.respond s request).2 = .ok r) (htells : r.answer.TellsFailure) :
    (p.respond s request).1.tally = s.tally := by
  have htally := p.tally_validatorFor s.startTimer.2 request.source.side request.source.fields
    request.source.options
  unfold respond validate at hr ⊢
  dsimp only at hr ⊢
  generalize p.validatorFor s.startTimer.2 request.source.side request.source.fields
    request.source.options = found at hr htally ⊢
  obtain ⟨t, (fault | failure) | ⟨validator, atHand⟩⟩ := found
  · cases hr
  · exact htally
  · dsimp only at hr htally ⊢
    cases hv : validator.validate request.data with
    | error failure => exact htally
    | ok verdict =>
      rw [hv] at hr
      cases hr
      exact absurd htells (ValidatorSource.not_tellsFailure_answerOf hv)

/-- A validation that refuses the data tells of something. -/
theorem validate_ne {side : Side} {data : Value} {fields : FieldMap} {options : Options}
    {r : Result} (hr : (p.validate s side data fields options).2 = .ok r) :
    r.answer ≠ .rejected [] := by
  unfold validate at hr
  dsimp only at hr
  split at hr
  · cases hr
  · cases hr
    simp
  · split at hr
    · cases hr
      simp
    · next hverdict =>
      cases hr
      exact Validator.answerOf_ne hverdict

/-- Rules that refuse the data tell of something. -/
theorem rulesAnswer_ne (p : EngineParts) (rules : List Rule)
    (input config : List (String × Value)) : p.rulesAnswer rules input config ≠ .rejected [] := by
  unfold rulesAnswer
  dsimp only
  split
  · simp
  · split
    · simp
    · next hdetails => simpa using hdetails

/-- A validation of a tool that refuses the data tells of something. -/
theorem validateTool_ne {data : Value} {schema : Schema} {options : Options} {r : Result}
    (hr : (p.validateTool s data schema options).2 = .ok r) : r.answer ≠ .rejected [] := by
  cases hinput : p.respond s.startTimer.2 (EngineCall.toolRequest data schema options .input) with
  | mk t first =>
  cases hconfig : p.respond t (EngineCall.toolRequest data schema options .config) with
  | mk u second =>
  have hfirst (r : Result) (h : first = .ok r) : r.answer ≠ .rejected [] :=
    validate_ne ((congrArg Prod.snd hinput).trans h)
  have hsecond (r : Result) (h : second = .ok r) : r.answer ≠ .rejected [] :=
    validate_ne ((congrArg Prod.snd hconfig).trans h)
  have hanswer := p.answer_validateTool s data schema options hinput hconfig
  rw [hr] at hanswer
  -- the answer is that of the phase that ended the validation, or that of the rules
  rcases first with fault | ⟨output | details, timing⟩
  · cases hanswer
  · rcases second with fault | ⟨others | details, timing⟩
    · cases hanswer
    · exact ne_of_eq_of_ne (Except.ok.inj hanswer) (p.rulesAnswer_ne schema.rules output others)
    · exact ne_of_eq_of_ne (Except.ok.inj hanswer) (hsecond _ rfl)
  · exact ne_of_eq_of_ne (Except.ok.inj hanswer) (hfirst _ rfl)

/-- A call that refuses the data tells of something. -/
theorem run_ne {call : EngineCall} {r : Result} (hr : (p.run s call).2 = some (.ok r)) :
    r.answer ≠ .rejected [] := by
  cases call with
  | ofSide side data fields options => exact validate_ne (Option.some.inj hr)
  | ofTool data schema options => exact validateTool_ne (Option.some.inj hr)
  | ofField schema side name value =>
    have hr : (p.testField s schema side name value).2 = .ok r := Option.some.inj hr
    unfold testField at hr
    split at hr
    · cases hr
      simp
    · exact validate_ne hr
  | ofValue d name value options => exact validate_ne (Option.some.inj hr)
  | reset => cases hr
  | advance seconds => cases hr

/-- What goes wrong leaves no trace in an engine that has validated by fields with different keys.
-/
theorem leavesNoTrace_of_keysDiffer (hk : KeysDiffer known) (h : s.Reached known)
    (p : EngineParts) : p.LeavesNoTrace known s where
  fault call hcall hs fault hr := by
    obtain ⟨request, hm, hrun⟩ := hcall.exists_request
    rw [hrun] at hr ⊢
    exact unchanged_of_fault hk (madeOf_of_reached h) (hs _ hm) (Option.some.inj hr)
  failure call hcall r hr htells := by
    obtain ⟨request, -, hrun⟩ := hcall.exists_request
    rw [hrun] at hr ⊢
    exact tally_of_tellsFailure (Option.some.inj hr) htells
  coherent _ _ hr := Answer.coherent_of_ne (run_ne hr)

/-- A call by fields that are well formed. -/
def cityCall : EngineCall :=
  .ofSide .input (.record [("city", .text "Oslo")]) [("city", .ofKind .string)] .standard

/-- A call by an enumeration without values. -/
def valuelessCall : EngineCall := .ofSide .config .null [("mode", .ofKind .enumeration)] .standard

/-- The state of an engine in whose cache one entry stands that has expired since. -/
def expiredState : EngineState :=
  standard.use (standard.use (.initial (.zero false)) (.ofCall cityCall))
    (.ofCall (.advance (Binary64.ofInt 1000)))

/-- The fault of an enumeration without values leaves the expired entry where it is. -/
theorem leavesNoTrace_expiredState :
    KeysDiffer (· ∈ [cityCall, valuelessCall].flatMap EngineCall.sources) ∧
      expiredState.Reached (· ∈ [cityCall, valuelessCall].flatMap EngineCall.sources) ∧
      (∃ fault, (standard.run expiredState valuelessCall).2 = some (.error fault)) ∧
      (standard.run expiredState valuelessCall).1.cache = expiredState.cache ∧
      (standard.run expiredState valuelessCall).1.tally = expiredState.tally ∧
      expiredState.cache.size = 1 := by
  have hk : KeysDiffer (· ∈ [cityCall, valuelessCall].flatMap EngineCall.sources) := by
    intro a b ha hb hkey
    have hname : a.key.name = b.key.name := congrArg ValidatorKey.name hkey
    simp only [cityCall, valuelessCall, EngineCall.sources, List.flatMap_cons, List.flatMap_nil,
      List.append_nil, List.cons_append, List.nil_append, List.mem_cons, List.not_mem_nil,
      or_false] at ha hb
    rcases ha with rfl | rfl <;> rcases hb with rfl | rfl <;>
      first | rfl | exact absurd hname (by decide)
  have hreached :
      expiredState.Reached (· ∈ [cityCall, valuelessCall].flatMap EngineCall.sources) :=
    .use (.use (.start rfl) standard (.ofCall cityCall)
      fun source hm => List.mem_flatMap.mpr ⟨cityCall, by simp, hm⟩) standard
      (.ofCall (.advance (Binary64.ofInt 1000))) fun _ hm => by cases hm
  have hfails :
      (standard.run expiredState valuelessCall).2.map (·.toOption.isNone) = some true := by
    decide +kernel
  obtain ⟨fault, hfault⟩ :
      ∃ fault, (standard.run expiredState valuelessCall).2 = some (.error fault) := by
    rcases h : (standard.run expiredState valuelessCall).2 with _ | fault | r
    · simp [h] at hfails
    · exact ⟨fault, rfl⟩
    · simp [h, Except.toOption] at hfails
  obtain ⟨hcache, htally⟩ := (leavesNoTrace_of_keysDiffer hk hreached standard).fault valuelessCall
    trivial (fun source hm => List.mem_flatMap.mpr ⟨valuelessCall, by simp, hm⟩) fault hfault
  exact ⟨hk, hreached, ⟨fault, hfault⟩, hcache, htally, by decide +kernel⟩

end EngineParts

end Intake
