import Intake.Proofs.Engine.Atomicity

/-!
# Demanded outputs

Those who ask for an output itself are answered by the same validations as all others. Main
statement: in every state of an engine they get the output exactly if the validation accepts the
data with it, and they leave the engine as the validation does; a fault of the schema is handed on;
where a configuration is refused and something required is not there, they are told the keys of all
that is missing, and otherwise of the first detail and of all details. A refusal always has a first
detail.
-/

namespace Intake

/-- A refusal tells of details: of the first one by itself, and of all in order. -/
structure Refusal.Tells (refusal : Refusal) (details : List Detail) : Prop where
  /-- The code and the path are those of the first detail. -/
  first : ∃ first rest, details = first :: rest ∧ refusal.code = first.code ∧
    refusal.path = first.path.dotted
  /-- All details are told, in order. -/
  all : ∃ summary, refusal = .invalid summary details

/-- Someone who asks for an output is answered as a validation is. -/
structure DemandStep.Follows (demanded : DemandStep) (step : EngineStep) (ofConfig : Bool) :
    Prop where
  /-- The engine is in the same state afterwards. -/
  state : demanded.1 = step.1
  /-- A fault of the schema is handed on. -/
  fault : ∀ fault, demanded.2 = .error fault ↔ step.2 = .error fault
  /-- An output is handed out exactly if the data is accepted with it. -/
  output : ∀ output, demanded.2 = .ok (.ok output) ↔
    ∃ r, step.2 = .ok r ∧ r.answer = .accepted output
  /-- Keys are told exactly if a configuration is refused because something required is not there,
  and they are the paths of all that is missing, in order. -/
  missing : ∀ keys, demanded.2 = .ok (.error (.missingKeys keys)) ↔
    ofConfig = true ∧ ∃ r details, step.2 = .ok r ∧ r.answer = .rejected details ∧
      (∃ detail ∈ details, detail.code = .required) ∧
      keys = details.filterMap fun detail =>
        if detail.code = .required then some detail.path.dotted else none
  /-- Of all other refusals the details are told. -/
  invalid : ∀ r details, step.2 = .ok r → r.answer = .rejected details →
    (ofConfig = true → ∀ detail ∈ details, detail.code ≠ .required) →
      ∃ refusal, demanded.2 = .ok (.error refusal) ∧ refusal.Tells details

/-- The paths of what is missing, one detail after the other. -/
theorem missingPaths_eq_filterMap (details : List Detail) :
    missingPaths details = details.filterMap fun detail =>
      if detail.code = .required then some detail.path.dotted else none := by
  unfold missingPaths
  induction details with
  | nil => rfl
  | cons detail rest ih => by_cases h : detail.code = .required <;> simp [h, ih]

theorem missingPaths_ne_nil_iff {details : List Detail} :
    missingPaths details ≠ [] ↔ ∃ detail ∈ details, detail.code = .required := by
  simp [missingPaths]

theorem Refusal.tells_invalid (summary : String) {details : List Detail} (h : details ≠ []) :
    (Refusal.invalid summary details).Tells details := by
  obtain ⟨first, rest, rfl⟩ := List.exists_cons_of_ne_nil h
  exact ⟨⟨first, rest, rfl, rfl, rfl⟩, summary, rfl⟩

/-- A way in which an answer is handed on to one who asks for an output: the details of a refusal
are handed on, or else the keys that are missing from a configuration. -/
structure Answer.HandsOn (ask : Answer → Except Refusal (List (String × Value))) (ofConfig : Bool) :
    Prop where
  /-- The output of accepted data is handed on. -/
  accepted : ∀ output, ask (.accepted output) = .ok output
  /-- If keys are missing, they are told. -/
  missing : ∀ details, (ofConfig = true ∧ missingPaths details ≠ []) →
    ask (.rejected details) = .error (.missingKeys (missingPaths details))
  /-- Otherwise the details are told. -/
  invalid : ∀ details, ¬ (ofConfig = true ∧ missingPaths details ≠ []) →
    ∃ summary, ask (.rejected details) = .error (.invalid summary details)

namespace Answer

variable {ask : Answer → Except Refusal (List (String × Value))} {ofConfig : Bool} {answer : Answer}

theorem handsOn_demand (summary : String) : HandsOn (demand summary) false where
  accepted _ := rfl
  missing _ h := nomatch h.1
  invalid _ _ := ⟨summary, rfl⟩

theorem handsOn_demandConfig (summary : String) : HandsOn (demandConfig summary) true where
  accepted _ := rfl
  missing details h := by
    unfold demandConfig
    cases hkeys : missingPaths details with
    | nil => exact absurd hkeys h.2
    | cons key rest => simp [hkeys]
  invalid details h := by
    have hkeys : missingPaths details = [] := not_not.mp fun hne => h ⟨rfl, hne⟩
    exact ⟨summary, by simp [demandConfig, hkeys]⟩

/-- An output is handed on exactly if the data is accepted with it. -/
theorem HandsOn.eq_ok_iff (h : HandsOn ask ofConfig) {output : List (String × Value)} :
    ask answer = .ok output ↔ answer = .accepted output := by
  cases answer with
  | accepted other => simp [h.accepted]
  | rejected details =>
    by_cases hmissing : ofConfig = true ∧ missingPaths details ≠ []
    · simp [h.missing details hmissing]
    · obtain ⟨summary, hinvalid⟩ := h.invalid details hmissing
      simp [hinvalid]

/-- Keys are told exactly if they are missing from a configuration. -/
theorem HandsOn.eq_missingKeys_iff (h : HandsOn ask ofConfig) {keys : List String} :
    ask answer = .error (.missingKeys keys) ↔ ∃ details, answer = .rejected details ∧
      (ofConfig = true ∧ missingPaths details ≠ []) ∧ keys = missingPaths details := by
  cases answer with
  | accepted output => simp [h.accepted]
  | rejected details =>
    by_cases hmissing : ofConfig = true ∧ missingPaths details ≠ []
    · rw [h.missing details hmissing]
      simp [hmissing, eq_comm]
    · obtain ⟨summary, hinvalid⟩ := h.invalid details hmissing
      rw [hinvalid]
      refine iff_of_false nofun ?_
      rintro ⟨_, hdetails, htold, -⟩
      cases hdetails
      exact hmissing htold

end Answer

/-- One who asks for an output is answered as a validation is that tells of all it refuses. -/
theorem DemandStep.follows_of_handsOn {ask : Answer → Except Refusal (List (String × Value))}
    {ofConfig : Bool} (h : Answer.HandsOn ask ofConfig) {step : EngineStep}
    (hne : ∀ r, step.2 = .ok r → r.answer ≠ .rejected []) :
    Follows (step.1, step.2.map fun r => ask r.answer) step ofConfig := by
  obtain ⟨s, fault | r⟩ := step
  · exact {
      state := rfl
      fault := fun other => by simp [Except.map]
      output := fun output => by simp [Except.map]
      missing := fun keys => by simp [Except.map]
      invalid := fun r details hr => by cases hr }
  · refine ⟨rfl, fun fault => by simp [Except.map], fun output => ?_, fun keys => ?_, ?_⟩
    · simp [Except.map, h.eq_ok_iff]
    · simp only [Except.map, Except.ok.injEq, h.eq_missingKeys_iff, missingPaths_ne_nil_iff,
        ← missingPaths_eq_filterMap]
      constructor
      · rintro ⟨details, hanswer, ⟨hconfig, hrequired⟩, hkeys⟩
        exact ⟨hconfig, r, details, rfl, hanswer, hrequired, hkeys⟩
      · rintro ⟨hconfig, _, details, rfl, hanswer, hrequired, hkeys⟩
        exact ⟨details, hanswer, ⟨hconfig, hrequired⟩, hkeys⟩
    · rintro _ details heq hrejected hkeys
      cases heq
      have hother : ¬ (ofConfig = true ∧ missingPaths details ≠ []) := by
        rintro ⟨hconfig, hmissing⟩
        obtain ⟨detail, hm, hrequired⟩ := missingPaths_ne_nil_iff.mp hmissing
        exact hkeys hconfig detail hm hrequired
      obtain ⟨summary, hinvalid⟩ := h.invalid details hother
      refine ⟨_, ?_, Refusal.tells_invalid summary ?_⟩
      · rw [Except.map, hrejected, hinvalid]
      · rintro rfl
        exact hne r rfl hrejected

namespace EngineParts

/-- In a state of an engine those who ask for outputs are answered as validations are. -/
structure AnswersDemands (p : EngineParts) (s : EngineState) : Prop where
  /-- The output of an input is asked for. -/
  input : ∀ data fields options, (p.demandInput s data fields options).Follows
    (p.validate s .input data fields options) false
  /-- The output of a configuration is asked for. -/
  config : ∀ data fields options, (p.demandConfig s data fields options).Follows
    (p.validate s .config data fields options) true
  /-- The output of all data of a tool is asked for. -/
  tool : ∀ data schema options, (p.demandTool s data schema options).Follows
    (p.validateTool s data schema options) false
  /-- After any uses the engine is where the calls that they make would have led it. -/
  run : ∀ uses : List EngineUse, uses.foldl p.use s =
    (uses.map EngineUse.asCall).foldl (fun s call => (p.run s call).1) s

/-- In every state of an engine those who ask for outputs are answered as validations are. -/
theorem answersDemands (p : EngineParts) (s : EngineState) : p.AnswersDemands s where
  input data fields options :=
    DemandStep.follows_of_handsOn (Answer.handsOn_demand _) fun _ => validate_ne
  config data fields options :=
    DemandStep.follows_of_handsOn (Answer.handsOn_demandConfig _) fun _ => validate_ne
  tool data schema options :=
    DemandStep.follows_of_handsOn (Answer.handsOn_demand _) fun _ => validateTool_ne
  run uses := by
    rw [List.foldl_map]
    exact congrArg (uses.foldl · s) (funext fun s => funext fun use => p.use_eq s use)

-- a key is missing and a number is none: only the key is told
example : (match (standard.demandConfig (.initial (.zero false)) (.record [("port", .text "x")])
    [("port", .ofKind .number), ("key", .interfaceKey none)] .standard).2 with
      | .ok (.error (.missingKeys keys)) => keys
      | _ => []) = ["key"] := by
  decide +kernel

end EngineParts

end Intake
