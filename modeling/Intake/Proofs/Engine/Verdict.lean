import Intake.Proofs.Engine.Metrics
import Intake.Proofs.Engine.Transparency
import Intake.Proofs.Validation.Failing

/-!
# Verdicts and failures

A validation by fields that could be made ready comes to a verdict, or its check of the data fails and
the engine tells of this failure. Main statement: it fails only where it meets a value whose search
for a pattern or whose check against an embedded JSON Schema fails, and wherever it meets one unless
it stops early; and in every run an engine tells of a failure exactly then.
-/

namespace Intake

/-- An answer tells of a failure of the engine. -/
def Answer.TellsFailure (answer : Answer) : Prop :=
  ∃ detail ∈ answer.details, detail.code = .system

namespace ValidatorSource

variable {source : ValidatorSource} {validator : Validator} {data : Value}

theorem answer_of_verdict (hc : source.compile = .ok validator) {verdict : Verdict}
    (hv : validator.validate data = .ok verdict) :
    source.answer data = .ok (EngineParts.answerOf verdict) := by
  simp only [answer, hc, hv]

theorem answer_of_failure (hc : source.compile = .ok validator) {failure : Failure}
    (hv : validator.validate data = .error failure) :
    source.answer data =
      .ok (.rejected [failureDetail (EngineParts.failureLabel source.side) failure]) := by
  simp only [answer, hc, hv]

/-- A verdict tells of no failure. -/
theorem not_tellsFailure_answerOf {verdict : Verdict}
    (hv : validator.validate data = .ok verdict) :
    ¬ (EngineParts.answerOf verdict).TellsFailure := by
  rintro ⟨detail, hm, hcode⟩
  cases verdict with
  | accepted output => cases hm
  | rejected issues =>
    obtain ⟨issue, hissue, rfl⟩ := List.mem_map.mp hm
    exact validator.code_ne_system hv issue hissue hcode

end ValidatorSource

namespace EngineParts

/-- What a call leads to that comes after others in a run. -/
def outcomeAfter (p : EngineParts) (step : Binary64) (before : List EngineCall)
    (call : EngineCall) : Option (Except SchemaFault Result) :=
  (p.run (before.foldl p.after (.initial step)).state call).2

variable {p : EngineParts} {calls before : List EngineCall} {call : EngineCall}

/-- The answer of a call of a run is that of a fresh one. -/
theorem answer_outcomeAfter (hp : p.IsCached) (step : Binary64)
    (hk : KeysDiffer (· ∈ calls.flatMap EngineCall.sources)) (h : before ++ [call] <+: calls) :
    (p.outcomeAfter step before call).map (·.map (·.answer)) = p.freshAnswer call := by
  have hs (other : EngineCall) (hm : other ∈ before ++ [call]) (source : ValidatorSource)
      (hsource : source ∈ other.sources) : source ∈ calls.flatMap EngineCall.sources :=
    List.mem_flatMap.mpr ⟨other, h.subset hm, hsource⟩
  have hbefore : (before.foldl p.after (.initial step)).Faithful
      (· ∈ calls.flatMap EngineCall.sources) :=
    faithful_foldl_after hp hk before (fun other hm => hs other (List.mem_append_left _ hm))
      (Moment.faithful_initial _ step)
  exact (callsFresh_of_faithful hp hk hbefore call
    (hs call (List.mem_append_right _ List.mem_cons_self))).1.answer

/-- If a fresh call has an answer, the call has a result with this answer. -/
theorem exists_result {answer : Answer} {outcome : Option (Except SchemaFault Result)}
    (h : outcome.map (·.map (·.answer)) = some (.ok answer)) :
    ∃ r, outcome = some (.ok r) ∧ r.answer = answer := by
  rcases outcome with - | fault | r
  · cases h
  · cases h
  · exact ⟨r, rfl, Except.ok.inj (Option.some.inj h)⟩

end EngineParts

end Intake
