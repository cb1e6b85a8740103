import Intake.Engine.Key
import Intake.Proofs.Field.Footprint
import Intake.Proofs.Validation.Fallback

/-!
# Chains of steps

A draft is made by a chain of steps, each of which is about one attribute of the definition or about
one of its rules. Main statement: whatever the draft starts with, only the last step about each
target counts. So steps about different targets may change places, and a step that a later one
overrides may be left out: the same definition is made, or the same faults are found. A step that
declares a value for absent ones is about this value; that it makes the field optional is settled
when the draft is built, wherever it stands among the steps that say whether the field is required.
-/

namespace Intake

/-- What a step is about: an attribute of the definition, or one of its rules. -/
inductive DraftTarget where
  /-- An attribute, by its plain name. -/
  | own (name : String)
  /-- A rule of a configuration field, by its plain name. -/
  | rule (name : String)
  deriving DecidableEq

namespace DraftStep

/-- What a step is about. A step that declares a value for absent ones makes the field optional as
well, but it is not about that. -/
def target : DraftStep → DraftTarget
  | .required | .optional => .own "required"
  | .description _ => .own "description"
  | .fallback _ => .own "default"
  | .sample _ => .own "example"
  | .sensitive => .own "sensitive"
  | .sanitize => .own "sanitize"
  | .transform _ => .own "transform"
  | .minLength _ => .own "min_length"
  | .maxLength _ => .own "max_length"
  | .pattern _ => .own "pattern"
  | .format _ => .own "format"
  | .minimum _ => .own "min"
  | .maximum _ => .own "max"
  | .integer => .own "integer"
  | .precision _ => .own "precision"
  | .labels _ => .own "labels"
  | .minItems _ => .own "min_items"
  | .maxItems _ => .own "max_items"
  | .unique => .own "unique_items"
  | .requiredProperties _ => .own "required_properties"
  | .additionalProperties _ => .own "additional_properties"
  | .minDate _ => .own "min_date"
  | .maxDate _ => .own "max_date"
  | .timezone _ => .own "timezone"
  | .mimeTypes _ => .own "allowed_mime_types"
  | .maxSize _ => .own "max_file_size"
  | .secret => .own "secret"
  | .envVar _ => .own "env_var"
  | .category _ => .own "category"
  | .allowRuntimeOverride => .own "allow_runtime_override"
  | .errorMessage _ => .rule "error_message"
  | .rulePattern _ => .rule "pattern"
  | .ruleMinimum _ => .rule "min"
  | .ruleMaximum _ => .rule "max"
  | .protocols _ => .rule "allowed_protocols"
  | .jsonSchema _ => .rule "json_schema"

/-- The value that a step gives to what it is about, unless it cannot be taken. -/
def given : DraftStep → Except DraftFault Value
  | .required | .sensitive | .sanitize | .integer | .unique | .secret | .allowRuntimeOverride =>
    .ok (.bool true)
  | .optional => .ok (.bool false)
  | .transform name => Draft.member Transform.ofName? "Transform" name
  | .format name => Draft.member TextFormat.ofName? "StringFormat" name
  | .timezone name => Draft.member TimezoneRule.ofName? "TimezoneRequirement" name
  | .labels values | .requiredProperties values | .mimeTypes values | .protocols values =>
    Draft.itemsOf values
  | .minDate bound | .maxDate bound => .ok (Draft.boundText bound)
  | .description value | .fallback value | .sample value | .minLength value | .maxLength value
  | .pattern value | .minimum value | .maximum value | .precision value | .minItems value
  | .maxItems value | .additionalProperties value | .maxSize value | .envVar value
  | .category value | .errorMessage value | .rulePattern value | .ruleMinimum value
  | .ruleMaximum value | .jsonSchema value => .ok value

/-- No step is about the rules as a whole. -/
theorem target_ne_validation (step : DraftStep) : step.target ≠ .own "validation" := by
  cases step <;> simp [target]

/-- The steps about the value for absent ones declare one. -/
theorem target_eq_default_iff {step : DraftStep} :
    step.target = .own "default" ↔ ∃ value, step = .fallback value := by
  cases step with
  | fallback value => exact iff_of_true rfl ⟨value, rfl⟩
  | _ => simp [target]

variable {target : DraftTarget} {steps others : List DraftStep} {step : DraftStep}

/-- The last of the steps that are about a target. -/
def lastAbout (target : DraftTarget) (steps : List DraftStep) : Option DraftStep :=
  (steps.filter fun step => step.target = target).getLast?

theorem lastAbout_concat :
    lastAbout target (steps ++ [step]) =
      if step.target = target then some step else lastAbout target steps := by
  unfold lastAbout
  rw [List.filter_append]
  split
  · next h => simp [h]
  · next h => simp [h]

theorem lastAbout_eq_none_iff :
    lastAbout target steps = none ↔ ∀ step ∈ steps, step.target ≠ target := by
  simp [lastAbout]

theorem mem_of_lastAbout (h : lastAbout target steps = some step) :
    step ∈ steps ∧ step.target = target := by
  simpa using List.mem_of_getLast? h

theorem lastAbout_append :
    lastAbout target (steps ++ others) = (lastAbout target others).or (lastAbout target steps) := by
  rw [lastAbout, List.filter_append, List.getLast?_append]
  rfl

/-- A step does not count if a later one is about the same. -/
theorem lastAbout_of_overridden {before between after : List DraftStep} {again : DraftStep}
    (h : again.target = step.target) (target : DraftTarget) :
    lastAbout target (before ++ step :: (between ++ again :: after)) =
      lastAbout target (before ++ (between ++ again :: after)) := by
  have hlater : step.target = target → lastAbout target (between ++ again :: after) ≠ none :=
    fun htarget hnone => lastAbout_eq_none_iff.mp hnone again (by simp) (h.trans htarget)
  generalize between ++ again :: after = later at hlater ⊢
  rw [← List.singleton_append, lastAbout_append, lastAbout_append, lastAbout_append]
  by_cases htarget : step.target = target
  · obtain ⟨last, hlast⟩ := Option.ne_none_iff_exists'.mp (hlater htarget)
    rw [hlast, Option.some_or, Option.some_or]
  · have hfirst : lastAbout target [step] = none :=
      lastAbout_eq_none_iff.mpr (by simpa using htarget)
    rw [hfirst, Option.or_none]

/-- The same steps are the last ones about each target. -/
def EndAlike (steps others : List DraftStep) : Prop :=
  ∀ target, lastAbout target steps = lastAbout target others

theorem EndAlike.symm (h : EndAlike steps others) : EndAlike others steps :=
  fun target => (h target).symm

theorem EndAlike.forall_ne (h : EndAlike steps others) {target : DraftTarget}
    (hne : ∀ step ∈ steps, step.target ≠ target) : ∀ step ∈ others, step.target ≠ target :=
  lastAbout_eq_none_iff.mp ((h target).symm.trans (lastAbout_eq_none_iff.mpr hne))

/-- The same steps in another order, those about the same target among themselves in the same. -/
structure Reorders (steps others : List DraftStep) : Prop where
  /-- The steps are the same. -/
  perm : steps.Perm others
  /-- Steps about one target keep their order. -/
  order : ∀ target, (steps.filter fun step => step.target = target) =
    others.filter fun step => step.target = target

theorem Reorders.endAlike (h : Reorders steps others) : EndAlike steps others := fun target => by
  rw [lastAbout, lastAbout, h.order target]

/-- Two steps that follow one another change places if they are about different targets. -/
theorem reorders_swap {a b : DraftStep} (h : a.target ≠ b.target) (before after : List DraftStep) :
    Reorders (before ++ a :: b :: after) (before ++ b :: a :: after) where
  perm := (List.Perm.swap b a after).append_left before
  order target := by
    rw [List.filter_append, List.filter_append]
    congr 1
    by_cases ha : a.target = target
    · have hb : b.target ≠ target := fun hb => h (ha.trans hb.symm)
      simp [ha, hb]
    · simp [List.filter_cons, ha]

theorem Reorders.trans {more : List DraftStep} (h : Reorders steps others)
    (hmore : Reorders others more) : Reorders steps more :=
  ⟨h.perm.trans hmore.perm, fun target => (h.order target).trans (hmore.order target)⟩

end DraftStep

namespace Draft

variable {draft taken reached : Draft} {steps others : List DraftStep} {step : DraftStep}
  {target : DraftTarget} {v : Value}

/-- A draft in which a value was given to a target. -/
def put (draft : Draft) : DraftTarget → Value → Draft
  | .own name, v => draft.set name v
  | .rule name, v => draft.setRule name v

/-- The value that a draft has for a target. -/
def value? (draft : Draft) : DraftTarget → Option Value
  | .own name => draft.attributes.lookup name
  | .rule name => draft.rules.lookup name

theorem rules_set_of_ne {name : String} (hne : name ≠ "validation") :
    (draft.set name v).rules = draft.rules := by
  rw [rules, rules, lookup_set_of_ne (Ne.symm hne)]

theorem rules_setRule (draft : Draft) (name : String) (v : Value) :
    (draft.setRule name v).rules = insertEntry name v draft.rules := by
  rw [rules, setRule, lookup_set]

/-- A target has the value that was given to it, and every other has what it had. -/
theorem value?_put {other : DraftTarget} (hother : other ≠ .own "validation")
    (htarget : target ≠ .own "validation") :
    (draft.put target v).value? other = if target = other then some v else draft.value? other := by
  split
  · next heq =>
    subst heq
    cases target with
    | own name => exact draft.lookup_set name v
    | rule name =>
      rw [put, value?, rules_setRule]
      exact lookup_insertEntry name v draft.rules
  · next hne =>
    cases target with
    | own name =>
      cases other with
      | own other => exact lookup_set_of_ne (by rintro rfl; exact hne rfl) v
      | rule other => rw [put, value?, value?, rules_set_of_ne (by rintro rfl; exact htarget rfl)]
    | rule name =>
      cases other with
      | own other => exact lookup_set_of_ne (by rintro rfl; exact hother rfl) _
      | rule other =>
        rw [put, value?, value?, rules_setRule]
        exact lookup_insertEntry_of_ne (by rintro rfl; exact hne rfl) v draft.rules

/-- A step gives its value to its target; a value for absent ones makes the field optional besides.
-/
theorem take_eq (draft : Draft) (step : DraftStep) :
    draft.take step = step.given.map fun v =>
      match step with
      | .fallback _ => (draft.put step.target v).set "required" (.bool false)
      | _ => draft.put step.target v := by
  cases step <;> rfl

/-- After a step its target has the value given to it, and every other has what it had; whether the
field is required is another matter if the step declares a value for absent ones. -/
theorem value?_take (h : draft.take step = .ok taken) (htarget : target ≠ .own "validation")
    (hrequired : target = .own "required" → step.target ≠ .own "default") :
    taken.value? target =
      if step.target = target then step.given.toOption else draft.value? target := by
  rw [take_eq] at h
  obtain ⟨v, hv, rfl⟩ := exists_of_map_eq_ok h
  rw [hv]
  cases step with
  | fallback value =>
    have hne : DraftTarget.own "required" ≠ target := fun heq => hrequired heq.symm rfl
    have hset : ((draft.put (.own "default") v).put (.own "required") (.bool false)).value? target =
        _ := value?_put htarget (by decide)
    rw [if_neg hne] at hset
    exact hset.trans (value?_put htarget (by decide))
  | _ => exact value?_put htarget (DraftStep.target_ne_validation _)

/-- Whether a step can be taken does not depend on the draft. -/
theorem exists_take_iff : (∃ taken, draft.take step = .ok taken) ↔ ∃ v, step.given = .ok v := by
  rw [take_eq]
  cases step.given with
  | error fault => simp [Except.map]
  | ok v => simp [Except.map]

theorem takeAll_concat :
    draft.takeAll (steps ++ [step]) = draft.takeAll steps >>= (·.take step) := by
  rw [takeAll, takeAll, List.foldlM_append]
  simp

/-- Steps can be taken if each of them can. -/
theorem exists_takeAll_iff :
    (∃ taken, draft.takeAll steps = .ok taken) ↔ ∀ step ∈ steps, ∃ v, step.given = .ok v := by
  induction steps using List.reverseRecOn with
  | nil => exact iff_of_true ⟨draft, rfl⟩ (by simp)
  | append_singleton steps step ih =>
    rw [List.forall_mem_append, ← ih, List.forall_mem_singleton, takeAll_concat]
    constructor
    · rintro ⟨taken, h⟩
      obtain ⟨reached, hreached, hstep⟩ := exists_of_bind_eq_ok h
      exact ⟨⟨reached, hreached⟩, exists_take_iff.mp ⟨taken, hstep⟩⟩
    · rintro ⟨⟨reached, hreached⟩, hstep⟩
      rw [hreached]
      exact exists_take_iff.mpr hstep

/-- After steps a target has the value that the last step about it gave, or else what it had. -/
theorem value?_takeAll (h : draft.takeAll steps = .ok taken) (htarget : target ≠ .own "validation")
    (hrequired : target = .own "required" → ∀ step ∈ steps, step.target ≠ .own "default") :
    taken.value? target =
      match DraftStep.lastAbout target steps with
      | some step => step.given.toOption
      | none => draft.value? target := by
  induction steps using List.reverseRecOn generalizing taken with
  | nil => cases h; rfl
  | append_singleton steps step ih =>
    rw [takeAll_concat] at h
    obtain ⟨reached, hreached, hstep⟩ := exists_of_bind_eq_ok h
    have hsteps := ih hreached fun heq other hm => hrequired heq other (List.mem_append_left _ hm)
    rw [value?_take hstep htarget fun heq => hrequired heq step (by simp),
      DraftStep.lastAbout_concat]
    split
    · rfl
    · exact hsteps

/-- The rules of a draft stand in a record. -/
def HoldsRules (draft : Draft) : Prop :=
  draft.attributes.lookup "validation" = some (.record draft.rules)

theorem holdsRules_setRule (draft : Draft) (name : String) (v : Value) :
    (draft.setRule name v).HoldsRules := by
  rw [HoldsRules, rules_setRule]
  exact lookup_set draft "validation" _

/-- A step about a rule makes a record of rules, and every other leaves what stands there. -/
theorem lookup_rules_take (h : draft.take step = .ok taken) :
    (∃ name, step.target = .rule name) ∧ taken.HoldsRules ∨
      (∀ name, step.target ≠ .rule name) ∧
        taken.attributes.lookup "validation" = draft.attributes.lookup "validation" := by
  rw [take_eq] at h
  obtain ⟨v, -, rfl⟩ := exists_of_map_eq_ok h
  cases step with
  | errorMessage | rulePattern | ruleMinimum | ruleMaximum | protocols | jsonSchema =>
    exact .inl ⟨⟨_, rfl⟩, holdsRules_setRule draft _ v⟩
  | fallback =>
    refine .inr ⟨nofun, ?_⟩
    exact (lookup_set_of_ne (by decide) _).trans (lookup_set_of_ne (by decide) v)
  | _ => exact .inr ⟨nofun, lookup_set_of_ne (by decide) v⟩

/-- After steps there is a record of rules if one of them is about a rule, and otherwise what stood
there before. -/
theorem lookup_rules_takeAll (h : draft.takeAll steps = .ok taken) :
    (∃ step ∈ steps, ∃ name, step.target = .rule name) ∧ taken.HoldsRules ∨
      (∀ step ∈ steps, ∀ name, step.target ≠ .rule name) ∧
        taken.attributes.lookup "validation" = draft.attributes.lookup "validation" := by
  induction steps using List.reverseRecOn generalizing taken with
  | nil => cases h; exact .inr ⟨by simp, rfl⟩
  | append_singleton steps step ih =>
    rw [takeAll_concat] at h
    obtain ⟨reached, hreached, hstep⟩ := exists_of_bind_eq_ok h
    rcases lookup_rules_take hstep with ⟨hrule, hholds⟩ | ⟨hother, hsame⟩
    · exact .inl ⟨⟨step, by simp, hrule⟩, hholds⟩
    · rcases ih hreached with ⟨⟨first, hm, hrule⟩, hholds⟩ | ⟨hothers, hsteps⟩
      · refine .inl ⟨⟨first, List.mem_append_left _ hm, hrule⟩, ?_⟩
        unfold HoldsRules rules at hholds ⊢
        rw [hsame]
        exact hholds
      · refine .inr ⟨?_, hsame.trans hsteps⟩
        exact List.forall_mem_append.mpr ⟨hothers, List.forall_mem_singleton.mpr hother⟩

/-- Drafts from which the same is made: the same definition or the same faults. A definition has the
same form for transport, and fields of which it is one have the same key. -/
structure MakesSame (a b : Draft) : Prop where
  /-- The same is read from the drafts. -/
  build : a.build = b.build
  /-- The forms for transport are the same. -/
  wire : ∀ d e, a.build = .read d → b.build = .read e → d.wire = e.wire
  /-- The keys are the same. -/
  key : ∀ d e, a.build = .read d → b.build = .read e →
    ∀ side name options (before after : FieldMap),
    ValidatorKey.of side (before ++ (name, d) :: after) options =
      ValidatorKey.of side (before ++ (name, e) :: after) options

theorem makesSame_of_build {a b : Draft} (h : a.build = b.build) : a.MakesSame b := by
  have hsame (d e : Definition) (hd : a.build = .read d) (he : b.build = .read e) : d = e :=
    Reading.read.inj (hd.symm.trans (h.trans he))
  refine ⟨h, fun d e hd he => ?_, fun d e hd he side name options before after => ?_⟩
  · rw [hsame d e hd he]
  · rw [hsame d e hd he]

/-- If a draft has no value for absent ones, no step declared one. -/
theorem forall_ne_default (h : draft.takeAll steps = .ok taken)
    (hnone : taken.attributes.lookup "default" = none) :
    ∀ step ∈ steps, step.target ≠ .own "default" := by
  refine DraftStep.lastAbout_eq_none_iff.mp
    (Option.eq_none_iff_forall_ne_some.mpr fun step hlast => ?_)
  have hvalue : taken.value? (.own "default") = _ :=
    value?_takeAll h (by decide) fun heq => absurd heq (by decide)
  obtain ⟨value, rfl⟩ := DraftStep.target_eq_default_iff.mp (DraftStep.mem_of_lastAbout hlast).2
  rw [hlast] at hvalue
  cases hnone.symm.trans hvalue

/-- Steps of which the same are the last ones about each target declare the same. -/
theorem declaresSame_of_endAlike (h : DraftStep.EndAlike steps others)
    (hsteps : draft.takeAll steps = .ok taken) (hothers : draft.takeAll others = .ok reached) :
    Definition.DeclaresSame taken.attributes reached.attributes := by
  have hvalue (target : DraftTarget) (htarget : target ≠ .own "validation")
      (hrequired : target = .own "required" → ∀ step ∈ steps, step.target ≠ .own "default") :
      taken.value? target = reached.value? target := by
    rw [value?_takeAll hsteps htarget hrequired, value?_takeAll hothers htarget fun heq =>
      h.forall_ne (hrequired heq), h target]
  refine ⟨fun name hrequired hvalidation => ?_, fun hnone => ?_, ?_⟩
  · exact hvalue (.own name) (by simpa using hvalidation) fun heq =>
      absurd (DraftTarget.own.inj heq) hrequired
  · exact hvalue (.own "required") (by decide) fun _ => forall_ne_default hsteps hnone
  · rcases lookup_rules_takeAll hsteps with ⟨⟨step, hm, name, hname⟩, htaken⟩ | ⟨hnone, htaken⟩
    · rcases lookup_rules_takeAll hothers with ⟨-, hreached⟩ | ⟨hnone, -⟩
      · exact .inr ⟨_, _, htaken, hreached, fun name => hvalue (.rule name) nofun nofun⟩
      · exact absurd hname (h.symm.forall_ne (fun other ho => hnone other ho name) step hm)
    · rcases lookup_rules_takeAll hothers with ⟨⟨step, hm, name, hname⟩, -⟩ | ⟨-, hreached⟩
      · exact absurd hname (h.forall_ne (fun other ho => hnone other ho name) step hm)
      · exact .inl (htaken.trans hreached.symm)

/-- From steps of which the same are the last ones about each target the same is made. -/
theorem makesSame_of_endAlike (h : DraftStep.EndAlike steps others)
    (hothers : ∀ step ∈ others, step ∈ steps) (hsteps : draft.takeAll steps = .ok taken) :
    ∃ reached, draft.takeAll others = .ok reached ∧ taken.MakesSame reached := by
  have hgiven := exists_takeAll_iff.mp ⟨taken, hsteps⟩
  obtain ⟨reached, hreached⟩ : ∃ reached, draft.takeAll others = .ok reached :=
    exists_takeAll_iff.mpr fun step hm => hgiven step (hothers step hm)
  exact ⟨reached, hreached,
    makesSame_of_build (declaresSame_of_endAlike h hsteps hreached).read_eq⟩

/-- What is given to a target takes nothing from any. -/
theorem isSome_value?_put {other : DraftTarget} (hother : other ≠ .own "validation") (v : Value)
    (hsome : (draft.value? target).isSome = true) :
    ((draft.put other v).value? target).isSome = true := by
  by_cases htarget : target = .own "validation"
  · subst htarget
    cases other with
    | own name => rwa [put, value?, lookup_set_of_ne (by rintro rfl; exact hother rfl)]
    | rule name => exact Option.isSome_of_eq_some (holdsRules_setRule draft name v)
  · rw [value?_put htarget hother]
    split
    · rfl
    · exact hsome

/-- A step removes nothing. -/
theorem isSome_value?_take (h : draft.take step = .ok taken)
    (hsome : (draft.value? target).isSome = true) : (taken.value? target).isSome = true := by
  rw [take_eq] at h
  obtain ⟨v, -, rfl⟩ := exists_of_map_eq_ok h
  have hput := isSome_value?_put step.target_ne_validation v hsome
  cases step with
  | fallback =>
    have hrequired : DraftTarget.own "required" ≠ .own "validation" := by decide
    exact isSome_value?_put hrequired (.bool false) hput
  | _ => exact hput

/-- Steps remove nothing. -/
theorem isSome_value?_takeAll (h : draft.takeAll steps = .ok taken)
    (hsome : (draft.value? target).isSome = true) : (taken.value? target).isSome = true := by
  induction steps using List.reverseRecOn generalizing taken with
  | nil => cases h; exact hsome
  | append_singleton steps step ih =>
    rw [takeAll_concat] at h
    obtain ⟨reached, hreached, hstep⟩ := exists_of_bind_eq_ok h
    exact isSome_value?_take hstep (ih hreached)

/-- What steps leave in a draft. Whether the field is required is looked at only where no step
declares a value for absent ones, which decides it. -/
structure Settles (draft taken : Draft) (steps : List DraftStep) : Prop where
  /-- What steps are about has the value that the last of them gave. -/
  last : ∀ target step, DraftStep.lastAbout target steps = some step →
    (target = .own "required" → ∀ step ∈ steps, step.target ≠ .own "default") →
      ∃ v, step.given = .ok v ∧ taken.value? target = some v
  /-- What no step is about stays. -/
  stays : ∀ target, target ≠ .own "validation" → (∀ step ∈ steps, step.target ≠ target) →
    (target = .own "required" → ∀ step ∈ steps, step.target ≠ .own "default") →
      taken.value? target = draft.value? target
  /-- Nothing is removed. -/
  kept : ∀ target, (draft.value? target).isSome = true → (taken.value? target).isSome = true

theorem settles_of_takeAll (h : draft.takeAll steps = .ok taken) : draft.Settles taken steps where
  last target step hlast hrequired := by
    obtain ⟨hm, htarget⟩ := DraftStep.mem_of_lastAbout hlast
    have hvalue := value?_takeAll h (htarget ▸ step.target_ne_validation) hrequired
    obtain ⟨v, hv⟩ := exists_takeAll_iff.mp ⟨taken, h⟩ step hm
    rw [hlast] at hvalue
    dsimp only at hvalue
    rw [hv] at hvalue
    exact ⟨v, hv, hvalue⟩
  stays target htarget hnone hrequired := by
    have hvalue := value?_takeAll h htarget hrequired
    rwa [DraftStep.lastAbout_eq_none_iff.mpr hnone] at hvalue
  kept _ := isSome_value?_takeAll h

/-- Only the last step about each target counts, wherever it stands: steps in another order make the
same, as long as steps about one target keep their order among themselves; a step that a later one
overrides can be left out; and steps remove nothing. -/
theorem last_steps_decide (draft : Draft) :
    (∀ steps others taken, DraftStep.Reorders steps others → draft.takeAll steps = .ok taken →
      ∃ reached, draft.takeAll others = .ok reached ∧ taken.MakesSame reached) ∧
    (∀ before step between again after taken, again.target = step.target →
      draft.takeAll (before ++ step :: (between ++ again :: after)) = .ok taken →
      ∃ reached, draft.takeAll (before ++ (between ++ again :: after)) = .ok reached ∧
        taken.MakesSame reached) ∧
    ∀ steps taken, draft.takeAll steps = .ok taken → draft.Settles taken steps := by
  refine ⟨fun steps others taken h hsteps => ?_,
    fun before step between again after taken h hsteps => ?_,
    fun steps taken => settles_of_takeAll⟩
  · exact makesSame_of_endAlike h.endAlike (fun step => h.perm.mem_iff.mpr) hsteps
  · refine makesSame_of_endAlike (DraftStep.lastAbout_of_overridden h) (fun other hm => ?_) hsteps
    rcases List.mem_append.mp hm with hm | hm
    · exact List.mem_append_left _ hm
    · exact List.mem_append_right _ (List.mem_cons_of_mem _ hm)

/-- Steps on the way to a text of a configuration that has a value for absent ones. -/
def labelSteps : List DraftStep :=
  [.fallback (.text "none"), .rulePattern (.text "^[a-z]+$"), .required]

/-- The same steps in another order. -/
def reorderedLabelSteps : List DraftStep :=
  [.rulePattern (.text "^[a-z]+$"), .required, .fallback (.text "none")]

/-- Both make an optional text with a pattern; of two least lengths the second one counts. -/
theorem makesSame_labelSteps :
    ∃ taken reached d, DraftStep.Reorders labelSteps reorderedLabelSteps ∧
      (ofKind .string).takeAll labelSteps = .ok taken ∧
      (ofKind .string).takeAll reorderedLabelSteps = .ok reached ∧ taken.MakesSame reached ∧
      reached.build = .read d ∧ d.attributes.required = some false ∧
      ∃ twice once,
        (ofKind .string).takeAll [.minLength (.int 1), .sensitive, .minLength (.int 2)] =
          .ok twice ∧
        (ofKind .string).takeAll [.sensitive, .minLength (.int 2)] = .ok once ∧
          twice.MakesSame once := by
  have hfirst := DraftStep.reorders_swap (a := .fallback (.text "none"))
    (b := .rulePattern (.text "^[a-z]+$")) (by decide) [] [.required]
  have hsecond := DraftStep.reorders_swap (a := .fallback (.text "none")) (b := .required)
    (by decide) [.rulePattern (.text "^[a-z]+$")] []
  have hreorders : DraftStep.Reorders labelSteps reorderedLabelSteps := hfirst.trans hsecond
  obtain ⟨reached, hreached, hsame⟩ :=
    (last_steps_decide (ofKind .string)).1 labelSteps reorderedLabelSteps _ hreorders rfl
  obtain ⟨once, honce, htwice⟩ := (last_steps_decide (ofKind .string)).2.1 [] (.minLength (.int 1))
    [.sensitive] (.minLength (.int 2)) [] _ rfl rfl
  cases hreached
  exact ⟨_, _, _, hreorders, rfl, rfl, hsame, rfl, rfl, _, once, rfl, honce, htwice⟩

end Draft

end Intake
