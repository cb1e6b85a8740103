import Intake.Proofs.Condition.Language
import Intake.Proofs.Field.Environment
import Intake.Proofs.Text.Parts
import Intake.Schema.Basic
import Intake.Schema.Check

/-!
# Schemas in the making

A schema is put together by any steps, of which some are refused, and is built as often as one likes
on the way. Main statement: a step is refused exactly if the field or the rule it adds is, and then
nothing has changed; each schema that was built lists the names that had been added to a side by
then, each once and in the order in which they came up, with the definitions they were last added
with, and all rules that had been added, in order; and what was built stays as it was built. The
rules of such a schema have conditions of the grammar, and paths that go on below the input or the
configuration.
-/

namespace Intake

/-- A step with what it led to. -/
abbrev SchemaEvent := SchemaStep × Except SchemaStepFault (Option Schema)

namespace SchemaEvent

/-- The field that a step added to a side, if it did. -/
def field? (side : Side) : SchemaEvent → Option (String × Definition)
  | (.field s name source, .ok _) =>
    match source.read with
    | .read d => if s = side then some (name, d) else none
    | .faults _ => none
  | _ => none

/-- The rule that a step added, if it did. -/
def rule? : SchemaEvent → Option Rule
  | (.rule source, .ok _) =>
    match source.read with
    | .ok (.read rule) => some rule
    | _ => none
  | _ => none

end SchemaEvent

/-- A schema in the making, with what has happened. -/
structure SchemaRun where
  /-- The schema in the making. -/
  draft : SchemaDraft
  /-- What has happened, the oldest first. -/
  events : List SchemaEvent

namespace SchemaRun

/-- The run after a further step. -/
def after (run : SchemaRun) (step : SchemaStep) : SchemaRun :=
  let (draft, outcome) := run.draft.take step
  ⟨draft, run.events ++ [(step, outcome)]⟩

/-- The run of steps that starts with nothing. -/
def ofSteps (steps : List SchemaStep) : SchemaRun := steps.foldl after ⟨.empty, []⟩

end SchemaRun

/-- Fields as they were added one after the other. -/
structure FieldMap.Gathers (fields : FieldMap) (added : List (String × Definition)) : Prop where
  /-- Each name is listed once, where it came up first. -/
  names : fields.map (·.1) = (added.map (·.1)).eraseDups
  /-- A name has the definition that it was last added with. -/
  lookup : ∀ name, fields.lookup name = added.reverse.lookup name

/-- A path goes on below the input or the configuration. -/
def IsRooted (path : String) : Prop :=
  ∃ root ∈ ["input", "config"], ∃ rest, rest ≠ "" ∧ path = root ++ "." ++ rest

/-- What a rule declares makes sense. -/
structure Rule.Sound (rule : Rule) : Prop where
  /-- The text of the condition is made up of lexemes that make up the condition. -/
  condition : ∀ c, rule.condition.value? = some c →
    ∃ ts, Token.Says c.text.toList ts ∧ Derives .disjunction ts c.tree
  /-- The paths that must be there are rooted. -/
  required : ∀ path ∈ rule.requiredPaths, IsRooted path
  /-- The paths that must not be there are rooted. -/
  forbidden : ∀ path ∈ rule.forbiddenPaths, IsRooted path
  /-- The paths that exclude each other are rooted. -/
  exclusive : ∀ path ∈ rule.exclusivePaths, IsRooted path
  /-- The path on which others depend is rooted. -/
  trigger : ∀ path, rule.trigger.value? = some path → IsRooted path.val

/-- A schema holds what was added. -/
structure Schema.Gathers (schema : Schema) (events : List SchemaEvent) : Prop where
  /-- The fields of a side are those that were added to it. -/
  fields : ∀ side, (schema.fields side).Gathers (events.filterMap (SchemaEvent.field? side))
  /-- The rules are those that were added, in order. -/
  rules : schema.rules = events.filterMap SchemaEvent.rule?
  /-- What the rules declare makes sense. -/
  sound : ∀ rule ∈ schema.rules, rule.Sound

/-- Steps add to a schema, or change nothing. -/
structure SchemaRun.Accumulates (run : SchemaRun) (steps : List SchemaStep) : Prop where
  /-- All steps were taken, in order. -/
  taken : run.events.map (·.1) = steps
  /-- A step is refused exactly if what it adds is. -/
  refused : ∀ step fault, (run.draft.take step).2 = .error fault ↔ step.fault? = some fault
  /-- A step that is refused changes nothing. -/
  unchanged : ∀ step fault, (run.draft.take step).2 = .error fault →
    (run.draft.take step).1 = run.draft
  /-- What is built holds what was added before. -/
  built : ∀ before outcome later, run.events = before ++ (.build, outcome) :: later →
    ∃ schema, outcome = .ok (some schema) ∧ schema.Gathers before
  /-- What has happened stays as it is, whatever steps follow. -/
  grows : ∀ more : List SchemaStep, run.events <+: (more.foldl after run).events

/-- A name that is listed once stays where it came up first, and a new one comes last. -/
theorem eraseDups_concat (names : List String) (name : String) :
    (names ++ [name]).eraseDups = names.eraseDups ++ if name ∈ names then [] else [name] := by
  rw [List.eraseDups_append]
  by_cases h : name ∈ names
  · simp [List.removeAll, h]
  · simp [List.removeAll, h, List.eraseDups_cons]

/-- Nothing stands under a name that is not listed. -/
theorem isNone_lookup_iff {α : Type} {entries : List (String × α)} {name : String} :
    (entries.lookup name).isNone = true ↔ name ∉ entries.map (·.1) := by
  rw [Option.isNone_iff_eq_none, List.lookup_eq_none_iff, List.mem_map, not_exists]
  refine forall_congr' fun entry => ?_
  rw [not_and, bne_iff_ne]
  exact forall_congr' fun _ => ne_comm

/-- A field that is added takes the place of one of the same name, or comes last. -/
theorem FieldMap.Gathers.add {fields : FieldMap} {added : List (String × Definition)}
    (h : fields.Gathers added) (name : String) (d : Definition) :
    FieldMap.Gathers (insertEntry name d fields) (added ++ [(name, d)]) := by
  constructor
  · have hnew : (fields.lookup name).isNone = true ↔ name ∉ added.map (·.1) := by
      rw [← List.mem_eraseDups, ← h.names, isNone_lookup_iff]
    rw [keys_insertEntry, h.names, List.map_append, List.map_singleton, eraseDups_concat]
    by_cases hm : name ∈ added.map (·.1)
    · rw [if_pos hm, if_neg (mt hnew.mp (not_not_intro hm))]
    · rw [if_neg hm, if_pos (hnew.mpr hm)]
  · intro other
    rw [List.reverse_append, List.reverse_singleton, List.singleton_append, List.lookup_cons]
    by_cases hother : other = name
    · subst hother
      rw [lookup_insertEntry, beq_self_eq_true]
    · rw [lookup_insertEntry_of_ne hother, h.lookup, beq_false_of_ne hother]

/-- A path of a rule is rooted. -/
theorem RulePath.isRooted (p : RulePath) : IsRooted p.val := by
  have h := p.property
  unfold isRulePath at h
  rcases splitFirst_cases '.' p.val.toList with ⟨-, hsplit⟩ | ⟨root, rest, htext, -, hsplit⟩
  · rw [hsplit] at h
    cases h
  · rw [hsplit] at h
    obtain ⟨hroot, hrest⟩ := Bool.and_eq_true_iff.mp h
    refine ⟨String.ofList root, by simpa [namespaceNames] using hroot, String.ofList rest, ?_, ?_⟩
    · rintro heq
      rw [String.ofList_eq_empty_iff.mp heq] at hrest
      cases hrest
    · rw [← String.toList_inj, htext]
      simp

/-- Each rule was checked when it was declared. -/
theorem Rule.sound (rule : Rule) : rule.Sound := by
  have hpaths (paths : Option (List RulePath)) :
      ∀ path ∈ (paths.getD []).map (·.val), IsRooted path := by
    rintro _ hm
    obtain ⟨p, -, rfl⟩ := List.mem_map.mp hm
    exact p.isRooted
  exact {
    condition := fun c _ => (Condition.read_eq_ok_iff c.text c.tree).mp c.read_text
    required := hpaths rule.requires
    forbidden := hpaths rule.forbids
    exclusive := hpaths rule.fields
    trigger := fun p _ => p.isRooted }

namespace SchemaDraft

variable {draft : SchemaDraft} {events : List SchemaEvent}

theorem fields_add_self (draft : SchemaDraft) (side : Side) (name : String) (d : Definition) :
    (draft.add side name d).build.fields side = insertEntry name d (draft.build.fields side) := by
  cases side <;> rfl

theorem fields_add_of_ne {side other : Side} (hne : other ≠ side) (draft : SchemaDraft)
    (name : String) (d : Definition) :
    (draft.add side name d).build.fields other = draft.build.fields other := by
  cases side <;> cases other <;> first | rfl | exact absurd rfl hne

theorem rules_add (draft : SchemaDraft) (side : Side) (name : String) (d : Definition) :
    (draft.add side name d).build.rules = draft.build.rules := by
  cases side <;> rfl

/-- A step that adds a field tells of it, and of nothing else. -/
theorem gathers_add (h : draft.build.Gathers events) (side : Side) (name : String)
    {source : FieldSource} {d : Definition} (hread : source.read = .read d) :
    (draft.add side name d).build.Gathers (events ++ [(.field side name source, .ok none)]) := by
  refine ⟨fun other => ?_, ?_, fun rule _ => rule.sound⟩
  · rw [List.filterMap_append]
    by_cases hother : other = side
    · subst hother
      rw [fields_add_self]
      simpa [SchemaEvent.field?, hread] using (h.fields other).add name d
    · rw [fields_add_of_ne hother]
      simpa [SchemaEvent.field?, hread, Ne.symm hother] using h.fields other
  · rw [rules_add, h.rules, List.filterMap_append]
    simp [SchemaEvent.rule?]

/-- A step that adds a rule tells of it, and of nothing else. -/
theorem gathers_addRule (h : draft.build.Gathers events) {source : RuleSource} {rule : Rule}
    (hread : source.read = .ok (.read rule)) :
    (draft.addRule rule).build.Gathers (events ++ [(.rule source, .ok none)]) := by
  refine ⟨fun side => ?_, ?_, fun rule _ => rule.sound⟩
  · have hfields : (draft.addRule rule).build.fields side = draft.build.fields side := by
      cases side <;> rfl
    rw [hfields, List.filterMap_append]
    simpa [List.filterMap_cons, SchemaEvent.field?] using h.fields side
  · rw [rules_addRule, h.rules, List.filterMap_append]
    simp [SchemaEvent.rule?, hread]

/-- A step that adds nothing tells of nothing. -/
theorem gathers_of_adds_nothing (h : draft.build.Gathers events) {event : SchemaEvent}
    (hfield : ∀ side, event.field? side = none) (hrule : event.rule? = none) :
    draft.build.Gathers (events ++ [event]) := by
  refine ⟨fun side => ?_, ?_, h.sound⟩
  · simpa [List.filterMap_append, hfield side] using h.fields side
  · simpa [List.filterMap_append, hrule] using h.rules

/-- After a step a draft holds what had been added, and what the step added. -/
theorem gathers_take (h : draft.build.Gathers events) (step : SchemaStep) :
    (draft.take step).1.build.Gathers (events ++ [(step, (draft.take step).2)]) := by
  cases hfault : step.fault? with
  | some fault =>
    rw [draft.take_of_fault? hfault]
    cases step <;> exact gathers_of_adds_nothing h (fun _ => rfl) rfl
  | none =>
    rcases SchemaStep.cases_of_fault?_eq_none hfault with
      ⟨side, name, source, d, rfl, hread⟩ | ⟨source, rule, rfl, hread⟩ | rfl
    · rw [draft.take_field side name hread]
      exact gathers_add h side name hread
    · rw [draft.take_rule hread]
      exact gathers_addRule h hread
    · exact gathers_of_adds_nothing h (fun _ => rfl) rfl

/-- A step is refused exactly if the field or the rule is that it adds. -/
theorem take_eq_error_iff {step : SchemaStep} {fault : SchemaStepFault} :
    (draft.take step).2 = .error fault ↔ step.fault? = some fault := by
  cases hfault : step.fault? with
  | some other =>
    rw [draft.take_of_fault? hfault]
    simp
  | none =>
    rcases SchemaStep.cases_of_fault?_eq_none hfault with
      ⟨side, name, source, d, rfl, hread⟩ | ⟨source, rule, rfl, hread⟩ | rfl
    · simp [draft.take_field side name hread]
    · simp [draft.take_rule hread]
    · simp [take]

end SchemaDraft

namespace SchemaRun

variable {run : SchemaRun} {steps : List SchemaStep}

theorem ofSteps_concat (steps : List SchemaStep) (step : SchemaStep) :
    ofSteps (steps ++ [step]) = (ofSteps steps).after step := by
  rw [ofSteps, ofSteps, List.foldl_append]
  rfl

theorem events_after (run : SchemaRun) (step : SchemaStep) :
    (run.after step).events = run.events ++ [(step, (run.draft.take step).2)] := rfl

/-- The steps of a run are those that it was made of. -/
theorem steps_ofSteps (steps : List SchemaStep) : (ofSteps steps).events.map (·.1) = steps := by
  induction steps using List.reverseRecOn with
  | nil => rfl
  | append_singleton steps step ih => rw [ofSteps_concat, events_after, List.map_append, ih]; rfl

/-- The schema in the making holds what was added. -/
theorem gathers_ofSteps (steps : List SchemaStep) :
    (ofSteps steps).draft.build.Gathers (ofSteps steps).events := by
  induction steps using List.reverseRecOn with
  | nil =>
    refine ⟨fun side => ?_, rfl, fun rule _ => rule.sound⟩
    cases side <;> exact ⟨rfl, fun _ => rfl⟩
  | append_singleton steps step ih =>
    rw [ofSteps_concat]
    exact SchemaDraft.gathers_take ih step

/-- What was built on the way holds what had been added by then. -/
theorem gathers_of_built (steps : List SchemaStep) {before later : List SchemaEvent}
    {outcome : Except SchemaStepFault (Option Schema)}
    (h : (ofSteps steps).events = before ++ (.build, outcome) :: later) :
    ∃ schema, outcome = .ok (some schema) ∧ schema.Gathers before := by
  induction steps using List.reverseRecOn generalizing later with
  | nil =>
    have hlength := congrArg List.length h
    simp [ofSteps] at hlength
  | append_singleton steps step ih =>
    rw [ofSteps_concat, events_after] at h
    -- the building is the last step, or one of those before
    rcases List.eq_nil_or_concat later with rfl | ⟨others, last, rfl⟩
    · obtain ⟨rfl, hlast⟩ := List.append_inj' h rfl
      cases hlast
      exact ⟨_, rfl, gathers_ofSteps steps⟩
    · rw [List.concat_eq_append, ← List.cons_append, ← List.append_assoc] at h
      exact ih (List.append_inj' h rfl).1

/-- What has happened stays. -/
theorem events_prefix_foldl (run : SchemaRun) (more : List SchemaStep) :
    run.events <+: (more.foldl after run).events := by
  induction more generalizing run with
  | nil => exact List.prefix_refl _
  | cons step rest ih => exact (List.prefix_append _ _).trans (ih (run.after step))

/-- Whatever the steps, a schema in the making gathers what is added, and keeps what was built. -/
theorem accumulates_ofSteps (steps : List SchemaStep) : (ofSteps steps).Accumulates steps where
  taken := steps_ofSteps steps
  refused _ _ := SchemaDraft.take_eq_error_iff
  unchanged _ _ h :=
    congrArg Prod.fst (SchemaDraft.take_of_fault? _ (SchemaDraft.take_eq_error_iff.mp h))
  built _ _ _ := gathers_of_built steps
  grows := events_prefix_foldl _

/-- Steps of which the second is refused, because a path of its rule starts nowhere. -/
def refusedRuleSteps : List SchemaStep :=
  [.field .input "city" (.definition (.ofKind .string)),
   .rule (.declared (.record [("kind", .text "mutual_exclusion"), ("fields", .texts ["city"])])),
   .field .input "unit" (.definition (.ofKind .string)),
   .field .input "city" (.definition (.ofKind .number)),
   .build]

-- the refused rule is not there, and the name that came up twice stays where it was
example : ((ofSteps refusedRuleSteps).draft.build.input.map fun (name, d) => (name, d.kind)) =
    [("city", .number), ("unit", .string)] ∧
      (ofSteps refusedRuleSteps).draft.build.rules.length = 0 := by
  decide +kernel

end SchemaRun

end Intake
