import Intake.Proofs.Condition.Evaluation
import Intake.Proofs.Condition.Grammar
import Intake.Schema.Check

/-!
# What is told of rules

A rule is broken, or it cannot be decided, or nothing is told of it. Both are said here of the data
and the declaration of the rule: which fields are there, what its condition says, which comparisons
the evaluation of the condition reaches. Main statement: rules are told of one by one, in order, and a
detail tells exactly what became of its rule. The text of a condition can always be read again.
-/

namespace Intake

namespace Value

/-- Keys lead from a value to another through records. -/
inductive LeadsTo : Value → List String → Value → Prop
  /-- No keys lead to the value itself. -/
  | here (v : Value) : LeadsTo v [] v
  /-- A key leads to the entry of a record. -/
  | entry {entries : List (String × Value)} {key : String} {inner : Value} {rest : List String}
    {v : Value} (h : entries.lookup key = some inner) (hrest : LeadsTo inner rest v) :
    LeadsTo (.record entries) (key :: rest) v

theorem follow?_eq_some_iff {v w : Value} {keys : List String} :
    v.follow? keys = some w ↔ LeadsTo v keys w := by
  constructor
  · intro h
    induction keys generalizing v with
    | nil =>
      cases h
      exact .here _
    | cons key rest ih =>
      obtain ⟨inner, hinner, hrest⟩ := Option.bind_eq_some_iff.mp h
      cases v with
      | record entries => exact .entry hinner (ih hrest)
      | _ => cases hinner
  · intro h
    induction h with
    | here => rfl
    | entry hkey _ ih => exact Option.bind_eq_some_iff.mpr ⟨_, hkey, ih⟩

end Value

/-- A path is made up of keys, with dots between them. -/
structure IsDotted (keys : List String) (path : String) : Prop where
  /-- There is a key. -/
  ne_nil : keys ≠ []
  /-- No key has a dot in it. -/
  dot_notMem : ∀ key ∈ keys, '.' ∉ key.toList
  /-- The path is the keys with dots between them. -/
  path_eq : path = ".".intercalate keys

/-- There is one way to take a path apart at its dots. -/
theorem isDotted_iff {keys : List String} {path : String} :
    IsDotted keys path ↔ keys = (splitParts '.' path.toList).map String.ofList := by
  constructor
  · rintro ⟨hne, hdots, hpath⟩
    have hparts := splitParts_intercalate (by simpa using hne)
      (List.forall_mem_map.mpr hdots)
    have hchars : path.toList = ['.'].intercalate (keys.map String.toList) := by
      rw [hpath, String.toList_intercalate]
      rfl
    rw [hchars, hparts, List.map_map]
    simp [Function.comp_def]
  · rintro rfl
    refine ⟨by simpa using splitParts_ne_nil '.' path.toList, ?_, ?_⟩
    · refine List.forall_mem_map.mpr fun part hm => ?_
      rw [String.toList_ofList]
      exact notMem_of_mem_splitParts hm
    · have hid : (String.toList ∘ String.ofList) = id := funext fun _ => String.toList_ofList
      rw [← String.toList_inj, String.toList_intercalate, List.map_map, hid, List.map_id]
      exact (intercalate_splitParts '.' path.toList).symm

/-- A value other than null stands at a path. -/
def Value.HasAt (scope : Value) (path : String) : Prop :=
  ∃ keys v, IsDotted keys path ∧ scope.LeadsTo keys v ∧ v ≠ .null

theorem Value.isPresent_iff {scope : Value} {path : String} :
    scope.isPresent path = true ↔ scope.HasAt path := by
  unfold isPresent
  constructor
  · intro h
    split at h
    · next v hv =>
      refine ⟨_, v, isDotted_iff.mpr rfl, follow?_eq_some_iff.mp hv, ?_⟩
      rintro rfl
      cases h
    · cases h
  · rintro ⟨keys, v, hkeys, hv, hne⟩
    rw [← isDotted_iff.mp hkeys, follow?_eq_some_iff.mpr hv]
    cases v with
    | null => exact absurd rfl hne
    | _ => rfl

/-- More than one element of a list passes a test exactly if two of them do, one after the other. -/
theorem one_lt_length_filter_iff {α : Type} {p : α → Bool} {l : List α} :
    1 < (l.filter p).length ↔ ∃ a b, [a, b].Sublist l ∧ p a = true ∧ p b = true := by
  constructor
  · intro h
    match hl : l.filter p with
    | [] => simp [hl] at h
    | [a] => simp [hl] at h
    | a :: b :: rest =>
      have hsub : [a, b].Sublist (l.filter p) := by
        rw [hl]
        exact ((List.nil_sublist rest).cons_cons b).cons_cons a
      have ha : a ∈ l.filter p := by simp [hl]
      have hb : b ∈ l.filter p := by simp [hl]
      exact ⟨a, b, hsub.trans List.filter_sublist, (List.mem_filter.mp ha).2,
        (List.mem_filter.mp hb).2⟩
  · rintro ⟨a, b, hsub, ha, hb⟩
    have hpair := (hsub.filter p).length_le
    rw [List.filter_cons_of_pos ha, List.filter_cons_of_pos hb] at hpair
    exact hpair

namespace Rule

variable {handler : Option RuleHandler} {scope : Value} {r : Rule}

/-- The condition of a rule is declared, and its text says something that holds. -/
def IsAsked (r : Rule) (scope : Value) : Prop :=
  ∃ text tree, r.condition.value?.map (·.text) = some text ∧ Condition.read text = .ok tree ∧
    tree.holds scope = .ok true

/-- A rule is broken, with one case for each way to break a rule. -/
inductive IsBroken (handler : Option RuleHandler) (scope : Value) (r : Rule) : Prop
  /-- The condition holds and a required field is not there. -/
  | missing {path : String} (hk : r.kind = .conditional) (hasked : r.IsAsked scope)
    (hm : path ∈ r.requiredPaths) (h : ¬ scope.HasAt path)
  /-- The condition holds and a forbidden field is there. -/
  | unwanted {path : String} (hk : r.kind = .conditional) (hasked : r.IsAsked scope)
    (hm : path ∈ r.forbiddenPaths) (h : scope.HasAt path)
  /-- Two entries of the fields that exclude each other are there. -/
  | together {path other : String} (hk : r.kind = .mutualExclusion)
    (hm : [path, other].Sublist r.exclusivePaths) (h : scope.HasAt path) (hother : scope.HasAt other)
  /-- The trigger is there and a required field is not. -/
  | alone {trigger : RulePath} {path : String} (hk : r.kind = .dependency)
    (htrigger : r.trigger.value? = some trigger) (hthere : scope.HasAt trigger.val)
    (hm : path ∈ r.requiredPaths) (h : ¬ scope.HasAt path)
  /-- The handler decides against the rule. -/
  | refused {decide : RuleHandler} (hk : r.kind = .custom) (hh : handler = some decide)
    (h : decide r scope = .ok false)

/-- A rule cannot be decided; this is why. -/
inductive FailsWith (handler : Option RuleHandler) (scope : Value) (r : Rule) : String → Prop
  /-- The evaluation of the condition reaches two values that have no order. -/
  | condition {text : String} {tree : Condition} {u : Unordered} (hk : r.kind = .conditional)
    (hc : r.condition.value?.map (·.text) = some text) (hread : Condition.read text = .ok tree)
    (h : tree.Sticks scope u) : FailsWith handler scope r u.message
  /-- The handler fails. -/
  | handler {decide : RuleHandler} {error : String} (hk : r.kind = .custom)
    (hh : handler = some decide) (h : decide r scope = .error error) :
    FailsWith handler scope r error

/-- What is told of a rule, if anything is. -/
def detail? (handler : Option RuleHandler) (scope : Value) (r : Rule) : Option Detail :=
  match r.holds handler scope with
  | .ok true => none
  | .ok false => some r.brokenDetail
  | .error error => some (r.failedDetail error)

theorem details_eq_toList (handler : Option RuleHandler) (scope : Value) (r : Rule) :
    r.details handler scope = (r.detail? handler scope).toList := by
  unfold details detail?
  rcases r.holds handler scope with error | (_ | _) <;> rfl

/-- The declared text of a condition is read again as the condition that the rule holds. -/
theorem exists_text_iff (P : Condition → Prop) :
    (∃ text tree, r.condition.value?.map (·.text) = some text ∧ Condition.read text = .ok tree ∧
      P tree) ↔ ∃ condition, r.condition.value? = some condition ∧ P condition.tree := by
  constructor
  · rintro ⟨text, tree, htext, hread, hP⟩
    obtain ⟨condition, hc, rfl⟩ := Option.map_eq_some_iff.mp htext
    rw [condition.read_text] at hread
    cases hread
    exact ⟨condition, hc, hP⟩
  · rintro ⟨condition, hc, hP⟩
    exact ⟨condition.text, condition.tree, by rw [hc]; rfl, condition.read_text, hP⟩

theorem exists_not_hasAt_iff {paths : List String} :
    paths.all scope.isPresent = false ↔ ∃ path ∈ paths, ¬ scope.HasAt path := by
  simp only [List.all_eq_false, Value.isPresent_iff]

/-- What a conditional rule asks for is asked for only if its condition holds. -/
theorem conditional_eq_ok_false_iff (hk : r.kind = .conditional) :
    r.holds handler scope = .ok false ↔ r.IsAsked scope ∧
      ((∃ path ∈ r.requiredPaths, ¬ scope.HasAt path) ∨
        ∃ path ∈ r.forbiddenPaths, scope.HasAt path) := by
  have hasked : r.IsAsked scope ↔
      ∃ condition, r.condition.value? = some condition ∧ condition.tree.holds scope = .ok true :=
    exists_text_iff fun tree => tree.holds scope = .ok true
  have hforbidden : r.forbiddenPaths.any scope.isPresent = true ↔
      ∃ path ∈ r.forbiddenPaths, scope.HasAt path := by
    simp only [List.any_eq_true, Value.isPresent_iff]
  rw [hasked, ← hforbidden, ← exists_not_hasAt_iff, holds.eq_def, hk]
  cases r.condition.value? with
  | none => simp
  | some condition =>
    rcases ht : condition.tree.holds scope with u | (_ | _)
    · simp [ht]
    · simp [ht]
    · simp only [Option.some.injEq, exists_eq_left', ht, Except.ok.injEq, Bool.and_eq_false_iff,
        Bool.not_eq_false', true_and]

/-- Fields that exclude each other are counted entry by entry. -/
theorem mutualExclusion_eq_ok_false_iff (hk : r.kind = .mutualExclusion) :
    r.holds handler scope = .ok false ↔ ∃ path other, [path, other].Sublist r.exclusivePaths ∧
      scope.HasAt path ∧ scope.HasAt other := by
  simp only [← Value.isPresent_iff]
  rw [← one_lt_length_filter_iff, holds.eq_def, hk]
  simp

/-- A dependent field is asked for only if the trigger is there. -/
theorem dependency_eq_ok_false_iff (hk : r.kind = .dependency) :
    r.holds handler scope = .ok false ↔ ∃ trigger, r.trigger.value? = some trigger ∧
      scope.HasAt trigger.val ∧ ∃ path ∈ r.requiredPaths, ¬ scope.HasAt path := by
  rw [← exists_not_hasAt_iff, holds.eq_def, hk]
  cases r.trigger.value? with
  | none => simp
  | some trigger => simp [← Value.isPresent_iff]

/-- A custom rule is decided by the handler, if there is one. -/
theorem custom_eq_iff (hk : r.kind = .custom) {answer : Except String Bool}
    (hne : answer ≠ .ok true) :
    r.holds handler scope = answer ↔ ∃ decide, handler = some decide ∧ decide r scope = answer := by
  rw [holds.eq_def, hk]
  cases handler with
  | none => simpa using hne.symm
  | some decide => simp

/-- A rule does not hold exactly if it is broken. -/
theorem holds_eq_ok_false_iff : r.holds handler scope = .ok false ↔ r.IsBroken handler scope := by
  constructor
  · intro h
    cases hk : r.kind with
    | conditional =>
      obtain ⟨hasked, ⟨path, hm, hp⟩ | ⟨path, hm, hp⟩⟩ := (conditional_eq_ok_false_iff hk).mp h
      · exact .missing hk hasked hm hp
      · exact .unwanted hk hasked hm hp
    | mutualExclusion =>
      obtain ⟨path, other, hm, hp, ho⟩ := (mutualExclusion_eq_ok_false_iff hk).mp h
      exact .together hk hm hp ho
    | dependency =>
      obtain ⟨trigger, ht, hthere, path, hm, hp⟩ := (dependency_eq_ok_false_iff hk).mp h
      exact .alone hk ht hthere hm hp
    | custom =>
      obtain ⟨decide, hh, h⟩ := (custom_eq_iff hk (by simp)).mp h
      exact .refused hk hh h
  · intro h
    cases h with
    | missing hk hasked hm hp =>
      exact (conditional_eq_ok_false_iff hk).mpr ⟨hasked, .inl ⟨_, hm, hp⟩⟩
    | unwanted hk hasked hm hp =>
      exact (conditional_eq_ok_false_iff hk).mpr ⟨hasked, .inr ⟨_, hm, hp⟩⟩
    | together hk hm hp ho => exact (mutualExclusion_eq_ok_false_iff hk).mpr ⟨_, _, hm, hp, ho⟩
    | alone hk ht hthere hm hp =>
      exact (dependency_eq_ok_false_iff hk).mpr ⟨_, ht, hthere, _, hm, hp⟩
    | refused hk hh h => exact (custom_eq_iff hk (by simp)).mpr ⟨_, hh, h⟩

/-- A conditional rule cannot be decided exactly if its condition cannot be evaluated. -/
theorem conditional_eq_error_iff (hk : r.kind = .conditional) (error : String) :
    r.holds handler scope = .error error ↔ ∃ condition u, r.condition.value? = some condition ∧
      condition.tree.Sticks scope u ∧ u.message = error := by
  simp only [← Condition.evaluate_eq_error_iff, ← Condition.holds_eq_error_iff]
  rw [holds.eq_def, hk]
  cases r.condition.value? with
  | none => simp
  | some condition => rcases ht : condition.tree.holds scope with u | (_ | _) <;> simp [ht]

/-- A rule cannot be decided exactly for the reasons told. -/
theorem holds_eq_error_iff (error : String) :
    r.holds handler scope = .error error ↔ r.FailsWith handler scope error := by
  constructor
  · intro h
    cases hk : r.kind with
    | conditional =>
      obtain ⟨condition, u, hc, hs, rfl⟩ := (conditional_eq_error_iff hk error).mp h
      obtain ⟨text, tree, htext, hread, hs⟩ :=
        (exists_text_iff (Condition.Sticks scope · u)).mpr ⟨condition, hc, hs⟩
      exact .condition hk htext hread hs
    | mutualExclusion => simp [holds, hk] at h
    | dependency =>
      rw [holds.eq_def, hk] at h
      cases ht : r.trigger.value? <;> simp [ht] at h
    | custom =>
      obtain ⟨decide, hh, h⟩ := (custom_eq_iff hk (by simp)).mp h
      exact .handler hk hh h
  · intro h
    cases h with
    | condition hk htext hread hs =>
      obtain ⟨condition, hc, hs⟩ :=
        (exists_text_iff (Condition.Sticks scope · _)).mp ⟨_, _, htext, hread, hs⟩
      exact (conditional_eq_error_iff hk _).mpr ⟨condition, _, hc, hs, rfl⟩
    | handler hk hh h => exact (custom_eq_iff hk (by simp)).mpr ⟨_, hh, h⟩

end Rule

/-- Rules are told of one by one and in order, each once at most and whatever is told of the others:
as broken exactly if the rule is broken, and as undecided exactly if it cannot be decided. -/
theorem checkRules_complete (handler : Option RuleHandler) (scope : Value) :
    (∀ rules, checkRules handler scope rules = rules.filterMap (Rule.detail? handler scope)) ∧
    (∀ rules others, checkRules handler scope (rules ++ others) =
      checkRules handler scope rules ++ checkRules handler scope others) ∧
    (∀ (r : Rule) (detail : Detail), r.detail? handler scope = some detail ↔
      r.IsBroken handler scope ∧ detail = r.brokenDetail ∨
        ∃ error, r.FailsWith handler scope error ∧ detail = r.failedDetail error) ∧
    (∀ r : Rule, r.brokenDetail.code = .ruleBroken ∧
      r.brokenDetail.message =
        Rule.firstText r.errorMessage.value? r.description.value? "Cross-field validation failed") ∧
    ∀ (r : Rule) (error : String), (r.failedDetail error).code = .ruleFailed := by
  refine ⟨fun rules => ?_, checkRules_append handler scope, fun r detail => ?_, fun r => ⟨rfl, rfl⟩,
    fun r error => rfl⟩
  · unfold checkRules
    induction rules with
    | nil => rfl
    | cons r rest ih =>
      rw [List.flatMap_cons, ih, Rule.details_eq_toList]
      cases h : r.detail? handler scope with
      | none => rw [List.filterMap_cons_none h]; rfl
      | some detail => rw [List.filterMap_cons_some h]; rfl
  · rw [← Rule.holds_eq_ok_false_iff]
    simp only [← Rule.holds_eq_error_iff]
    unfold Rule.detail?
    rcases r.holds handler scope with error | (_ | _) <;> simp [eq_comm]

end Intake
