import Intake.Proofs.Schema.RuleOutcome

/-!
# Rules and the paths they list

Two rules ask alike if they are of one kind, with one condition and one trigger, and list the same
paths, in any order and as often as they like. What must be there and what must not is asked of each
path, so nothing else about the lists matters; but paths that exclude each other are counted as they
are listed. Main statement: rules that ask alike are answered alike if and only if each path that one
of them counts twice goes on below another one that it lists.
-/

namespace Intake

/-- A path goes on below another one. -/
def IsBelow (path other : String) : Prop := ∃ rest, path = other ++ "." ++ rest

theorem IsBelow.ne {path other : String} (h : IsBelow path other) : other ≠ path := by
  obtain ⟨rest, rfl⟩ := h
  intro heq
  have hlength := congrArg String.length heq
  simp only [String.length_append] at hlength
  have hdot : ".".length = 1 := rfl
  omega

theorem IsDotted.append {keys others : List String} {path rest : String} (h : IsDotted keys path)
    (hrest : IsDotted others rest) : IsDotted (keys ++ others) (path ++ "." ++ rest) := by
  have hchars : (path ++ "." ++ rest).toList = path.toList ++ '.' :: rest.toList := by
    simp [String.toList_append]
  rw [isDotted_iff, hchars, splitParts_append, List.map_append, ← isDotted_iff.mp h,
    ← isDotted_iff.mp hrest]

/-- A path whose keys go on after those of another one goes on below it. -/
theorem IsDotted.isBelow {keys others : List String} {path other : String} (hne : others ≠ [])
    (h : IsDotted (keys ++ others) path) (hother : IsDotted keys other) : IsBelow path other := by
  have hothers : IsDotted others (".".intercalate others) :=
    ⟨hne, fun key hm => h.dot_notMem key (List.mem_append_right keys hm), rfl⟩
  exact ⟨_, h.path_eq.trans (hother.append hothers).path_eq.symm⟩

namespace Value

theorem LeadsTo.of_append {v w : Value} {keys others : List String}
    (h : v.LeadsTo (keys ++ others) w) : ∃ u, v.LeadsTo keys u ∧ u.LeadsTo others w := by
  induction keys generalizing v with
  | nil => exact ⟨v, .here v, h⟩
  | cons key rest ih =>
    cases h with
    | entry hkey hrest =>
      obtain ⟨u, hu, hw⟩ := ih hrest
      exact ⟨u, .entry hkey hu, hw⟩

/-- What a path goes on below is there if the path is. -/
theorem HasAt.of_isBelow {scope : Value} {path other : String} (h : scope.HasAt path)
    (hb : IsBelow path other) : scope.HasAt other := by
  obtain ⟨rest, rfl⟩ := hb
  obtain ⟨keys, v, hkeys, hlead, -⟩ := h
  have hother : IsDotted _ other := isDotted_iff.mpr rfl
  have hrest : IsDotted _ rest := isDotted_iff.mpr rfl
  have heq := (isDotted_iff.mp hkeys).trans (isDotted_iff.mp (hother.append hrest)).symm
  rw [heq] at hlead
  obtain ⟨u, hu, hv⟩ := hlead.of_append
  refine ⟨_, u, hother, hu, ?_⟩
  -- some key leads on from what stands there
  rintro rfl
  generalize hothers : (splitParts '.' rest.toList).map String.ofList = others at hv
  cases hv with
  | here => exact hrest.ne_nil hothers

/-- The records that lead to a value along keys and hold nothing else. -/
def nested : List String → Value → Value
  | [], v => v
  | key :: rest, v => .record [(key, nested rest v)]

theorem leadsTo_nested (keys : List String) (v : Value) : (nested keys v).LeadsTo keys v := by
  induction keys with
  | nil => exact .here v
  | cons key rest ih => exact .entry (by simp) ih

theorem LeadsTo.exists_append {keys others : List String} {b : Bool} {w : Value}
    (h : (nested keys (.bool b)).LeadsTo others w) : ∃ rest, keys = others ++ rest := by
  induction keys generalizing others with
  | nil =>
    cases h with
    | here => exact ⟨[], rfl⟩
  | cons key rest ih =>
    cases h with
    | here => exact ⟨key :: rest, rfl⟩
    | @entry _ other _ _ _ hkey hrest =>
      have heq : other = key := by
        by_contra hne
        rw [List.lookup_cons, beq_false_of_ne hne] at hkey
        cases hkey
      subst heq
      rw [List.lookup_cons_self] at hkey
      cases hkey
      obtain ⟨more, rfl⟩ := ih hrest
      exact ⟨more, rfl⟩

/-- The records along one path have a value there and at the paths that it goes on below. -/
theorem hasAt_nested_iff {keys : List String} {path other : String} (hkeys : IsDotted keys path) :
    (nested keys (.bool true)).HasAt other ↔ other = path ∨ IsBelow path other := by
  have hthere : (nested keys (.bool true)).HasAt path :=
    ⟨keys, .bool true, hkeys, leadsTo_nested keys (.bool true), Value.noConfusion⟩
  constructor
  · rintro ⟨others, w, hothers, hlead, -⟩
    obtain ⟨rest, rfl⟩ := hlead.exists_append
    by_cases hrest : rest = []
    · rw [hrest, List.append_nil] at hkeys
      exact .inl (hothers.path_eq.trans hkeys.path_eq.symm)
    · exact .inr (hkeys.isBelow hrest hothers)
  · rintro (rfl | hb)
    · exact hthere
    · exact hthere.of_isBelow hb

end Value

/-- Two different elements of a list stand in it one after the other. -/
theorem sublist_or_sublist_of_ne {α : Type} {a b : α} {l : List α} (ha : a ∈ l) (hb : b ∈ l)
    (hne : a ≠ b) : [a, b].Sublist l ∨ [b, a].Sublist l := by
  induction l with
  | nil => cases ha
  | cons c rest ih =>
    rcases List.mem_cons.mp ha with rfl | har
    · have hbr := (List.mem_cons.mp hb).resolve_left hne.symm
      exact .inl ((List.singleton_sublist.mpr hbr).cons_cons a)
    · rcases List.mem_cons.mp hb with rfl | hbr
      · exact .inr ((List.singleton_sublist.mpr har).cons_cons b)
      · exact (ih har hbr).imp (.cons c) (.cons c)

/-- A declared condition is known by its text. -/
theorem DeclaredCondition.ext_text {c d : DeclaredCondition} (h : c.text = d.text) : c = d := by
  obtain ⟨text, tree, hread⟩ := c
  obtain ⟨_, other, hother⟩ := d
  cases h
  rw [hread] at hother
  cases hother
  rfl

namespace Rule

/-- Two different paths that exclude each other are there. -/
def HasTwo (r : Rule) (scope : Value) : Prop :=
  ∃ path ∈ r.exclusivePaths, ∃ other ∈ r.exclusivePaths,
    path ≠ other ∧ scope.HasAt path ∧ scope.HasAt other

/-- Each path that is listed twice among those that exclude each other goes on below another one. -/
def CountsOnce (r : Rule) : Prop :=
  ∀ path, [path, path].Sublist r.exclusivePaths → ∃ other ∈ r.exclusivePaths, IsBelow path other

/-- Two rules ask alike: they differ at most in the order of the paths that they list, in how often
they list them, and in what they say when they are broken. -/
structure AsksAlike (r s : Rule) : Prop where
  /-- They are of one kind. -/
  kind : r.kind = s.kind
  /-- They have one condition. -/
  condition : r.condition.value?.map (·.text) = s.condition.value?.map (·.text)
  /-- They have one trigger. -/
  trigger : r.trigger.value? = s.trigger.value?
  /-- They require the same fields. -/
  requires : ∀ path, path ∈ r.requiredPaths ↔ path ∈ s.requiredPaths
  /-- They forbid the same fields. -/
  forbids : ∀ path, path ∈ r.forbiddenPaths ↔ path ∈ s.forbiddenPaths
  /-- They list the same fields that exclude each other. -/
  fields : ∀ path, path ∈ r.exclusivePaths ↔ path ∈ s.exclusivePaths

/-- Two rules are answered alike, and by what is there: of fields that exclude each other, two
different ones must not be. -/
structure AnswersAlike (handler : Option RuleHandler) (r s : Rule) : Prop where
  /-- On all data, the one rule is answered as the other one is. -/
  same : ∀ scope, r.holds handler scope = s.holds handler scope
  /-- Fields that exclude each other break the rule if and only if two different ones are there. -/
  excluded : r.kind = .mutualExclusion →
    ∀ scope, r.holds handler scope = .ok false ↔ r.HasTwo scope

variable {handler : Option RuleHandler} {scope : Value} {r s : Rule}

theorem hasTwo_congr (h : ∀ path, path ∈ r.exclusivePaths ↔ path ∈ s.exclusivePaths) :
    r.HasTwo scope ↔ s.HasTwo scope := by
  simp only [HasTwo, h]

theorem holds_eq_of_mutualExclusion (hr : r.kind = .mutualExclusion)
    (hs : s.kind = .mutualExclusion)
    (h : r.holds handler scope = .ok false ↔ s.holds handler scope = .ok false) :
    r.holds handler scope = s.holds handler scope := by
  rw [holds.eq_def, holds.eq_def, hr, hs] at h ⊢
  simp only [Except.ok.injEq, ← Bool.not_eq_true] at h ⊢
  exact Bool.eq_iff_iff.mpr (not_iff_not.mp h)

/-- Fields that exclude each other are counted as different ones exactly if each that is listed twice
is below another one. -/
theorem countsOnce_iff (hk : r.kind = .mutualExclusion) :
    (∀ scope, r.holds handler scope = .ok false ↔ r.HasTwo scope) ↔ r.CountsOnce := by
  simp only [mutualExclusion_eq_ok_false_iff hk]
  constructor
  · intro h path htwice
    have hkeys : IsDotted _ path := isDotted_iff.mpr rfl
    -- the data with nothing but the path counts it twice
    have hthere := (Value.hasAt_nested_iff hkeys).mpr (.inl rfl)
    obtain ⟨a, ha, b, hb, hne, hpa, hpb⟩ := (h _).mp ⟨path, path, htwice, hthere, hthere⟩
    rcases (Value.hasAt_nested_iff hkeys).mp hpa with rfl | hbelow
    · rcases (Value.hasAt_nested_iff hkeys).mp hpb with rfl | hbelow
      · exact absurd rfl hne
      · exact ⟨b, hb, hbelow⟩
    · exact ⟨a, ha, hbelow⟩
  · intro h scope
    constructor
    · rintro ⟨path, other, hsub, hp, ho⟩
      have hmp : path ∈ r.exclusivePaths := hsub.subset (by simp)
      by_cases heq : path = other
      · subst heq
        obtain ⟨above, hm, hbelow⟩ := h path hsub
        exact ⟨above, hm, path, hmp, hbelow.ne, hp.of_isBelow hbelow, hp⟩
      · exact ⟨path, hmp, other, hsub.subset (by simp), heq, hp, ho⟩
    · rintro ⟨path, hm, other, hmo, hne, hp, ho⟩
      rcases sublist_or_sublist_of_ne hm hmo hne with hsub | hsub
      · exact ⟨path, other, hsub, hp, ho⟩
      · exact ⟨other, path, hsub, ho, hp⟩

theorem countsOnce_congr (hk : r.kind = .mutualExclusion) (h : r.AsksAlike s)
    (hsame : ∀ scope, r.holds handler scope = s.holds handler scope) :
    r.CountsOnce ↔ s.CountsOnce := by
  have hr : (∀ scope, r.holds handler scope = .ok false ↔ r.HasTwo scope) ↔ r.CountsOnce :=
    countsOnce_iff hk
  have hs : (∀ scope, s.holds handler scope = .ok false ↔ s.HasTwo scope) ↔ s.CountsOnce :=
    countsOnce_iff (h.kind ▸ hk)
  rw [← hr, ← hs]
  simp only [hsame, hasTwo_congr h.fields]

/-- What is required and what is forbidden does not depend on how it is listed. -/
theorem AsksAlike.holds_eq (h : r.AsksAlike s) (hfields : r.kind ≠ .mutualExclusion)
    (hdecide : r.kind ≠ .custom) : r.holds handler scope = s.holds handler scope := by
  have hall : r.requiredPaths.all scope.isPresent = s.requiredPaths.all scope.isPresent := by
    rw [Bool.eq_iff_iff, List.all_eq_true, List.all_eq_true]
    simp only [h.requires]
  have hany : r.forbiddenPaths.any scope.isPresent = s.forbiddenPaths.any scope.isPresent := by
    rw [Bool.eq_iff_iff, List.any_eq_true, List.any_eq_true]
    simp only [h.forbids]
  cases hk : r.kind with
  | conditional =>
    have hcondition : r.condition.value? = s.condition.value? :=
      Option.map_injective (fun c d heq => DeclaredCondition.ext_text heq) h.condition
    rw [holds.eq_def, holds.eq_def, ← h.kind, hk, hall, hany, hcondition]
  | mutualExclusion => exact absurd hk hfields
  | dependency => rw [holds.eq_def, holds.eq_def, ← h.kind, hk, hall, h.trigger]
  | custom => exact absurd hk hdecide

/-- Rules that ask alike are answered alike if and only if those that exclude fields count each of
them once; what a handler decides is up to the handler, which is told of the whole rule. -/
theorem answersAlike_iff (h : r.AsksAlike s) :
    r.AnswersAlike handler s ↔
      (r.kind = .mutualExclusion → r.CountsOnce ∧ s.CountsOnce) ∧
        (r.kind = .custom → ∀ decide, handler = some decide →
          ∀ scope, decide r scope = decide s scope) := by
  constructor
  · rintro ⟨hsame, hexcluded⟩
    refine ⟨fun hk => ?_, fun hk decide hh scope => ?_⟩
    · have hr : r.CountsOnce := (countsOnce_iff hk).mp (hexcluded hk)
      exact ⟨hr, (countsOnce_congr hk h hsame).mp hr⟩
    · have heq := hsame scope
      rw [holds.eq_def, holds.eq_def, ← h.kind, hk, hh] at heq
      exact heq
  · rintro ⟨hfields, hdecide⟩
    have hexcluded (hk : r.kind = .mutualExclusion) (scope : Value) :
        r.holds handler scope = .ok false ↔ r.HasTwo scope :=
      (countsOnce_iff hk).mpr (hfields hk).1 scope
    refine ⟨fun scope => ?_, hexcluded⟩
    by_cases hk : r.kind = .mutualExclusion
    · have hs : s.holds handler scope = .ok false ↔ s.HasTwo scope :=
        (countsOnce_iff (h.kind ▸ hk)).mpr (hfields hk).2 scope
      exact holds_eq_of_mutualExclusion hk (h.kind ▸ hk)
        ((hexcluded hk scope).trans ((hasTwo_congr h.fields).trans hs.symm))
    · by_cases hc : r.kind = .custom
      · cases handler with
        | none => rw [holds.eq_def, holds.eq_def, ← h.kind, hc]
        | some decide =>
          rw [holds.eq_def, holds.eq_def, ← h.kind, hc]
          exact hdecide hc decide rfl scope
      · exact h.holds_eq hk hc

/-- A rule with nothing but fields that exclude each other. -/
def excluding (paths : List String) (h : ∀ path ∈ paths, isRulePath path = true) : Rule where
  kind := .mutualExclusion
  name := .undeclared
  condition := .undeclared
  requires := none
  forbids := none
  trigger := .undeclared
  fields := some (paths.pmap Subtype.mk h)
  errorMessage := .undeclared
  description := .undeclared

@[simp]
theorem exclusivePaths_excluding {paths : List String} (h : ∀ path ∈ paths, isRulePath path = true) :
    (excluding paths h).exclusivePaths = paths := by
  simp [exclusivePaths, excluding, List.map_pmap]

theorem excluding_asksAlike {paths others : List String} (h : ∀ path ∈ paths, isRulePath path = true)
    (ho : ∀ path ∈ others, isRulePath path = true) (hsame : ∀ path, path ∈ paths ↔ path ∈ others) :
    (excluding paths h).AsksAlike (excluding others ho) :=
  ⟨rfl, rfl, rfl, fun _ => Iff.rfl, fun _ => Iff.rfl, by simpa using hsame⟩

/-- A path may be listed twice if it goes on below another one: it is there only together with it. -/
theorem answersAlike_below :
    (excluding ["input.a", "input.a.b"] (by decide)).AsksAlike
        (excluding ["input.a.b", "input.a", "input.a.b"] (by decide)) ∧
      (excluding ["input.a", "input.a.b"] (by decide)).AnswersAlike none
        (excluding ["input.a.b", "input.a", "input.a.b"] (by decide)) := by
  have hask : (excluding ["input.a", "input.a.b"] (by decide)).AsksAlike
      (excluding ["input.a.b", "input.a", "input.a.b"] (by decide)) :=
    excluding_asksAlike _ _ (by simp [or_comm])
  have hbelow : IsBelow "input.a.b" "input.a" := ⟨"b", rfl⟩
  refine ⟨hask, (answersAlike_iff hask).mpr ⟨fun _ => ⟨fun path htwice => ?_, fun path htwice => ?_⟩,
    nofun⟩⟩
  · have hm := htwice.subset List.mem_cons_self
    simp only [exclusivePaths_excluding, List.mem_cons, List.not_mem_nil, or_false] at hm htwice
    rcases hm with rfl | rfl <;> exact absurd htwice (by decide)
  · have hm := htwice.subset List.mem_cons_self
    simp only [exclusivePaths_excluding, List.mem_cons, List.not_mem_nil, or_false] at hm htwice
    rcases hm with rfl | rfl | rfl
    · exact ⟨"input.a", by simp, hbelow⟩
    · exact absurd htwice (by decide)
    · exact ⟨"input.a", by simp, hbelow⟩

/-- On data that has a field, a rule that lists the field twice is broken, and one that lists it once
is not. -/
theorem not_answersAlike_repeated :
    ¬ ∀ (handler : Option RuleHandler) (r s : Rule), r.AsksAlike s → r.AnswersAlike handler s := by
  intro h
  have hask : (excluding ["input.a"] (by decide)).AsksAlike
      (excluding ["input.a", "input.a"] (by decide)) :=
    excluding_asksAlike _ _ (by simp)
  have hsame := (h none _ _ hask).same
    (.record [("input", .record [("a", .int 1)]), ("config", .record [])])
  have honce : (excluding ["input.a"] (by decide)).holds none
      (.record [("input", .record [("a", .int 1)]), ("config", .record [])]) = .ok true := by rfl
  have htwice : (excluding ["input.a", "input.a"] (by decide)).holds none
      (.record [("input", .record [("a", .int 1)]), ("config", .record [])]) = .ok false := by rfl
  rw [honce, htwice] at hsame
  cases hsame

end Rule

end Intake
