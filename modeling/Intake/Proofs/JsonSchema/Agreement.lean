import Intake.Proofs.Json.Alike
import Intake.Proofs.JsonSchema.Numbers

/-!
# Checks of values in which all numbers are numbers

A check of a value applies schemas to its parts, so two ways of making checks that agree on values in
which all numbers are numbers agree on such a value keyword by keyword. Of the keywords only the one
for items that differ looks at what is no number. Main statement: a value in which all numbers are
numbers violates the same things whether or not all that is no number is one thing.
-/

namespace Intake.JsonSchema

section Lists

variable {α β : Type} {l : List α}

theorem Findings.each_congr {f g : α → Findings} (h : ∀ a ∈ l, f a = g a) :
    Findings.each f l = Findings.each g l := by
  induction l with
  | nil => rfl
  | cons a rest ih =>
    obtain ⟨ha, hrest⟩ := List.forall_mem_cons.mp h
    rw [each_cons, each_cons, ha, ih hrest]

theorem filterM_congr {f g : α → Except Failure Bool} (h : ∀ a ∈ l, f a = g a) :
    l.filterM f = l.filterM g := by
  have hfrom (found : List α) : l.filterAuxM f found = l.filterAuxM g found := by
    induction l generalizing found with
    | nil => rfl
    | cons a rest ih =>
      obtain ⟨ha, hrest⟩ := List.forall_mem_cons.mp h
      simp only [List.filterAuxM, ha, ih hrest]
  rw [List.filterM, List.filterM, hfrom]

theorem anyM_congr {f g : α → Except Failure Bool} (h : ∀ a ∈ l, f a = g a) :
    l.anyM f = l.anyM g := by
  induction l with
  | nil => rfl
  | cons a rest ih =>
    obtain ⟨ha, hrest⟩ := List.forall_mem_cons.mp h
    rw [List.anyM, List.anyM, ha, ih hrest]

end Lists

namespace Checker

/-- Two checkers agree on values in which all numbers are numbers. -/
structure Agrees (c c' : Checker) : Prop where
  /-- References lead to the same schemas. -/
  library : c.library = c'.library
  /-- They find the same. -/
  findings : ∀ {part : Value}, part.hasNaN = false → ∀ scope schema,
    c.findings scope schema part = c'.findings scope schema part
  /-- They look at the same items. -/
  seenItems : ∀ {values : List Value}, itemsHaveNaN values = false → ∀ rules scope schema,
    c.seenItems rules scope schema values = c'.seenItems rules scope schema values
  /-- They look at the same keys. -/
  seenKeys : ∀ {parts : List (String × Value)}, entriesHaveNaN parts = false →
    ∀ rules scope schema, c.seenKeys rules scope schema parts = c'.seenKeys rules scope schema parts

namespace Agrees

variable {c c' : Checker} {part : Value}

theorem descend (h : c.Agrees c') (hp : part.hasNaN = false) (scope : Scope) (schema : Value) :
    c.descend scope schema part = c'.descend scope schema part := by
  cases schema <;> simp only [Checker.descend, h.findings hp]

theorem descendTo (h : c.Agrees c') (hp : part.hasNaN = false) (scope : Scope)
    (segment : PathSegment) (schema : Value) :
    c.descendTo scope segment schema part = c'.descendTo scope segment schema part := by
  cases schema <;> simp only [Checker.descendTo, h.descend hp]

theorem accepts (h : c.Agrees c') (hp : part.hasNaN = false) (scope : Scope) (schema : Value) :
    c.accepts scope schema part = c'.accepts scope schema part := by
  simp only [Checker.accepts, h.findings hp]

end Agrees

end Checker

/-! Keywords that apply schemas to the value itself. -/

section Whole

variable {c c' : Checker} (h : c.Agrees c') (x : Context) (expected : Value) {part : Value}
  (hp : part.hasNaN = false)

include h hp

theorem firstAccepted_congr (scope : Scope) (schemas : List Value) :
    firstAccepted c scope part schemas = firstAccepted c' scope part schemas := by
  induction schemas with
  | nil => rfl
  | cons schema rest ih => simp only [firstAccepted, h.descend hp, ih]

theorem hasTypeOrMatches_congr (types : List Value) :
    hasTypeOrMatches c x part types = hasTypeOrMatches c' x part types := by
  induction types with
  | nil => rfl
  | cons type rest ih =>
    unfold hasTypeOrMatches
    split
    · rfl
    · simp only [h.descend hp, ih]
    · simp only [ih]

theorem checkReference_congr : checkReference c x expected part = checkReference c' x expected part := by
  simp only [checkReference, h.library, h.findings hp]

theorem checkRecursiveReference_congr :
    checkRecursiveReference c x expected part = checkRecursiveReference c' x expected part := by
  simp only [checkRecursiveReference, h.library, h.findings hp]

theorem checkTypeOrSchema_congr :
    checkTypeOrSchema c x expected part = checkTypeOrSchema c' x expected part := by
  simp only [checkTypeOrSchema, hasTypeOrMatches_congr h x hp]

theorem checkAllOf_congr : checkAllOf c x expected part = checkAllOf c' x expected part := by
  simp only [checkAllOf, h.descend hp]

theorem checkExtends_congr : checkExtends c x expected part = checkExtends c' x expected part := by
  simp only [checkExtends, h.descend hp, checkAllOf_congr h x expected hp]

theorem checkAnyOf_congr : checkAnyOf c x expected part = checkAnyOf c' x expected part := by
  simp only [checkAnyOf, firstAccepted_congr h hp]

theorem checkOneOf_congr : checkOneOf c x expected part = checkOneOf c' x expected part := by
  simp only [checkOneOf, firstAccepted_congr h hp, h.accepts hp]

theorem checkNot_congr : checkNot c x expected part = checkNot c' x expected part := by
  simp only [checkNot, h.accepts hp]

theorem checkIf_congr : checkIf c x expected part = checkIf c' x expected part := by
  simp only [checkIf, h.accepts hp, h.descend hp]

theorem checkDisallow_congr : checkDisallow c x expected part = checkDisallow c' x expected part := by
  simp only [checkDisallow, h.accepts hp]

theorem checkDependencies_congr :
    checkDependencies c x expected part = checkDependencies c' x expected part := by
  have hrule (name : String) (rule : Value) (entries : List (String × Value)) :
      checkDependency c x name rule part entries = checkDependency c' x name rule part entries := by
    simp only [checkDependency, h.descend hp]
  simp only [checkDependencies, hrule]

theorem checkDependentSchemas_congr :
    checkDependentSchemas c x expected part = checkDependentSchemas c' x expected part := by
  simp only [checkDependentSchemas, h.descend hp]

end Whole

/-! Keywords that apply schemas to the parts of a value: where the value has no NaN, neither has a
part. -/

section Items

variable {c c' : Checker} (h : c.Agrees c') (x : Context) (expected : Value) {values : List Value}
  (hv : ∀ v ∈ values, v.hasNaN = false)

include h hv

theorem checkItemsFrom_congr (start : Nat) :
    checkItemsFrom c x expected start values = checkItemsFrom c' x expected start values := by
  refine Findings.each_congr fun item hm => ?_
  exact h.descendTo (hv item.1 (List.fst_mem_of_mem_zipIdx hm)) _ _ _

theorem checkTuple_congr (schemas : List Value) :
    checkTuple c x schemas values = checkTuple c' x schemas values := by
  refine Findings.each_congr fun pair hm => ?_
  have hitem := List.fst_mem_of_mem_zipIdx (List.of_mem_zip hm).2
  exact h.descendTo (hv pair.2.1 hitem) _ _ _

theorem countAccepted_congr (scope : Scope) (limit : Value) (count : Nat) :
    countAccepted (c.accepts scope expected) limit count values =
      countAccepted (c'.accepts scope expected) limit count values := by
  induction values generalizing count with
  | nil => rfl
  | cons item rest ih =>
    obtain ⟨hitem, hrest⟩ := List.forall_mem_cons.mp hv
    simp only [countAccepted, h.accepts hitem, ih hrest]

end Items

section Parts

variable {c c' : Checker} (h : c.Agrees c') (x : Context) (expected : Value) {part : Value}
  (hp : part.hasNaN = false)

include h hp

theorem checkRest_congr : checkRest c x expected part = checkRest c' x expected part := by
  cases part with
  | list values =>
    have hrest (before : Nat) (v : Value) (hm : v ∈ values.drop before) : v.hasNaN = false :=
      hasNaN_of_mem hp (List.mem_of_mem_drop hm)
    refine congrArg Findings.ofExcept (bind_congr fun before => ?_)
    dsimp only
    split
    · rfl
    · rfl
    · rw [checkItemsFrom_congr h x _ (hrest before)]
  | _ => rfl

theorem checkItems_congr : checkItems c x expected part = checkItems c' x expected part := by
  cases part with
  | list values =>
    have hv (v : Value) (hm : v ∈ values) : v.hasNaN = false := hasNaN_of_mem hp hm
    simp only [checkItems, checkTuple_congr h x hv, checkItemsFrom_congr h x _ hv]
  | _ => rfl

theorem checkPrefixItems_congr :
    checkPrefixItems c x expected part = checkPrefixItems c' x expected part := by
  cases part with
  | list values =>
    have hv (v : Value) (hm : v ∈ values) : v.hasNaN = false := hasNaN_of_mem hp hm
    simp only [checkPrefixItems, checkTuple_congr h x hv]
  | _ => rfl

theorem checkAdditionalItems_congr :
    checkAdditionalItems c x expected part = checkAdditionalItems c' x expected part := by
  cases part with
  | list values =>
    have hrest (before : Nat) (v : Value) (hm : v ∈ values.drop before) : v.hasNaN = false :=
      hasNaN_of_mem hp (List.mem_of_mem_drop hm)
    simp only [checkAdditionalItems, checkItemsFrom_congr h x _ (hrest _)]
  | _ => rfl

theorem checkSome_congr : checkSome c x expected part = checkSome c' x expected part := by
  cases part with
  | list values =>
    have hany : values.anyM (c.accepts x.scope expected) = values.anyM (c'.accepts x.scope expected) :=
      anyM_congr fun v hm => h.accepts (hasNaN_of_mem hp hm) _ _
    simp only [checkSome, hany]
  | _ => rfl

theorem checkCounted_congr : checkCounted c x expected part = checkCounted c' x expected part := by
  cases part with
  | list values =>
    have hv (v : Value) (hm : v ∈ values) : v.hasNaN = false := hasNaN_of_mem hp hm
    simp only [checkCounted, countAccepted_congr h _ hv]
  | _ => rfl

theorem checkContains_congr : checkContains c x expected part = checkContains c' x expected part := by
  simp only [checkContains]
  split
  · exact checkCounted_congr h x expected hp
  · exact checkSome_congr h x expected hp

theorem checkProperties_congr :
    checkProperties c x expected part = checkProperties c' x expected part := by
  cases part with
  | record entries =>
    refine congrArg Findings.ofExcept (bind_congr fun schemas => congrArg _ ?_)
    refine Findings.each_congr fun rule _ => ?_
    cases hlookup : entries.lookup rule.1 with
    | none => rfl
    | some value =>
      exact h.descendTo (hasNaN_of_mem_entries hp (mem_of_lookup hlookup)) _ _ _
  | _ => rfl

theorem checkPatternProperties_congr :
    checkPatternProperties c x expected part = checkPatternProperties c' x expected part := by
  cases part with
  | record entries =>
    refine congrArg Findings.ofExcept (bind_congr fun schemas => congrArg _ ?_)
    refine Findings.each_congr fun rule _ => Findings.each_congr fun entry hm => ?_
    simp only [h.descendTo (hasNaN_of_mem_entries hp hm)]
  | _ => rfl

omit hp in
theorem checkPropertyNames_congr :
    checkPropertyNames c x expected part = checkPropertyNames c' x expected part := by
  have hname (name : String) : (Value.text name).hasNaN = false := rfl
  simp only [checkPropertyNames, h.descend (hname _)]

theorem checkAdditionalProperties_congr :
    checkAdditionalProperties c x expected part = checkAdditionalProperties c' x expected part := by
  cases part with
  | record entries =>
    have hvalue (key : String) : ((entries.lookup key).getD .null).hasNaN = false := by
      cases hlookup : entries.lookup key with
      | none => rfl
      | some value => exact hasNaN_of_mem_entries hp (mem_of_lookup hlookup)
    simp only [checkAdditionalProperties, h.descendTo (hvalue _)]
  | _ => rfl

theorem checkUnevaluatedItems_congr :
    checkUnevaluatedItems c x expected part = checkUnevaluatedItems c' x expected part := by
  cases part with
  | list values =>
    have hp : itemsHaveNaN values = false := hp
    simp only [checkUnevaluatedItems, h.seenItems hp]
  | _ => rfl

theorem checkUnevaluatedProperties_congr :
    checkUnevaluatedProperties c x expected part = checkUnevaluatedProperties c' x expected part := by
  cases part with
  | record entries =>
    have hp : entriesHaveNaN entries = false := hp
    have hviolated (parts : List (String × Value)) (hm : ∀ entry ∈ parts, entry ∈ entries) :
        violatedKeys c x expected parts = violatedKeys c' x expected parts := by
      induction parts with
      | nil => rfl
      | cons entry rest ih =>
        obtain ⟨hentry, hrest⟩ := List.forall_mem_cons.mp hm
        simp only [violatedKeys, h.descendTo (hasNaN_of_mem_entries hp hentry), ih hrest]
    refine congrArg Findings.ofExcept ?_
    rw [h.seenKeys hp]
    refine bind_congr fun seen => ?_
    rw [hviolated _ fun entry hentry => List.mem_of_mem_filter hentry]
  | _ => rfl

end Parts

namespace Checker

section Seen

variable {α : Type} {c c' : Checker} (h : c.Agrees c') (rules : Dialect) (scope : Scope)
  (schema : Value) (entries : List (String × Value)) {part : Value}

include h

theorem seenThroughReferences_congr (see : Scope → Value → Except Failure (List α)) :
    c.seenThroughReferences rules scope schema see =
      c'.seenThroughReferences rules scope schema see := by
  simp only [seenThroughReferences, h.library]

theorem seenConditionally_congr (hp : part.hasNaN = false)
    (see : Value → Except Failure (List α)) :
    c.seenConditionally scope entries part see = c'.seenConditionally scope entries part see := by
  simp only [seenConditionally, h.accepts hp]

theorem seenByListed_congr (hp : part.hasNaN = false) (see : Value → Except Failure (List α)) :
    c.seenByListed scope entries part see = c'.seenByListed scope entries part see := by
  have hseen (schemas : List Value) :
      c.seenByAccepting scope part see schemas = c'.seenByAccepting scope part see schemas := by
    induction schemas with
    | nil => rfl
    | cons schema rest ih => simp only [seenByAccepting, h.descend hp, ih]
  simp only [seenByListed, hseen]

theorem itemsSeen_congr {values : List Value} (hp : itemsHaveNaN values = false) :
    c.itemsSeen rules scope schema values = c'.itemsSeen rules scope schema values := by
  have haccepts (schema : Value) :
      values.zipIdx.filterM (fun item => c.accepts scope schema item.1) =
        values.zipIdx.filterM (fun item => c'.accepts scope schema item.1) :=
    filterM_congr fun item hm => h.accepts (hasNaN_of_mem hp (List.fst_mem_of_mem_zipIdx hm)) _ _
  have hlist : (Value.list values).hasNaN = false := hp
  simp only [itemsSeen, acceptedItems, haccepts, h.seenItems hp,
    seenThroughReferences_congr h, seenConditionally_congr h _ _ hlist,
    seenByListed_congr h _ _ hlist]

theorem keysSeen_congr {parts : List (String × Value)} (hp : entriesHaveNaN parts = false) :
    c.keysSeen rules scope schema parts = c'.keysSeen rules scope schema parts := by
  have hdescend (schema : Value) :
      parts.filterM (fun part => (c.descend scope schema part.2).isValid) =
        parts.filterM (fun part => (c'.descend scope schema part.2).isValid) :=
    filterM_congr fun part hm => by rw [h.descend (hasNaN_of_mem_entries hp hm)]
  have hrecord : (Value.record parts).hasNaN = false := hp
  simp only [keysSeen, keysAccepted, hdescend, h.seenKeys hp, seenThroughReferences_congr h,
    seenConditionally_congr h _ _ hrecord, seenByListed_congr h _ _ hrecord]

end Seen

end Checker

section Keywords

variable {c c' : Checker} (h : c.Agrees c') {part : Value} (hp : part.hasNaN = false)

include h hp

theorem applicator_congr {d : Dialect} {keyword : String} {apply : Applicator}
    (hap : applicator? d keyword = some apply) (x : Context) (expected : Value) :
    apply c x expected part = apply c' x expected part := by
  -- one case for each keyword, in the order of the definition
  unfold applicator? at hap
  split at hap
  all_goals cases hap
  · exact checkReference_congr h x expected hp
  · exact checkReference_congr h x expected hp
  · exact checkRecursiveReference_congr h x expected hp
  · exact checkTypeOrSchema_congr h x expected hp
  · split
    · exact checkRest_congr h x expected hp
    · exact checkItems_congr h x expected hp
  · exact checkPrefixItems_congr h x expected hp
  · exact checkAdditionalItems_congr h x expected hp
  · exact checkContains_congr h x expected hp
  · exact checkProperties_congr h x expected hp
  · exact checkPatternProperties_congr h x expected hp
  · exact checkPropertyNames_congr h x expected
  · exact checkAdditionalProperties_congr h x expected hp
  · exact checkDependencies_congr h x expected hp
  · exact checkDependentSchemas_congr h x expected hp
  · exact checkAllOf_congr h x expected hp
  · exact checkAnyOf_congr h x expected hp
  · exact checkOneOf_congr h x expected hp
  · exact checkNot_congr h x expected hp
  · exact checkIf_congr h x expected hp
  · exact checkExtends_congr h x expected hp
  · exact checkDisallow_congr h x expected hp
  · exact checkUnevaluatedItems_congr h x expected hp
  · exact checkUnevaluatedProperties_congr h x expected hp

end Keywords

section Sharing

variable (c : Checker) (x : Context) (shares : Bool) (expected part : Value)

theorem checkTypeOrSchema_sharing : checkTypeOrSchema c x expected part =
    checkTypeOrSchema c { x with sharesNaN := shares } expected part := by
  have htypes (types : List Value) : hasTypeOrMatches c x part types =
      hasTypeOrMatches c { x with sharesNaN := shares } part types := by
    induction types with
    | nil => rfl
    | cons type rest ih =>
      unfold hasTypeOrMatches
      rw [ih]
      rfl
  simp only [checkTypeOrSchema, htypes]
  rfl

theorem checkUnevaluatedProperties_sharing : checkUnevaluatedProperties c x expected part =
    checkUnevaluatedProperties c { x with sharesNaN := shares } expected part := by
  have hkeys (entries : List (String × Value)) : violatedKeys c x expected entries =
      violatedKeys c { x with sharesNaN := shares } expected entries := by
    induction entries with
    | nil => rfl
    | cons entry rest ih => simp only [violatedKeys, ih]
  cases part with
  | record entries =>
    simp only [checkUnevaluatedProperties, hkeys]
    rfl
  | _ => rfl

/-- No keyword that applies schemas looks at what is no number by itself. -/
theorem applicator_sharing {d : Dialect} {keyword : String} {apply : Applicator}
    (hap : applicator? d keyword = some apply) :
    apply c x expected part = apply c { x with sharesNaN := shares } expected part := by
  unfold applicator? at hap
  split at hap
  all_goals
    cases hap
    try first
      | rfl
      | exact checkTypeOrSchema_sharing c x shares expected part
      | exact checkUnevaluatedProperties_sharing c x shares expected part
      | split <;> rfl

variable {part}

/-- What is no number matters only for whether items differ. -/
theorem assertion_sharing (hp : part.hasNaN = false) {keyword : String} {assert : Assertion}
    (has : assertion? keyword = some assert) :
    assert x expected part = assert { x with sharesNaN := shares } expected part := by
  have hunique : checkUnique x expected part =
      checkUnique { x with sharesNaN := shares } expected part := by
    cases part with
    | list items => simp only [checkUnique, Value.areDistinct_eq hp x.sharesNaN shares]
    | _ => rfl
  unfold assertion? at has
  split at has
  all_goals
    cases has
    try first
      | rfl
      | exact hunique

end Sharing

section Check

variable {c c' : Checker} (h : c.Agrees c') {part : Value} (hp : part.hasNaN = false)
  (checksFormats shares shares' : Bool)

include h hp

theorem checkKeyword_congr (x : Context) (keyword : String) (expected : Value) :
    checkKeyword c x keyword expected part =
      checkKeyword c' { x with sharesNaN := shares } keyword expected part := by
  refine congrArg (ite _ Findings.none) ?_
  simp only [Context.dialect]
  cases hap : applicator? x.scope.dialect keyword with
  | some apply =>
    exact (applicator_congr h hp hap x expected).trans
      (applicator_sharing c' x shares expected part hap)
  | none =>
    cases has : assertion? keyword with
    | some assert => exact assertion_sharing x shares expected hp has
    | none => rfl

theorem findingsBy_congr (reader : Dialect) (scope : Scope) (schema : Value) :
    findingsBy c ⟨checksFormats, shares⟩ reader scope schema part =
      findingsBy c' ⟨checksFormats, shares'⟩ reader scope schema part := by
  unfold findingsBy
  split
  · rfl
  · rfl
  · refine congrArg Findings.ofExcept ?_
    refine bind_congr fun counting => bind_congr fun entries => congrArg _ ?_
    exact Findings.each_congr fun entry _ => checkKeyword_congr h hp shares' _ _ _

theorem findingsOf_congr (scope : Scope) (schema : Value) :
    findingsOf c ⟨checksFormats, shares⟩ scope schema part =
      findingsOf c' ⟨checksFormats, shares'⟩ scope schema part := by
  simp only [findingsOf, findingsBy_congr h hp checksFormats shares shares']

end Check

/-- By induction on the depth: the checkers below agree, so that what is found, and the items and keys
that are looked at, are the same. -/
theorem Checker.within_agrees (library : Library) (checksFormats shares shares' : Bool) (depth : Nat) :
    (Checker.within library ⟨checksFormats, shares⟩ depth).Agrees
      (Checker.within library ⟨checksFormats, shares'⟩ depth) := by
  induction depth with
  | zero => exact ⟨rfl, fun _ _ _ => rfl, fun _ _ _ _ => rfl, fun _ _ _ _ => rfl⟩
  | succ depth ih =>
    exact ⟨rfl, fun hp => findingsOf_congr ih hp checksFormats shares shares',
      fun hv rules scope schema => itemsSeen_congr ih rules scope schema hv,
      fun hv rules scope schema => keysSeen_congr ih rules scope schema hv⟩

/-- A value in which all numbers are numbers violates the same things in a schema whether or not all
that is no number is one thing. -/
theorem violations_eq {v : Value} (h : v.hasNaN = false) (schema : Value) (shares shares' : Bool) :
    violations schema shares v = violations schema shares' v := by
  have hcheck : check schema ⟨false, shares⟩ v = check schema ⟨false, shares'⟩ v := by
    refine congrArg Findings.ofExcept (bind_congr fun library => congrArg _ ?_)
    exact findingsBy_congr (Checker.within_agrees library false shares shares' depthLimit) h
      false shares shares' .draft7 _ schema
  rw [violations, violations, hcheck]

end Intake.JsonSchema
