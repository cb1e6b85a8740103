import Intake.Proofs.Json.Sameness
import Intake.Proofs.Validation.Locality
import Intake.Proofs.Validation.Codes
import Intake.Proofs.Validation.Order

/-!
# Items that repeat earlier ones

A list whose items must differ is told the indices of those that have the canonical text of an earlier
one, once everything else is right. Main statement: for JSON items these are the indices of what
matches an earlier item, the numbers in the two being the same. They are the indices of what is equal
to an earlier item exactly if no two items are equal that are written with different numbers.
-/

namespace Intake

/-- The item at an index is like one before it. -/
def RepeatsAt (alike : Value → Value → Prop) (items : List Value) (i : Nat) : Prop :=
  ∃ j v w, j < i ∧ items[j]? = some v ∧ items[i]? = some w ∧ alike v w

/-- Two values have the same canonical text. -/
def SameText (v w : Value) : Prop := Json.canonical v = Json.canonical w

/-- Indices are listed in ascending order, and they are those of the items that are like one before
them. -/
structure ListsRepeats (alike : Value → Value → Prop) (items : List Value) (repeated : List Nat) :
    Prop where
  /-- The order is ascending. -/
  ascending : repeated.Pairwise (· < ·)
  /-- What is listed is like an item before it, and nothing else is. -/
  mem_iff : ∀ i, i ∈ repeated ↔ RepeatsAt alike items i

section

variable {alike : Value → Value → Prop} {items : List Value} {i : Nat}

theorem RepeatsAt.lt_length (h : RepeatsAt alike items i) : i < items.length := by
  obtain ⟨_, _, w, -, -, hi, -⟩ := h
  exact (List.getElem?_eq_some_iff.mp hi).1

theorem RepeatsAt.imp {more : Value → Value → Prop} (h : RepeatsAt alike items i)
    (himp : ∀ v ∈ items, ∀ w ∈ items, alike v w → more v w) : RepeatsAt more items i := by
  obtain ⟨j, v, w, hj, hv, hw, halike⟩ := h
  exact ⟨j, v, w, hj, hv, hw, himp v (List.mem_of_getElem? hv) w (List.mem_of_getElem? hw) halike⟩

/-- An item repeats if it is like one of those before it. -/
theorem repeatsAt_append_cons (earlier rest : List Value) (v : Value) :
    RepeatsAt alike (earlier ++ v :: rest) earlier.length ↔ ∃ w ∈ earlier, alike w v := by
  constructor
  · rintro ⟨j, w, v', hj, hw, hv, halike⟩
    rw [List.getElem?_append_left hj] at hw
    rw [List.getElem?_append_right (Nat.le_refl _), Nat.sub_self] at hv
    cases hv
    exact ⟨w, List.mem_of_getElem? hw, halike⟩
  · rintro ⟨w, hm, halike⟩
    obtain ⟨j, hw⟩ := List.mem_iff_getElem?.mp hm
    have hj : j < earlier.length := (List.getElem?_eq_some_iff.mp hw).1
    refine ⟨j, w, v, hj, ?_, ?_, halike⟩
    · rwa [List.getElem?_append_left hj]
    · rw [List.getElem?_append_right (Nat.le_refl _), Nat.sub_self]
      rfl

end

/-- Where the texts of the items before are those that were seen, the indices found are those of
items that have the text of one before them. -/
theorem mem_repeatedFrom_iff {seen : List (List Char)} {earlier : List Value} (rest : List Value)
    (hseen : ∀ text, text ∈ seen ↔ ∃ w ∈ earlier, Json.canonical w = text) (k : Nat) :
    k ∈ repeatedFrom seen earlier.length rest ↔
      earlier.length ≤ k ∧ RepeatsAt SameText (earlier ++ rest) k := by
  induction rest generalizing seen earlier with
  | nil =>
    simp only [repeatedFrom, List.not_mem_nil, List.append_nil, false_iff, not_and]
    exact fun hk h => absurd h.lt_length (Nat.not_lt.mpr hk)
  | cons v rest ih =>
    have hv : RepeatsAt SameText (earlier ++ v :: rest) earlier.length ↔ Json.canonical v ∈ seen :=
      (repeatsAt_append_cons earlier rest v).trans (hseen _).symm
    -- The rest starts with the first item among those before it.
    have hrest {seen' : List (List Char)}
        (hseen' : ∀ text, text ∈ seen' ↔ text ∈ seen ∨ text = Json.canonical v) :
        k ∈ repeatedFrom seen' (earlier.length + 1) rest ↔
          earlier.length + 1 ≤ k ∧ RepeatsAt SameText (earlier ++ v :: rest) k := by
      have h := @ih seen' (earlier ++ [v]) fun text => by
        simp only [hseen', hseen, List.mem_append, List.mem_singleton, or_and_right, exists_or,
          exists_eq_left, eq_comm (a := text)]
      rwa [List.length_append, List.length_singleton, List.append_assoc, List.singleton_append] at h
    rw [repeatedFrom]
    by_cases hm : Json.canonical v ∈ seen
    · rw [if_pos (List.contains_iff_mem.mpr hm), List.mem_cons, hrest (by simp [hm])]
      constructor
      · rintro (rfl | ⟨hk, h⟩)
        · exact ⟨Nat.le_refl _, hv.mpr hm⟩
        · exact ⟨by omega, h⟩
      · rintro ⟨hk, h⟩
        exact (Nat.eq_or_lt_of_le hk).imp Eq.symm fun hlt => ⟨hlt, h⟩
    · rw [if_neg (mt List.contains_iff_mem.mp hm), hrest (by simp [or_comm])]
      constructor
      · rintro ⟨hk, h⟩
        exact ⟨by omega, h⟩
      · rintro ⟨hk, h⟩
        exact ⟨Nat.lt_of_le_of_ne hk fun heq => hm (hv.mp (heq ▸ h)), h⟩

/-- The indices found from a start on ascend. -/
theorem repeatedFrom_ascending (seen : List (List Char)) (i : Nat) (items : List Value) :
    (repeatedFrom seen i items).Pairwise (· < ·) ∧ ∀ k ∈ repeatedFrom seen i items, i ≤ k := by
  induction items generalizing seen i with
  | nil => simp [repeatedFrom]
  | cons v rest ih =>
    rw [repeatedFrom]
    split
    · obtain ⟨hascending, hstart⟩ := ih seen (i + 1)
      refine ⟨List.pairwise_cons.mpr ⟨hstart, hascending⟩, fun k hk => ?_⟩
      rcases List.mem_cons.mp hk with rfl | hk
      · exact Nat.le_refl _
      · exact Nat.le_of_lt (hstart k hk)
    · obtain ⟨hascending, hstart⟩ := ih (Json.canonical v :: seen) (i + 1)
      exact ⟨hascending, fun k hk => Nat.le_of_lt (hstart k hk)⟩

/-- The indices of repeated items are those of items that have the text of one before them. -/
theorem listsRepeats_repeatedIndices (items : List Value) :
    ListsRepeats SameText items (repeatedIndices items) where
  ascending := (repeatedFrom_ascending [] 0 items).1
  mem_iff i := by
    have h := @mem_repeatedFrom_iff [] [] items (by simp) i
    simpa [repeatedIndices] using h

/-- A rule that lets items repeat. -/
def ListRule.allowingRepeats (rule : ListRule) : ListRule := { rule with unique := false }

namespace Check

/-- What a check asks of a list, its items apart. -/
def listRule? : Check → Option ListRule
  | .leaf _ (.anyList rule) => some rule
  | .listOf _ rule _ => some rule
  | _ => none

/-- A check that lets the items of its list repeat. -/
def allowingRepeats : Check → Check
  | .leaf subject (.anyList rule) => .leaf subject (.anyList rule.allowingRepeats)
  | .listOf subject rule item => .listOf subject rule.allowingRepeats item
  | check => check

end Check

namespace Check

variable {options : Options} {path : DataPath} {items : List Value}

/-- If a rule for lists of anything passes a list but for repeated items, then it finds these. -/
theorem exists_run_anyList {subject : Subject} {rule : ListRule}
    (h : Passes ((leaf subject (.anyList rule.allowingRepeats)).run options path (.list items))) :
    ∃ o, (leaf subject (.anyList rule)).run options path (.list items) = .ok o ∧
      o.issues = rule.repetitionIssues ⟨subject, options, path⟩ items := by
  obtain ⟨passed, hpassed, hnil⟩ := h
  rw [run_leaf] at hpassed ⊢
  obtain ⟨found, hfound, rfl⟩ := exists_of_map_eq_ok hpassed
  obtain ⟨hissues, hmembers⟩ := Site.withMembers_of_passes hnil
  have hsizes : rule.sizeIssues ⟨subject, options, path⟩ items.length = [] := by
    obtain ⟨_, hlist, hsizes, -⟩ :=
      (LeafRule.run_anyList_passes_iff _ _ _).mp ⟨found, hfound, hissues⟩
    cases hlist
    exact hsizes
  simp only [LeafRule.run, hsizes]
  exact ⟨_, congrArg Except.ok (hmembers _), rfl⟩

/-- If a rule for lists of items passes a list but for repeated items, then it finds these. -/
theorem exists_run_listOf {subject : Subject} {rule : ListRule} {item : Check}
    (h : Passes ((listOf subject rule.allowingRepeats item).run options path (.list items))) :
    ∃ o, (listOf subject rule item).run options path (.list items) = .ok o ∧
      o.issues = rule.repetitionIssues ⟨subject, options, path⟩ items := by
  obtain ⟨passed, hpassed, hnil⟩ := h
  rw [run_listOf_list] at hpassed ⊢
  obtain ⟨closed, hclosed, rfl⟩ := exists_of_map_eq_ok hpassed
  obtain ⟨found, hfound, rfl⟩ := exists_of_map_eq_ok hclosed
  obtain ⟨hissues, hmembers⟩ := Site.withMembers_of_passes hnil
  obtain ⟨hbefore, -⟩ := List.append_eq_nil_iff.mp hissues
  refine ⟨rule.close ⟨subject, options, path⟩ items found, ?_, ?_⟩
  · rw [show rule.sizeIssues ⟨subject, options, path⟩ items.length =
      rule.allowingRepeats.sizeIssues ⟨subject, options, path⟩ items.length from rfl, hfound]
    exact congrArg Except.ok (hmembers _)
  · change rule.sizeIssues _ _ ++ found.issues = [] at hbefore
    simp [ListRule.close, hbefore]

/-- If a check passes a list but for repeated items, then it finds these. -/
theorem exists_run_of_allowingRepeats {check : Check} {rule : ListRule}
    (hrule : check.listRule? = some rule)
    (h : Passes (check.allowingRepeats.run options path (.list items))) :
    ∃ o, check.run options path (.list items) = .ok o ∧
      o.issues = rule.repetitionIssues ⟨check.subject, options, path⟩ items := by
  cases check with
  | leaf subject found =>
    cases found with
    | anyList _ =>
      cases hrule
      exact exists_run_anyList h
    | _ => cases hrule
  | listOf subject _ item =>
    cases hrule
    exact exists_run_listOf h
  | recordOf subject _ properties => cases hrule

end Check

namespace Definition

variable {d : Definition} {label : String} {check : Check}

/-- A definition of a list whose items may repeat. -/
def withoutUniqueness (d : Definition) : Definition :=
  { d with attributes := { d.attributes with uniqueItems := none } }

/-- The check of a definition of lists is one of a list. -/
theorem listRule?_of_compile (hk : d.kind = .array) (hc : d.compile label = .ok check) :
    check.listRule? = some (Compile.listRule d.attributes) ∧
      d.withoutUniqueness.compile label = .ok check.allowingRepeats := by
  rcases d.shape with ⟨-, item, hi⟩ | ⟨hk', -⟩ | hw
  · obtain ⟨part, hpart, rfl⟩ := exists_of_compile_items hk hi hc
    exact ⟨rfl, compile_of_item (d := d.withoutUniqueness) hk hi hpart⟩
  · cases hk.symm.trans hk'
  · have hkind : d.attributes.kind = .array := hk
    obtain ⟨rule, hrule, rfl⟩ := exists_of_compile_whole hw hc
    rw [Compile.leafRule, hkind] at hrule
    cases hrule
    refine ⟨rfl, ?_⟩
    rw [compile_of_whole (d := d.withoutUniqueness) ⟨hw.items, hw.properties⟩, Compile.leafRule,
      show d.withoutUniqueness.attributes.kind = .array from hk]
    rfl

end Definition

/-- A result on a list tells of items that are like earlier ones: it reports at the list that items
repeat exactly if one is like an earlier one, and with this lists the indices of all that are. -/
def TellsRepeats (alike : Value → Value → Prop) (path : DataPath) (items : List Value)
    (result : Except Failure Outcome) : Prop :=
  ∃ o, result = .ok o ∧ (ReportedAt path .notUnique o.issues ↔ ∃ i, RepeatsAt alike items i) ∧
    ∀ issue ∈ o.issues, issue.path = path → issue.code = .notUnique →
      ∃ repeated : List Nat, ListsRepeats alike items repeated ∧
        issue.context = some [("duplicates", .list (repeated.map fun i : Nat => .int i))]

section

variable {alike other : Value → Value → Prop} {path : DataPath} {items : List Value}
  {result : Except Failure Outcome}

/-- What tells of one likeness tells of another one under which the same items repeat. -/
theorem TellsRepeats.congr (h : TellsRepeats alike path items result)
    (hsame : ∀ i, RepeatsAt alike items i ↔ RepeatsAt other items i) :
    TellsRepeats other path items result := by
  obtain ⟨o, hresult, hreported, hlists⟩ := h
  refine ⟨o, hresult, hreported.trans (exists_congr hsame), fun issue hm hpath hcode => ?_⟩
  obtain ⟨repeated, ⟨hascending, hmem⟩, hcontext⟩ := hlists issue hm hpath hcode
  exact ⟨repeated, ⟨hascending, fun i => (hmem i).trans (hsame i)⟩, hcontext⟩

/-- Under all likenesses that a result tells of, the same items repeat. -/
theorem TellsRepeats.unique (h : TellsRepeats alike path items result)
    (ho : TellsRepeats other path items result) (i : Nat) :
    RepeatsAt alike items i ↔ RepeatsAt other items i := by
  obtain ⟨o, rfl, hreported, hlists⟩ := h
  obtain ⟨o', ho', hreported', hlists'⟩ := ho
  cases ho'
  by_cases hat : ReportedAt path .notUnique o.issues
  · obtain ⟨issue, hm, hpath, hcode⟩ := hat
    obtain ⟨repeated, hrepeated, hcontext⟩ := hlists issue hm hpath hcode
    obtain ⟨repeated', hrepeated', hcontext'⟩ := hlists' issue hm hpath hcode
    have hinjective : Function.Injective fun i : Nat => Value.int i := fun i j hij => by
      simpa [Value.int] using hij
    have heq : repeated = repeated' := hinjective.list_map (by
      simpa using hcontext.symm.trans hcontext')
    rw [← hrepeated.mem_iff, ← hrepeated'.mem_iff, heq]
  · exact iff_of_false (fun h => hat (hreported.mpr ⟨i, h⟩)) fun h => hat (hreported'.mpr ⟨i, h⟩)

/-- The issues of a rule that lets no items repeat tell of those with the same text. -/
theorem tellsRepeats_of_issues {subject : Subject} {options : Options} {rule : ListRule} {o : Outcome}
    (hunique : rule.unique = true)
    (hissues : o.issues = rule.repetitionIssues ⟨subject, options, path⟩ items) :
    TellsRepeats SameText path items (.ok o) := by
  have hlists := listsRepeats_repeatedIndices items
  rw [ListRule.repetitionIssues, if_pos hunique] at hissues
  refine ⟨o, rfl, ?_, fun issue hm _ _ => ?_⟩
  · rw [hissues, reportedAt_issueIf]
    simp only [Site.issueWith, Site.issue, and_true, ← hlists.mem_iff]
    simp [List.eq_nil_iff_forall_not_mem]
  · rw [hissues] at hm
    exact forall_mem_issueIf (P := fun issue => ∃ repeated : List Nat,
      ListsRepeats SameText items repeated ∧
        issue.context = some [("duplicates", .list (repeated.map fun i : Nat => .int i))])
      _ ⟨_, hlists, rfl⟩ issue hm

end

/-- A list whose items must differ, and which is right in all else, is told of the items that match
an earlier one, the numbers in the two being the same. It is told of those that are equal to an earlier
one exactly if all of these match an earlier one. -/
theorem Definition.tellsRepeats_iff {d : Definition} {label : String} {check apart : Check}
    (hk : d.kind = .array) (hunique : d.attributes.uniqueItems = some true)
    (hc : d.compile label = .ok check) (ha : d.withoutUniqueness.compile label = .ok apart)
    {options : Options} {path : DataPath} {items : List Value}
    (hjson : ∀ v ∈ items, v.isJson = true) (hkeys : ∀ v ∈ items, v.keysDiffer = true)
    (hpasses : Passes (apart.run options path (.list items))) :
    TellsRepeats (fun v w => v.matchesWritten w = true) path items
        (check.run options path (.list items)) ∧
      (TellsRepeats (fun v w => v.matchesJson w = true) path items
          (check.run options path (.list items)) ↔
        ∀ i, RepeatsAt (fun v w => v.matchesJson w = true) items i →
          RepeatsAt (fun v w => v.matchesWritten w = true) items i) := by
  obtain ⟨hrule, happly⟩ := listRule?_of_compile hk hc
  cases happly.symm.trans ha
  obtain ⟨o, hrun, hissues⟩ := Check.exists_run_of_allowingRepeats hrule hpasses
  have htext : TellsRepeats SameText path items (check.run options path (.list items)) :=
    hrun ▸ tellsRepeats_of_issues (by rw [Compile.listRule, hunique]; rfl) hissues
  have hwritten : TellsRepeats (fun v w => v.matchesWritten w = true) path items
      (check.run options path (.list items)) := by
    have hiff (v : Value) (hv : v ∈ items) (w : Value) (hw : w ∈ items) :
        SameText v w ↔ v.matchesWritten w = true :=
      Json.canonical_eq_iff (hjson v hv) (hjson w hw) (hkeys v hv) (hkeys w hw)
    exact htext.congr fun i => ⟨fun h => h.imp fun v hv w hw => (hiff v hv w hw).mp,
      fun h => h.imp fun v hv w hw => (hiff v hv w hw).mpr⟩
  refine ⟨hwritten, fun h i => (h.unique hwritten i).mp, fun h => hwritten.congr fun i => ⟨fun hi =>
    hi.imp fun v hv w _ => Value.matchesJson_of_matchesWritten (hjson v hv), h i⟩⟩

/-- A list whose items must differ. -/
def distinctList : Definition :=
  ⟨{ FieldAttributes.ofKind .array with uniqueItems := some true }, .undeclared, .undeclared⟩

/-- The check of such a list. -/
def distinctListCheck : Check :=
  .leaf (Compile.subject "l" distinctList.attributes)
    (.anyList (Compile.listRule distinctList.attributes))

/-- A record and the same one with its entries in the other order. -/
def turnedRecords : List Value :=
  [.record [("a", .int 1), ("b", .null)], .record [("b", .null), ("a", .int 1)]]

/-- The order of entries does not tell records apart. -/
theorem Definition.tellsRepeats_turnedRecords :
    distinctList.compile "l" = .ok distinctListCheck ∧
      TellsRepeats (fun v w => v.matchesWritten w = true) [.key "l"] turnedRecords
        (distinctListCheck.run .standard [.key "l"] (.list turnedRecords)) ∧
      (TellsRepeats (fun v w => v.matchesJson w = true) [.key "l"] turnedRecords
          (distinctListCheck.run .standard [.key "l"] (.list turnedRecords)) ↔
        ∀ i, RepeatsAt (fun v w => v.matchesJson w = true) turnedRecords i →
          RepeatsAt (fun v w => v.matchesWritten w = true) turnedRecords i) := by
  have hpasses : Passes (distinctListCheck.allowingRepeats.run .standard [.key "l"]
      (.list turnedRecords)) := ⟨_, rfl, rfl⟩
  exact ⟨rfl, tellsRepeats_iff (d := distinctList) rfl rfl rfl rfl (by decide) (by decide) hpasses⟩

/-- One as an integer and as a double. -/
def writtenOnes : List Value := [.int 1, .float (Binary64.ofInt 1)]

/-- The integer one and the double one are equal, and the list of the two is accepted although its
items must differ. -/
theorem not_tellsRepeats_writtenOnes :
    distinctList.compile "l" = .ok distinctListCheck ∧
      distinctListCheck.run .standard [.key "l"] (.list writtenOnes) =
        .ok (.accept (.list writtenOnes)) ∧
      RepeatsAt (fun v w => v.matchesJson w = true) writtenOnes 1 ∧
      ¬ TellsRepeats (fun v w => v.matchesJson w = true) [.key "l"] writtenOnes
        (distinctListCheck.run .standard [.key "l"] (.list writtenOnes)) := by
  have hnone : repeatedIndices writtenOnes = [] := by decide +kernel
  have hequal : RepeatsAt (fun v w => v.matchesJson w = true) writtenOnes 1 :=
    ⟨0, _, _, Nat.one_pos, rfl, rfl, by decide +kernel⟩
  have hrule (site : Site) : (Compile.listRule distinctList.attributes).repetitionIssues site
      writtenOnes = [] := by
    simp [ListRule.repetitionIssues, hnone]
  have hrun : distinctListCheck.run .standard [.key "l"] (.list writtenOnes) =
      .ok (.accept (.list writtenOnes)) := by
    rw [distinctListCheck, Check.run_leaf]
    change (Except.ok ⟨.list writtenOnes, _⟩ : Except Failure Outcome).map _ = _
    rw [hrule]
    rfl
  refine ⟨rfl, hrun, hequal, ?_⟩
  rw [hrun]
  rintro ⟨o, ho, hreported, -⟩
  cases ho
  exact reportedAt_nil (hreported.mpr ⟨1, hequal⟩)

end Intake
