import Intake.Proofs.Condition.Laws
import Intake.Proofs.Json.Sameness
import Intake.Proofs.Validation.Pointing

/-!
# Truth values among equal values

Enumerated members and conditions compare values in one way: a truth value equals no number, but inside
lists and records it counts as the number one or zero. Main statement: so two values are told equal
exactly if they are both truth values or both none, and equal as JSON values once all truth values are
written as numbers. That they are equal as JSON values is told of two values exactly if, where they are
told equal, no truth value of one stands at a place where the other has something else.
-/

namespace Intake

mutual

/-- A value with the numbers in it that its truth values count as. -/
def Value.counted (v : Value) : Value :=
  match v with
  | .bool b => .int (if b then 1 else 0)
  | .list items => .list (itemsCounted items)
  | .record entries => .record (entriesCounted entries)
  | .null | .number _ | .text _ | .date _ | .dateTime _ | .time _ => v

/-- Items with the numbers in them that their truth values count as. -/
def itemsCounted (items : List Value) : List Value :=
  match items with
  | [] => []
  | item :: rest => item.counted :: itemsCounted rest

/-- Entries with the numbers in them that their truth values count as. -/
def entriesCounted (entries : List (String × Value)) : List (String × Value) :=
  match entries with
  | [] => []
  | (key, v) :: rest => (key, v.counted) :: entriesCounted rest

end

theorem length_entriesCounted (entries : List (String × Value)) :
    (entriesCounted entries).length = entries.length := by
  induction entries with
  | nil => rfl
  | cons entry rest ih => simp [entriesCounted, ih]

theorem lookup_entriesCounted (key : String) (entries : List (String × Value)) :
    (entriesCounted entries).lookup key = (entries.lookup key).map Value.counted := by
  induction entries with
  | nil => rfl
  | cons entry rest ih =>
    obtain ⟨name, v⟩ := entry
    rw [entriesCounted, List.lookup_cons, List.lookup_cons, ih]
    cases key == name <;> rfl

namespace Value

/-- No truth value of one value stands at a place where the other has something else. -/
def TruthsMeet (a b : Value) : Prop :=
  ∀ path v w, a.at? path = some v → b.at? path = some w → v.isBool = w.isBool

mutual

/-- Values are equal with truth values counted exactly if what they are counted as is equal. -/
theorem countsAs_eq (a b : Value) : a.countsAs b = a.counted.matchesJson b.counted := by
  match a with
  | .null | .bool _ | .number _ | .text _ | .date _ | .dateTime _ | .time _ => cases b <;> rfl
  | .list items =>
    cases b with
    | list others => exact itemsCountAs_eq items others
    | _ => rfl
  | .record entries =>
    cases b with
    | record others =>
      change (_ && entriesCountInBy Number.sameAs entries others) =
        (_ && entriesMatchJsonBy Number.sameAs (entriesCounted entries) (entriesCounted others))
      rw [length_entriesCounted, length_entriesCounted, entriesCountIn_eq entries others]
    | _ => rfl

theorem itemsCountAs_eq (items others : List Value) :
    itemsCountAsBy Number.sameAs items others =
      itemsMatchJsonBy Number.sameAs (itemsCounted items) (itemsCounted others) := by
  match items, others with
  | [], [] | [], _ :: _ | _ :: _, [] => rfl
  | item :: rest, other :: more =>
    exact congrArg₂ and (countsAs_eq item other) (itemsCountAs_eq rest more)

theorem entriesCountIn_eq (entries others : List (String × Value)) :
    entriesCountInBy Number.sameAs entries others =
      entriesMatchJsonBy Number.sameAs (entriesCounted entries) (entriesCounted others) := by
  match entries with
  | [] => rfl
  | (key, v) :: rest =>
    rw [entriesCounted, entriesMatchJsonBy, lookup_entriesCounted, entriesCountInBy,
      entriesCountIn_eq rest others]
    cases others.lookup key with
    | none => rfl
    | some w => exact congrArg (· && _) (countsAs_eq v w)

end

/-- Truth values meet in lists if they meet in the items at the same place. -/
theorem truthsMeet_list_iff {items others : List Value} :
    (list items).TruthsMeet (.list others) ↔
      ∀ (i : Nat) v w, items[i]? = some v → others[i]? = some w → v.TruthsMeet w := by
  constructor
  · intro h i v w hv hw path v' w' hv' hw'
    refine h (.index i :: path) v' w' ?_ ?_
    · exact Option.bind_eq_some_iff.mpr ⟨v, hv, hv'⟩
    · exact Option.bind_eq_some_iff.mpr ⟨w, hw, hw'⟩
  · intro h path v' w' hv' hw'
    match path with
    | [] =>
      cases hv'
      cases hw'
      rfl
    | .index (.ofNat i) :: rest =>
      obtain ⟨v, hv, hv'⟩ := Option.bind_eq_some_iff.mp hv'
      obtain ⟨w, hw, hw'⟩ := Option.bind_eq_some_iff.mp hw'
      exact h i v w hv hw rest v' w' hv' hw'
    | .index (.negSucc _) :: _ => cases hv'
    | .key _ :: _ => cases hv'

/-- Truth values meet in records if they meet in the values under the same key. -/
theorem truthsMeet_record_iff {entries others : List (String × Value)} :
    (record entries).TruthsMeet (.record others) ↔
      ∀ key v w, entries.lookup key = some v → others.lookup key = some w → v.TruthsMeet w := by
  constructor
  · intro h key v w hv hw path v' w' hv' hw'
    refine h (.key key :: path) v' w' ?_ ?_
    · exact Option.bind_eq_some_iff.mpr ⟨v, hv, hv'⟩
    · exact Option.bind_eq_some_iff.mpr ⟨w, hw, hw'⟩
  · intro h path v' w' hv' hw'
    match path with
    | [] =>
      cases hv'
      cases hw'
      rfl
    | .key key :: rest =>
      obtain ⟨v, hv, hv'⟩ := Option.bind_eq_some_iff.mp hv'
      obtain ⟨w, hw, hw'⟩ := Option.bind_eq_some_iff.mp hw'
      exact h key v w hv hw rest v' w' hv' hw'
    | .index (.ofNat _) :: _ => cases hv'
    | .index (.negSucc _) :: _ => cases hv'

/-- Truth values meet in the heads and in the tails of lists in which they meet. -/
theorem truthsMeet_cons_iff {v w : Value} {rest more : List Value} :
    (list (v :: rest)).TruthsMeet (.list (w :: more)) ↔
      v.TruthsMeet w ∧ (list rest).TruthsMeet (.list more) := by
  simp only [truthsMeet_list_iff]
  constructor
  · exact fun h => ⟨h 0 v w rfl rfl, fun i => h (i + 1)⟩
  · rintro ⟨hfirst, hrest⟩ (_ | i) v' w' hv hw
    · cases hv
      cases hw
      exact hfirst
    · exact hrest i v' w' hv hw

/-- A value without parts. -/
def IsWhole (v : Value) : Prop := v.IsScalar ∨ v.IsTemporal

/-- What has no parts leads nowhere. -/
theorem IsWhole.path_eq_nil {a v : Value} (h : a.IsWhole) {path : DataPath}
    (hv : a.at? path = some v) : path = [] := by
  cases path with
  | nil => rfl
  | cons segment rest =>
    obtain ⟨part, hpart, -⟩ := Option.bind_eq_some_iff.mp hv
    cases a with
    | list _ | record _ => simp [IsWhole, IsScalar, IsTemporal] at h
    | _ =>
      cases segment with
      | key _ => cases hpart
      | index i => cases i <;> cases hpart

/-- What has no parts is equal as a JSON value exactly to what is a truth value if it is one itself, and
equal to it with truth values counted. -/
theorem IsWhole.matchesJson_iff {a : Value} (h : a.IsWhole) (b : Value) :
    a.matchesJson b = true ↔ a.isBool = b.isBool ∧ a.countsAs b = true := by
  cases a with
  | list _ | record _ => simp [IsWhole, IsScalar, IsTemporal] at h
  | _ => exact Bool.and_eq_true_iff.trans (and_congr_left' beq_iff_eq)

/-- Truth values meet in a value without parts if it meets them itself. -/
theorem IsWhole.truthsMeet_iff {a : Value} (h : a.IsWhole) (b : Value) :
    a.TruthsMeet b ↔ a.isBool = b.isBool := by
  constructor
  · exact fun hmeet => hmeet [] a b rfl rfl
  · intro hbool path v w hv hw
    obtain rfl := h.path_eq_nil hv
    cases hv
    cases hw
    exact hbool

mutual

/-- Values that are equal as JSON values are equal with truth values counted, and their truth values
meet. -/
theorem countsAs_of_matchesJson (a b : Value) (h : a.matchesJson b = true) :
    a.countsAs b = true ∧ a.TruthsMeet b := by
  by_cases hwhole : a.IsWhole
  · obtain ⟨hbool, hcounts⟩ := (hwhole.matchesJson_iff b).mp h
    exact ⟨hcounts, (hwhole.truthsMeet_iff b).mpr hbool⟩
  match a with
  | .null | .bool _ | .number _ | .text _ => exact absurd (.inl trivial) hwhole
  | .date _ | .dateTime _ | .time _ => exact absurd (.inr trivial) hwhole
  | .list items =>
    cases b with
    | list others => exact itemsCountAs_of_itemsMatch items others h
    | _ => cases h
  | .record entries =>
    cases b with
    | record others =>
      obtain ⟨hlength, hmatch⟩ := Bool.and_eq_true_iff.mp h
      obtain ⟨hcounts, hmeet⟩ := entriesCountIn_of_entriesMatch entries others hmatch
      exact ⟨Bool.and_eq_true_iff.mpr ⟨hlength, hcounts⟩, truthsMeet_record_iff.mpr
        fun key v w hv hw => hmeet key v w (mem_of_lookup hv) hw⟩
    | _ => cases h

theorem itemsCountAs_of_itemsMatch (items others : List Value)
    (h : itemsMatchJsonBy Number.sameAs items others = true) :
    itemsCountAsBy Number.sameAs items others = true ∧ (list items).TruthsMeet (.list others) := by
  match items, others with
  | [], [] => exact ⟨rfl, truthsMeet_list_iff.mpr nofun⟩
  | [], _ :: _ => cases h
  | _ :: _, [] => cases h
  | item :: rest, other :: more =>
    obtain ⟨hitem, hrest⟩ := Bool.and_eq_true_iff.mp h
    obtain ⟨hcounts, hmeet⟩ := countsAs_of_matchesJson item other hitem
    obtain ⟨hcountsRest, hmeetRest⟩ := itemsCountAs_of_itemsMatch rest more hrest
    exact ⟨Bool.and_eq_true_iff.mpr ⟨hcounts, hcountsRest⟩,
      truthsMeet_cons_iff.mpr ⟨hmeet, hmeetRest⟩⟩

theorem entriesCountIn_of_entriesMatch (entries others : List (String × Value))
    (h : entriesMatchJsonBy Number.sameAs entries others = true) :
    entriesCountInBy Number.sameAs entries others = true ∧
      ∀ key v w, (key, v) ∈ entries → others.lookup key = some w → v.TruthsMeet w := by
  match entries with
  | [] => exact ⟨rfl, nofun⟩
  | (name, value) :: rest =>
    obtain ⟨hentry, hrest⟩ := Bool.and_eq_true_iff.mp h
    obtain ⟨hcountsRest, hmeetRest⟩ := entriesCountIn_of_entriesMatch rest others hrest
    cases hlookup : others.lookup name with
    | none => simp [hlookup] at hentry
    | some other =>
      rw [hlookup] at hentry
      obtain ⟨hcounts, hmeet⟩ := countsAs_of_matchesJson value other hentry
      refine ⟨Bool.and_eq_true_iff.mpr ⟨?_, hcountsRest⟩, fun key v w hm hw => ?_⟩
      · rw [hlookup]
        exact hcounts
      · rcases List.mem_cons.mp hm with heq | hm
        · cases heq
          cases hlookup.symm.trans hw
          exact hmeet
        · exact hmeetRest key v w hm hw

end

mutual

/-- Values that are equal with truth values counted are equal as JSON values if their truth values
meet. -/
theorem matchesJson_of_truthsMeet (a b : Value) (hkeys : a.keysDiffer = true)
    (hcounts : a.countsAs b = true) (hmeet : a.TruthsMeet b) : a.matchesJson b = true := by
  by_cases hwhole : a.IsWhole
  · exact (hwhole.matchesJson_iff b).mpr ⟨(hwhole.truthsMeet_iff b).mp hmeet, hcounts⟩
  match a with
  | .null | .bool _ | .number _ | .text _ => exact absurd (.inl trivial) hwhole
  | .date _ | .dateTime _ | .time _ => exact absurd (.inr trivial) hwhole
  | .list items =>
    cases b with
    | list others => exact itemsMatch_of_truthsMeet items others hkeys hcounts hmeet
    | _ => cases hcounts
  | .record entries =>
    cases b with
    | record others =>
      obtain ⟨hnodup, hvalues⟩ := Bool.and_eq_true_iff.mp hkeys
      obtain ⟨hlength, hentries⟩ := Bool.and_eq_true_iff.mp hcounts
      refine Bool.and_eq_true_iff.mpr ⟨hlength,
        entriesMatch_of_truthsMeet entries others hvalues hentries fun key v w hm hw => ?_⟩
      exact truthsMeet_record_iff.mp hmeet key v w (lookup_of_mem (of_decide_eq_true hnodup) hm) hw
    | _ => cases hcounts

theorem itemsMatch_of_truthsMeet (items others : List Value) (hkeys : itemsKeysDiffer items = true)
    (hcounts : itemsCountAsBy Number.sameAs items others = true)
    (hmeet : (list items).TruthsMeet (.list others)) :
    itemsMatchJsonBy Number.sameAs items others = true := by
  match items, others with
  | [], [] => rfl
  | [], _ :: _ => cases hcounts
  | _ :: _, [] => cases hcounts
  | item :: rest, other :: more =>
    obtain ⟨hfirst, hrest⟩ := Bool.and_eq_true_iff.mp hkeys
    obtain ⟨hitem, hitems⟩ := Bool.and_eq_true_iff.mp hcounts
    obtain ⟨hmeetFirst, hmeetRest⟩ := truthsMeet_cons_iff.mp hmeet
    exact Bool.and_eq_true_iff.mpr ⟨matchesJson_of_truthsMeet item other hfirst hitem hmeetFirst,
      itemsMatch_of_truthsMeet rest more hrest hitems hmeetRest⟩

theorem entriesMatch_of_truthsMeet (entries others : List (String × Value))
    (hkeys : entriesKeysDiffer entries = true)
    (hcounts : entriesCountInBy Number.sameAs entries others = true)
    (hmeet : ∀ key v w, (key, v) ∈ entries → others.lookup key = some w → v.TruthsMeet w) :
    entriesMatchJsonBy Number.sameAs entries others = true := by
  match entries with
  | [] => rfl
  | (name, value) :: rest =>
    obtain ⟨hvalue, hrest⟩ := Bool.and_eq_true_iff.mp hkeys
    obtain ⟨hentry, hentries⟩ := Bool.and_eq_true_iff.mp hcounts
    refine Bool.and_eq_true_iff.mpr ⟨?_, entriesMatch_of_truthsMeet rest others hrest hentries
      fun key v w hm => hmeet key v w (List.mem_cons_of_mem _ hm)⟩
    cases hlookup : others.lookup name with
    | none => simp [hlookup] at hentry
    | some other =>
      rw [hlookup] at hentry
      exact matchesJson_of_truthsMeet value other hvalue hentry
        (hmeet name value other List.mem_cons_self hlookup)

end

/-- Two values are equal as JSON values exactly if they are equal with truth values counted and their
truth values meet. -/
theorem matchesJson_iff {a b : Value} (hkeys : a.keysDiffer = true) :
    a.matchesJson b = true ↔ a.countsAs b = true ∧ a.TruthsMeet b :=
  ⟨countsAs_of_matchesJson a b, fun h => matchesJson_of_truthsMeet a b hkeys h.1 h.2⟩

/-- Two values are told equal exactly if they are both truth values or both none, and equal as JSON
values once all truth values are written as numbers. -/
theorem sameAs_iff (a b : Value) :
    a.sameAs b = true ↔ a.isBool = b.isBool ∧ a.counted.matchesJson b.counted = true := by
  rw [← countsAs_eq]
  exact Bool.and_eq_true_iff.trans (and_congr_left' beq_iff_eq)

/-- A JSON value is equal to itself as a JSON value. -/
theorem matchesJson_self {a : Value} (ha : a.isJson = true) (hkeys : a.keysDiffer = true) :
    a.matchesJson a = true :=
  matchesJson_of_matchesWritten ha ((Json.canonical_eq_iff ha ha hkeys hkeys).mp rfl)

/-- A JSON value is told equal to itself. -/
theorem sameAs_self {a : Value} (ha : a.isJson = true) (hkeys : a.keysDiffer = true) :
    a.sameAs a = true := by
  obtain ⟨hcounts, -⟩ := countsAs_of_matchesJson a a (matchesJson_self ha hkeys)
  exact Bool.and_eq_true_iff.mpr ⟨beq_self_eq_true _, hcounts⟩

/-- A JSON value does not differ from itself. -/
theorem equalsItself_of_isJson {a : Value} (ha : a.isJson = true) : a.equalsItself = true := by
  cases a with
  | number n => exact Number.sameAs_self (by cases n <;> exact ha)
  | _ => rfl

end Value

/-- Operands with JSON values are equal exactly if these are told equal. -/
theorem Condition.operandsEqual_of_isJson {scope a b : Value} {left right : Condition}
    (ha : a.isJson = true) (hkeys : a.keysDiffer = true) (hleft : left.evaluate scope = .ok a)
    (hright : right.evaluate scope = .ok b) : operandsEqual left right a b = a.sameAs b := by
  unfold operandsEqual
  split
  · -- Two references to one place lead to the same value.
    rename_i hpaths
    cases left <;> cases right <;> simp [path?] at hpaths
    subst hpaths
    rw [hleft] at hright
    cases hright
    rw [Value.equalsItself_of_isJson ha, Value.sameAs_self ha hkeys]
  · rfl

/-- Whether two values are equal, as enumerated members and conditions tell it. -/
structure TellsEqual (a b : Value) (alike : Prop) : Prop where
  /-- An enumeration of the second value accepts the first one. -/
  choice : ∀ site, Passes ((LeafRule.choice [b]).run site a) ↔ alike
  /-- A field of another kind that enumerates the second value goes on to accept the first one. -/
  member : ∀ (site : Site) (o : Outcome), site.subject.members = some [b] → o.issues = [] →
    ((site.withMembers a o).issues = [] ↔ alike)
  /-- Operands with the two values are equal. -/
  equal : ∀ scope (left right : Condition), left.evaluate scope = .ok a →
    right.evaluate scope = .ok b →
      ((Condition.comparison .equal left right).holds scope = .ok true ↔ alike)
  /-- Operands with the two values do not differ. -/
  unequal : ∀ scope (left right : Condition), left.evaluate scope = .ok a →
    right.evaluate scope = .ok b →
      ((Condition.comparison .unequal left right).holds scope = .ok true ↔ ¬ alike)

section

variable {a b : Value} {alike other : Prop}

/-- Of two values one thing is told. -/
theorem TellsEqual.unique (h : TellsEqual a b alike) (ho : TellsEqual a b other) :
    alike ↔ other :=
  (h.equal .null (.literal a) (.literal b) rfl rfl).symm.trans
    (ho.equal .null (.literal a) (.literal b) rfl rfl)

theorem TellsEqual.congr (h : TellsEqual a b alike) (hsame : alike ↔ other) :
    TellsEqual a b other := by
  rwa [← propext hsame]

/-- A comparison of operands for equality holds exactly if their values are told equal. -/
theorem Condition.holds_equal_iff {scope : Value} {left right : Condition} (ha : a.isJson = true)
    (hkeys : a.keysDiffer = true) (hleft : left.evaluate scope = .ok a)
    (hright : right.evaluate scope = .ok b) :
    (comparison .equal left right).holds scope = .ok (a.sameAs b) ∧
      (comparison .unequal left right).holds scope = .ok !(a.sameAs b) := by
  have hequal := operandsEqual_of_isJson ha hkeys hleft hright
  rw [holds_comparison, holds_comparison, hleft, hright]
  exact ⟨congrArg Except.ok hequal, congrArg (fun equal => Except.ok !equal) hequal⟩

/-- Enumerated members and conditions tell values equal by one equality. -/
theorem tellsEqual_sameAs (ha : a.isJson = true) (hkeys : a.keysDiffer = true) :
    TellsEqual a b (a.sameAs b = true) where
  choice site := by
    have hmember : isMember a [b] = a.sameAs b := by simp [isMember]
    rw [LeafRule.run, hmember, passes_ok]
    cases a.sameAs b <;> simp [Outcome.accept, Outcome.reject]
  member site o hmembers ho := by
    rw [Site.issues_withMembers_eq_nil_iff, hmembers]
    simp [ho, FieldAttributes.Matches]
  equal scope left right hleft hright := by
    rw [(Condition.holds_equal_iff ha hkeys hleft hright).1, Except.ok.injEq]
  unequal scope left right hleft hright := by
    rw [(Condition.holds_equal_iff ha hkeys hleft hright).2, Except.ok.injEq, Bool.not_eq_true',
      Bool.not_eq_true]

/-- JSON values are told equal exactly if they are both truth values or both none, and equal once all
truth values are written as numbers. That they are equal as JSON values is told of them exactly if, where
they are told equal, no truth value of one stands where the other has something else. -/
theorem Value.tellsEqual_iff (ha : a.isJson = true) (hkeys : a.keysDiffer = true) :
    TellsEqual a b (a.isBool = b.isBool ∧ a.counted.matchesJson b.counted = true) ∧
      (TellsEqual a b (a.matchesJson b = true) ↔
        (a.isBool = b.isBool → a.counted.matchesJson b.counted = true → a.TruthsMeet b)) := by
  have hsame := tellsEqual_sameAs (b := b) ha hkeys
  have hcounted := hsame.congr (sameAs_iff a b)
  have hjson := matchesJson_iff (b := b) hkeys
  rw [countsAs_eq] at hjson
  refine ⟨hcounted, fun h hbool hcounts => ?_, fun h => hcounted.congr ⟨?_, fun h => ?_⟩⟩
  · exact (hjson.mp ((hcounted.unique h).mp ⟨hbool, hcounts⟩)).2
  · exact fun ⟨hbool, hcounts⟩ => hjson.mpr ⟨hcounts, h hbool hcounts⟩
  · obtain ⟨hcounts, hmeet⟩ := hjson.mp h
    exact ⟨hmeet [] a b rfl rfl, hcounts⟩

end

/-- A switch and a count, the count being an integer. -/
def switchedCount : Value := .record [("on", .list [.bool true]), ("count", .int 1)]

/-- The same switch and count in the other order, the count being a double. -/
def countSwitched : Value :=
  .record [("count", .float (Binary64.ofInt 1)), ("on", .list [.bool true])]

/-- Truth values and numbers that stand at their own places are told apart. -/
theorem Value.tellsEqual_switchedCount :
    TellsEqual switchedCount countSwitched (switchedCount.matchesJson countSwitched = true) ∧
      switchedCount.matchesJson countSwitched = true := by
  have hjson : switchedCount.matchesJson countSwitched = true := by decide +kernel
  exact ⟨(tellsEqual_iff (by decide) (by decide)).2.mpr fun _ _ =>
    (countsAs_of_matchesJson _ _ hjson).2, hjson⟩

/-- True in a list and one in a list are told equal, and they are not equal as JSON values. -/
theorem not_tellsEqual_truth_in_list :
    Passes ((LeafRule.choice [.list [.int 1]]).run ⟨distinctListCheck.subject, .standard, []⟩
        (.list [.bool true])) ∧
      (Value.list [.bool true]).matchesJson (.list [.int 1]) = false ∧
      ¬ TellsEqual (.list [.bool true]) (.list [.int 1])
        ((Value.list [.bool true]).matchesJson (.list [.int 1]) = true) := by
  have hpasses : Passes ((LeafRule.choice [.list [.int 1]]).run
      ⟨distinctListCheck.subject, .standard, []⟩ (.list [.bool true])) := ⟨_, rfl, rfl⟩
  have hjson : (Value.list [.bool true]).matchesJson (.list [.int 1]) = false := by decide
  refine ⟨hpasses, hjson, fun h => ?_⟩
  rw [(h.choice _).mp hpasses] at hjson
  cases hjson

end Intake
