import Intake.Field.Environment
import Intake.Proofs.Number.Integer

/-!
# What comes from the environment

A configuration is filled field by field, and each field has a say under its own name only. Main
statements: what stands under the name of a field afterwards depends on what stood there and on the
variable of the field alone; only gaps are filled, new entries come last, and filling a configuration
again changes nothing; and an integer written in a variable arrives in a field of numbers if and only
if some double holds it, because the text is read as a double first.
-/

namespace Intake

section Entries

variable {α : Type}

/-- An entry that is written has no say under other keys. -/
theorem lookup_insertEntry_of_ne {key name : String} (hne : name ≠ key) (value : α)
    (entries : List (String × α)) :
    (insertEntry key value entries).lookup name = entries.lookup name := by
  have hkey : (name == key) = false := beq_false_of_ne hne
  induction entries with
  | nil => rw [insertEntry, List.lookup_cons, hkey]
  | cons entry rest ih =>
    obtain ⟨k, v⟩ := entry
    by_cases hk : k = key
    · rw [insertEntry, if_pos hk, List.lookup_cons, List.lookup_cons, hk, hkey]
    · rw [insertEntry, if_neg hk, List.lookup_cons, List.lookup_cons, ih]

/-- An entry that is written as it stands changes nothing. -/
theorem insertEntry_of_lookup {key : String} {value : α} {entries : List (String × α)}
    (h : entries.lookup key = some value) : insertEntry key value entries = entries := by
  induction entries with
  | nil => cases h
  | cons entry rest ih =>
    obtain ⟨k, v⟩ := entry
    by_cases hk : k = key
    · subst hk
      rw [List.lookup_cons_self] at h
      cases h
      rw [insertEntry, if_pos rfl]
    · have hkey : (key == k) = false := beq_false_of_ne (Ne.symm hk)
      rw [List.lookup_cons, hkey] at h
      rw [insertEntry, if_neg hk, ih h]

/-- The keys stay where they are, and a new one comes last. -/
theorem keys_insertEntry (key : String) (value : α) (entries : List (String × α)) :
    (insertEntry key value entries).map (·.1) =
      entries.map (·.1) ++ if (entries.lookup key).isNone then [key] else [] := by
  induction entries with
  | nil => rfl
  | cons entry rest ih =>
    obtain ⟨k, v⟩ := entry
    by_cases hk : k = key
    · subst hk
      rw [insertEntry, if_pos rfl, List.lookup_cons_self]
      simp
    · have hkey : (key == k) = false := beq_false_of_ne (Ne.symm hk)
      rw [insertEntry, if_neg hk, List.lookup_cons, hkey, List.map_cons, ih]
      rfl

end Entries

/-- What stands under the name of a field after it is filled, for what stood there before. -/
def Definition.filled (environment : List (String × String)) (d : Definition)
    (stood : Option Value) : Option Value :=
  if (stood.map (·.isNull)).getD true then (d.environmentValue environment).or stood else stood

section Fill

variable {environment : List (String × String)} {config : List (String × Value)} {name : String}
  {d : Definition}

theorem lookup_fillField_self :
    (fillField environment config name d).lookup name =
      d.filled environment (config.lookup name) := by
  unfold fillField Definition.filled
  split
  · cases d.environmentValue environment with
    | some v => exact lookup_insertEntry name v config
    | none => rfl
  · rfl

theorem lookup_fillField_of_ne {other : String} (hne : other ≠ name) :
    (fillField environment config name d).lookup other = config.lookup other := by
  unfold fillField
  split
  · cases d.environmentValue environment with
    | some v => exact lookup_insertEntry_of_ne hne v config
    | none => rfl
  · rfl

/-- A field that is filled again has nothing to change. -/
theorem fillField_of_filled {stood : Option Value}
    (h : config.lookup name = d.filled environment stood) :
    fillField environment config name d = config := by
  unfold fillField
  split
  · next hopen =>
    cases hv : d.environmentValue environment with
    | none => rfl
    | some v =>
      refine insertEntry_of_lookup (h.trans ?_)
      by_cases hstood : (stood.map (·.isNull)).getD true = true
      · rw [Definition.filled, if_pos hstood, hv, Option.some_or]
      · rw [Definition.filled, if_neg hstood] at h
        exact absurd (h ▸ hopen) hstood
  · rfl

/-- A field that has a value to give and finds no entry comes last. -/
theorem keys_fillField :
    (fillField environment config name d).map (·.1) = config.map (·.1) ++
      if (config.lookup name).isNone && (d.environmentValue environment).isSome then [name]
      else [] := by
  unfold fillField
  split
  · cases d.environmentValue environment with
    | some v => rw [keys_insertEntry, Option.isSome_some, Bool.and_true]
    | none => simp
  · next hopen =>
    cases hstood : config.lookup name with
    | none => simp [hstood] at hopen
    | some v => simp

theorem fillField_congr {other : List (String × String)}
    (h : d.environmentValue other = d.environmentValue environment) :
    fillField other config name d = fillField environment config name d := by
  unfold fillField
  rw [h]

theorem fillFromEnvironment_cons {rest : FieldMap} :
    fillFromEnvironment ((name, d) :: rest) environment config =
      fillFromEnvironment rest environment (fillField environment config name d) :=
  rfl

/-- Nothing changes under a name that is declared by no field. -/
theorem lookup_fillFromEnvironment_of_notMem {fields : FieldMap}
    (hname : name ∉ fields.map (·.1)) :
    (fillFromEnvironment fields environment config).lookup name = config.lookup name := by
  induction fields generalizing config with
  | nil => rfl
  | cons field rest ih =>
    obtain ⟨first, p⟩ := field
    obtain ⟨hfirst, hrest⟩ := not_or.mp (List.mem_cons.not.mp hname)
    rw [fillFromEnvironment_cons, ih hrest, lookup_fillField_of_ne hfirst]

/-- Under the name of a field stands what the field makes of what stood there. -/
theorem lookup_fillFromEnvironment {fields : FieldMap} (hnames : (fields.map (·.1)).Nodup)
    (hm : (name, d) ∈ fields) :
    (fillFromEnvironment fields environment config).lookup name =
      d.filled environment (config.lookup name) := by
  induction fields generalizing config with
  | nil => cases hm
  | cons field rest ih =>
    obtain ⟨first, p⟩ := field
    obtain ⟨hfirst, hrest⟩ := List.nodup_cons.mp hnames
    rcases List.mem_cons.mp hm with heq | hm
    · cases heq
      rw [fillFromEnvironment_cons, lookup_fillFromEnvironment_of_notMem hfirst,
        lookup_fillField_self]
    · have hne : name ≠ first := fun heq => hfirst (heq ▸ List.mem_map_of_mem (f := (·.1)) hm)
      rw [fillFromEnvironment_cons, ih hrest hm, lookup_fillField_of_ne hne]

/-- Fields that have nothing to change leave a configuration as it is. -/
theorem fillFromEnvironment_eq_self {fields : FieldMap}
    (h : ∀ field ∈ fields, fillField environment config field.1 field.2 = config) :
    fillFromEnvironment fields environment config = config := by
  induction fields with
  | nil => rfl
  | cons field rest ih =>
    obtain ⟨name, d⟩ := field
    obtain ⟨hfield, hrest⟩ := List.forall_mem_cons.mp h
    rw [fillFromEnvironment_cons, hfield, ih hrest]

/-- The keys stay where they are, and the new ones come last, in the order of the fields. -/
theorem keys_fillFromEnvironment {fields : FieldMap} (hnames : (fields.map (·.1)).Nodup) :
    (fillFromEnvironment fields environment config).map (·.1) = config.map (·.1) ++
      (fields.filter fun field => (config.lookup field.1).isNone &&
        (field.2.environmentValue environment).isSome).map (·.1) := by
  induction fields generalizing config with
  | nil => simp [fillFromEnvironment]
  | cons field rest ih =>
    obtain ⟨first, p⟩ := field
    obtain ⟨hfirst, hrest⟩ := List.nodup_cons.mp hnames
    -- the first field has no say in whether a later one finds an entry
    have hsame : (rest.filter fun field =>
        ((fillField environment config first p).lookup field.1).isNone &&
          (field.2.environmentValue environment).isSome) =
        rest.filter fun field => (config.lookup field.1).isNone &&
          (field.2.environmentValue environment).isSome := by
      refine List.filter_congr fun field hm => ?_
      have hne : field.1 ≠ first := fun heq => hfirst (heq ▸ List.mem_map_of_mem (f := (·.1)) hm)
      rw [lookup_fillField_of_ne hne]
    rw [fillFromEnvironment_cons, ih hrest, hsame, keys_fillField, List.append_assoc, List.filter_cons]
    split <;> rfl

theorem fillFromEnvironment_congr {fields : FieldMap} {other : List (String × String)}
    (h : ∀ field ∈ fields,
      field.2.environmentValue other = field.2.environmentValue environment) :
    fillFromEnvironment fields other config = fillFromEnvironment fields environment config := by
  unfold fillFromEnvironment
  exact List.foldl_ext _ _ _ fun config field hm => fillField_congr (h field hm)

end Fill

/-- A configuration leaves a name open: nothing but null stands there. -/
def LeavesOpen (config : List (String × Value)) (name : String) : Prop :=
  ∀ v, config.lookup name = some v → v = .null

/-- Some fields fill a configuration from an environment where it leaves them open, and do nothing
else to it. -/
structure FillsGaps (fields : FieldMap) (environment : List (String × String))
    (config filled : List (String × Value)) : Prop where
  /-- A value that was given explicitly stays. -/
  explicit : ∀ (name : String) (v : Value), config.lookup name = some v → v ≠ .null →
    filled.lookup name = some v
  /-- What no field declares stays. -/
  undeclared : ∀ name, name ∉ fields.map (·.1) → filled.lookup name = config.lookup name
  /-- A field that is left open has what the text of its variable stands for, if the variable is
  set. -/
  set : ∀ (name source raw : String) (d : Definition), (name, d) ∈ fields → LeavesOpen config name →
    d.attributes.envVar.value? = some source → environment.lookup source = some raw →
    filled.lookup name = some (d.kind.valueOfText raw)
  /-- A field whose variable is not set, or that names none, stays. -/
  unset : ∀ (name : String) (d : Definition), (name, d) ∈ fields →
    (∀ source, d.attributes.envVar.value? = some source → environment.lookup source = none) →
    filled.lookup name = config.lookup name
  /-- The keys stay where they are, and those of the fields that had no entry and have one now come
  last, in the order of the fields. -/
  keys : filled.map (·.1) = config.map (·.1) ++
    (fields.filter fun field => (config.lookup field.1).isNone &&
      (field.2.environmentValue environment).isSome).map (·.1)

section Gaps

variable {fields : FieldMap} {environment : List (String × String)}
  {config : List (String × Value)} {name : String} {d : Definition}

theorem leavesOpen_iff :
    LeavesOpen config name ↔ ((config.lookup name).map (·.isNull)).getD true = true := by
  unfold LeavesOpen
  cases config.lookup name with
  | none => simp
  | some v => cases v <;> simp [Value.isNull]

theorem Definition.environmentValue_eq {source raw : String}
    (hsource : d.attributes.envVar.value? = some source)
    (htext : environment.lookup source = some raw) :
    d.environmentValue environment = some (d.kind.valueOfText raw) := by
  simp [environmentValue, hsource, htext]

theorem Definition.environmentValue_eq_none
    (h : ∀ source, d.attributes.envVar.value? = some source → environment.lookup source = none) :
    d.environmentValue environment = none := by
  unfold environmentValue
  cases hsource : d.attributes.envVar.value? with
  | none => rfl
  | some source => simp [h source hsource]

theorem fillFromEnvironment_fills (hnames : (fields.map (·.1)).Nodup) :
    FillsGaps fields environment config (fillFromEnvironment fields environment config) where
  explicit name v hstood hne := by
    have hclosed : ¬ ((config.lookup name).map (·.isNull)).getD true = true :=
      fun hopen => hne (leavesOpen_iff.mpr hopen v hstood)
    by_cases hm : name ∈ fields.map (·.1)
    · obtain ⟨⟨_, d⟩, hfield, rfl⟩ := List.mem_map.mp hm
      rw [lookup_fillFromEnvironment hnames hfield, Definition.filled, if_neg hclosed, hstood]
    · rw [lookup_fillFromEnvironment_of_notMem hm, hstood]
  undeclared _ hm := lookup_fillFromEnvironment_of_notMem hm
  set name source raw d hm hopen hsource htext := by
    rw [lookup_fillFromEnvironment hnames hm, Definition.filled, if_pos (leavesOpen_iff.mp hopen),
      Definition.environmentValue_eq hsource htext, Option.some_or]
  unset name d hm hunset := by
    rw [lookup_fillFromEnvironment hnames hm, Definition.filled,
      Definition.environmentValue_eq_none hunset, Option.none_or, ite_self]
  keys := keys_fillFromEnvironment hnames

/-- Filling a configuration again changes nothing. -/
theorem fillFromEnvironment_again (hnames : (fields.map (·.1)).Nodup) :
    fillFromEnvironment fields environment (fillFromEnvironment fields environment config) =
      fillFromEnvironment fields environment config :=
  fillFromEnvironment_eq_self fun _ hm =>
    fillField_of_filled (lookup_fillFromEnvironment hnames hm)

/-- Variables that no field names have no say. -/
theorem fillFromEnvironment_of_agree {other : List (String × String)}
    (h : ∀ field ∈ fields, ∀ source, field.2.attributes.envVar.value? = some source →
      other.lookup source = environment.lookup source) :
    fillFromEnvironment fields other config = fillFromEnvironment fields environment config := by
  refine fillFromEnvironment_congr fun field hm => ?_
  unfold Definition.environmentValue
  cases hsource : field.2.attributes.envVar.value? with
  | none => rfl
  | some source => simp only [Option.bind_eq_bind, Option.bind_some, h field hm source hsource]

/-- An environment only fills the gaps of a configuration, and filling it again changes nothing; the
fields are all that is asked of the environment. -/
theorem fillFromEnvironment_only_fills_gaps (hnames : (fields.map (·.1)).Nodup) :
    FillsGaps fields environment config (fillFromEnvironment fields environment config) ∧
      fillFromEnvironment fields environment (fillFromEnvironment fields environment config) =
        fillFromEnvironment fields environment config ∧
      ∀ other : List (String × String),
        (∀ field ∈ fields, ∀ source, field.2.attributes.envVar.value? = some source →
          other.lookup source = environment.lookup source) →
        fillFromEnvironment fields other config = fillFromEnvironment fields environment config :=
  ⟨fillFromEnvironment_fills hnames, fillFromEnvironment_again hnames,
    fun _ => fillFromEnvironment_of_agree⟩

end Gaps

/-- A definition of a kind that names an environment variable. -/
def Definition.fromVariable (kind : FieldKind) (source : String) : Definition :=
  { Definition.ofKind kind with
    attributes := { FieldAttributes.ofKind kind with envVar := .of source } }

/-- Fields two of which share a variable. -/
def sharingFields : FieldMap :=
  [("given", .fromVariable .string "SWITCH"), ("null", .fromVariable .json "SWITCH"),
    ("none", .fromVariable .json "DOCUMENT"), ("unset", .fromVariable .string "OTHER")]

/-- A shared variable fills one field and leaves the other one, where an empty text is given; and null
may be what a text stands for. -/
theorem fillsGaps_sharingFields :
    (sharingFields.map (·.1)).Nodup ∧
      FillsGaps sharingFields [("DOCUMENT", "null"), ("SWITCH", "false")]
        [("other", .null), ("null", .null), ("given", .text "")]
        [("other", .null), ("null", .bool false), ("given", .text ""), ("none", .null)] := by
  have hnames : (sharingFields.map (·.1)).Nodup := by decide
  have hfilled : fillFromEnvironment sharingFields [("DOCUMENT", "null"), ("SWITCH", "false")]
      [("other", .null), ("null", .null), ("given", .text "")] =
      [("other", .null), ("null", .bool false), ("given", .text ""), ("none", .null)] := by rfl
  exact ⟨hnames, hfilled ▸ (fillFromEnvironment_only_fills_gaps hnames).1⟩

/-- The text of an integer is read as the integer if and only if some double holds it. -/
theorem numberOfText_integerText_iff (n : Int) :
    numberOfText (String.ofList (integerText n)) = .int n ↔ Binary64.HoldsInt n := by
  have hpoint : (String.ofList (integerText n)).toList.contains '.' = false := by
    have hplain := forall_mem_integerText (P := fun c => c ≠ '.') (by decide) (by decide) n
    rw [String.toList_ofList, List.contains_eq_mem, decide_eq_false_iff_not]
    exact fun hm => hplain '.' hm rfl
  rw [← Binary64.isInt_ofInt_iff, ← Binary64.isIntegral_and_truncate_iff]
  simp only [numberOfText, readLooseDouble?_integerText, hpoint, Bool.not_false, Bool.and_true]
  cases hwhole : (Binary64.ofInt n).isIntegral with
  | false => simp [Value.int, Value.float]
  | true =>
    cases hpart : (Binary64.ofInt n).truncate? with
    | none => simp [Value.int, Value.float]
    | some k => simp [Value.int]

/-- An integer survives the environment: its decimal text is read as the integer by every field of
numbers, and a configuration that leaves the field open has the integer there once it is filled from
a variable with that text. -/
structure SurvivesEnvironment (n : Int) : Prop where
  /-- The text is read as the integer. -/
  read : ∀ d : Definition, d.kind = .number →
    d.kind.valueOfText (String.ofList (integerText n)) = .int n
  /-- The integer arrives in the configuration. -/
  loaded : ∀ (fields : FieldMap) (environment : List (String × String))
    (config : List (String × Value)) (name source : String) (d : Definition),
    (fields.map (·.1)).Nodup → (name, d) ∈ fields → d.kind = .number →
    d.attributes.envVar.value? = some source →
    environment.lookup source = some (String.ofList (integerText n)) →
    ((config.lookup name).map (·.isNull)).getD true = true →
    (fillFromEnvironment fields environment config).lookup name = some (.int n)

/-- An integer survives the environment if and only if some double holds it. -/
theorem survivesEnvironment_iff (n : Int) : SurvivesEnvironment n ↔ Binary64.HoldsInt n := by
  constructor
  · intro h
    exact (numberOfText_integerText_iff n).mp (h.read (.ofKind .number) rfl)
  · intro h
    have hread : ∀ d : Definition, d.kind = .number →
        d.kind.valueOfText (String.ofList (integerText n)) = .int n := by
      intro d hk
      rw [hk]
      exact (numberOfText_integerText_iff n).mpr h
    refine ⟨hread, fun fields environment config name source d hnames hm hk hsource htext hopen => ?_⟩
    have hvalue : d.environmentValue environment = some (.int n) := by
      simp only [Definition.environmentValue, hsource, htext, hread d hk, Option.bind_eq_bind,
        Option.bind_some, Option.pure_def]
    rw [lookup_fillFromEnvironment hnames hm, Definition.filled, if_pos hopen, hvalue, Option.some_or]

/-- The least natural number that no double holds does not survive the environment. -/
theorem not_survivesEnvironment_odd : ¬ SurvivesEnvironment 9007199254740993 := by
  intro h
  obtain ⟨m, k, hm, -, hsize⟩ := (survivesEnvironment_iff _).mp h
  have hnumber : m * 2 ^ k = 9007199254740993 := hsize.symm
  cases k with
  | zero => omega
  | succ k =>
    have hhalves : m * 2 ^ (k + 1) = 2 * (m * 2 ^ k) := by ring
    omega

end Intake
