import Intake.Proofs.Field.Environment
import Intake.Proofs.Validation.Exposure
import Intake.Proofs.Validation.Rewording

/-!
# Whom messages address

A message is given under the label of a definition and the name of a constraint. It should become the
message of what that definition finds broken under that name, at whatever index, and leave what other
definitions tell alone. Main statement: so it is for every constraint, but for keys that are not
declared only where no record that refuses them lies in a list or is a field without a name. There the
message is looked up under the path of the data, which has indices and no brackets.
-/

namespace Intake

/-- Options that give a text as the message for a constraint of a label. -/
def Options.addressing (o : Options) (label constraint text : String) : Options :=
  o.rewording (insertEntry (label ++ "." ++ constraint) text o.messages)

/-- An issue tells what a definition under a label finds broken under the name of a constraint. -/
def FieldMap.IsAddressed (fields : FieldMap) (label constraint : String) (issue : Issue) : Prop :=
  ∃ e, fields.Governs issue.path e ∧ issue.path.label = label ∧
    issue.code.constraintName e.kind = constraint

/-- How an issue is told after a message is given: in the words given, if they address it, and in its
own words, if they do not and a definition tells it. -/
structure RewordedBy (fields : FieldMap) (label constraint text : String) (issue issue' : Issue) :
    Prop where
  /-- Nothing but the words may differ. -/
  unworded : issue.unworded = issue'.unworded
  /-- What is addressed bears the message. -/
  addressed : fields.IsAddressed label constraint issue → issue'.message = text
  /-- What other definitions tell, or what is told of other constraints, stays. -/
  others : ∀ e, fields.Governs issue.path e → ¬ fields.IsAddressed label constraint issue →
    issue'.message = issue.message

/-- Messages for a constraint address what definitions find broken: under any options, a message that
is given for the constraint and a label changes neither whether fields are made ready nor what becomes
of data, and rewords the issues that it addresses and no others that definitions tell. -/
def FieldMap.MessagesAddress (fields : FieldMap) (constraint : String) : Prop :=
  ∀ (o : Options) (name label text : String), text ≠ "" →
    Agree (fun validator other => ∀ data,
        Agree (Verdict.Parallel (RewordedBy fields label constraint text)) (validator.validate data)
          (other.validate data))
      (Validator.compile o name fields)
      (Validator.compile (o.addressing label constraint text) name fields)

section

variable {constraint text : String}

/-- A message that is given is found for its label and its constraint only. -/
theorem Options.lookup_addressing (hconstraint : constraint ∈ constraintNames) (o : Options)
    (label text : String) {name : String} (hname : name ∈ constraintNames) (other : String) :
    (o.addressing label constraint text).messages.lookup (other ++ "." ++ name) =
      if other = label ∧ name = constraint then some text
      else o.messages.lookup (other ++ "." ++ name) := by
  unfold addressing rewording
  dsimp only
  by_cases h : other = label ∧ name = constraint
  · obtain ⟨rfl, rfl⟩ := h
    rw [if_pos ⟨rfl, rfl⟩]
    exact lookup_insertEntry _ _ _
  · have hne : other ++ "." ++ name ≠ label ++ "." ++ constraint := fun heq =>
      h (messageKey_injective (dot_notMem_of_mem_constraintNames hname)
        (dot_notMem_of_mem_constraintNames hconstraint) heq)
    rw [if_neg h]
    exact lookup_insertEntry_of_ne hne _ _

/-- The message of a check is the one given, if its field and the constraint are addressed, and stays
otherwise. -/
theorem Site.message_addressing (hconstraint : constraint ∈ constraintNames) (htext : text ≠ "")
    (o : Options) (label : String) (subject : Subject) (path : DataPath) (broken : Constraint)
    (standard : String) :
    Site.message ⟨subject, o.addressing label constraint text, path⟩ broken standard =
      if subject.label = label ∧ broken.name = constraint then text
      else Site.message ⟨subject, o, path⟩ broken standard := by
  have hlookup := o.lookup_addressing hconstraint label text broken.name_mem_constraintNames
    subject.label
  have hgiven : Site.givenMessage ⟨subject, o.addressing label constraint text, path⟩ broken =
      if subject.label = label ∧ broken.name = constraint then some text
      else Site.givenMessage ⟨subject, o, path⟩ broken := by
    unfold Site.givenMessage
    dsimp only
    rw [hlookup]
    split
    · simp [htext]
    · rfl
  by_cases h : subject.label = label ∧ broken.name = constraint
  · rw [if_pos h] at hgiven ⊢
    exact Site.message_of_given hgiven standard
  · rw [if_neg h] at hgiven ⊢
    unfold Site.message
    rw [hgiven]
    rfl

/-- The message on keys is the one given, if the record is called by the label and its keys are
addressed, and stays otherwise. -/
theorem message_keysIssue_addressing (hconstraint : constraint ∈ constraintNames) (o : Options)
    (label text : String) (path : DataPath) (keys : List String) :
    (keysIssue (o.addressing label constraint text) path keys).message =
      if recordLabel path = label ∧ "unknownKeys" = constraint then text
      else (keysIssue o path keys).message := by
  have hlookup := o.lookup_addressing hconstraint label text
    (List.mem_cons_self : "unknownKeys" ∈ constraintNames) (recordLabel path)
  have hkey : recordLabel path ++ "." ++ "unknownKeys" = recordLabel path ++ ".unknownKeys" :=
    String.append_assoc ..
  rw [hkey] at hlookup
  unfold keysIssue
  dsimp only
  rw [hlookup]
  split <;> rfl

end

namespace Definition

variable {d e e' : Definition} {rest : DataPath}

/-- One definition governs at a path, where no property is declared twice. -/
theorem At.unique (h : d.At rest e) (h' : d.At rest e')
    (hnames : ∀ path p, d.At path p → p.NamesUnique) : e = e' := by
  induction h with
  | here d =>
    cases h'
    rfl
  | items hk hi i h ih =>
    cases h' with
    | items hk' hi' i hat =>
      cases hi.symm.trans hi'
      exact ih hat fun path p hp => hnames _ p (.items hk hi 0 hp)
  | @property d p e fields name path hk hp hm h ih =>
    cases h' with
    | property hk' hp' hm' hat =>
      cases hp.symm.trans hp'
      have hunique : (fields.map (·.1)).Nodup := hnames [] d (.here d) hk hp
      have hsame : (name, p) = (name, _) := List.inj_on_of_nodup_map hunique hm hm' rfl
      cases hsame
      exact ih hat fun path q hq => hnames _ q (.property hk hp hm hq)

end Definition

namespace FieldMap

variable {fields : FieldMap} {path : DataPath} {e e' : Definition} {label constraint text : String}

/-- One definition governs at a path of data, where nothing is declared twice. -/
theorem Governs.unique (hnames : fields.UniqueNames) (h : fields.Governs path e)
    (h' : fields.Governs path e') : e = e' := by
  obtain ⟨name, d, rest, hm, rfl, hat⟩ := h
  obtain ⟨name', d', rest', hm', hpath, hat'⟩ := h'
  cases hpath
  have hsame : (name, d) = (name, d') := List.inj_on_of_nodup_map hnames.top hm hm' rfl
  cases hsame
  exact hat.unique hat' fun path p hp => hnames.nested _ p ⟨name, d, path, hm, rfl, hp⟩

/-- Whether an issue is addressed is told by the definition of its path. -/
theorem isAddressed_iff (hnames : fields.UniqueNames) {issue : Issue}
    (h : fields.Governs issue.path e) :
    fields.IsAddressed label constraint issue ↔
      issue.path.label = label ∧ issue.code.constraintName e.kind = constraint := by
  constructor
  · rintro ⟨e', h', hlabel, hname⟩
    rw [h.unique hnames h']
    exact ⟨hlabel, hname⟩
  · rintro ⟨hlabel, hname⟩
    exact ⟨e, h, hlabel, hname⟩

/-- An issue that a definition tells is reworded as it should be if its message changes exactly where
it is addressed. -/
theorem rewordedBy_of_message (hnames : fields.UniqueNames) {issue issue' : Issue}
    (h : fields.Governs issue.path e) (hunworded : issue.unworded = issue'.unworded)
    (hmessage : issue'.message =
      if issue.path.label = label ∧ issue.code.constraintName e.kind = constraint then text
      else issue.message) : RewordedBy fields label constraint text issue issue' := by
  have haddressed : fields.IsAddressed label constraint issue ↔
      issue.path.label = label ∧ issue.code.constraintName e.kind = constraint :=
    isAddressed_iff hnames h
  refine ⟨hunworded, fun hissue => ?_, fun _ _ hissue => ?_⟩
  · rw [hmessage, if_pos (haddressed.mp hissue)]
  · rw [hmessage, if_neg (mt haddressed.mpr hissue)]

/-- What two runs tell of one definition is reworded as it should be, if records that refuse keys are
called by their labels. -/
theorem rewordedBy_of_worded (hnames : fields.UniqueNames) (hconstraint : constraint ∈ constraintNames)
    (htext : text ≠ "") {o : Options} (h : fields.Governs path e)
    (hplain : constraint = "unknownKeys" → e.RefusesKeys → path.IsPlain) {issue issue' : Issue}
    (hworded : Worded o (o.addressing label constraint text) path.label e path issue issue') :
    RewordedBy fields label constraint text issue issue' := by
  cases hworded with
  | @told finding hfits =>
    refine rewordedBy_of_message hnames h rfl ?_
    have hmessage := Site.message_addressing hconstraint htext o label
      (Compile.subject path.label e.attributes) path finding.constraint finding.standard
    rw [show finding.constraint.name = finding.code.constraintName e.kind from hfits] at hmessage
    exact hmessage
  | keys hrefuses keys =>
    refine rewordedBy_of_message hnames h rfl ?_
    have hmessage := message_keysIssue_addressing hconstraint o label text path keys
    by_cases hkeys : "unknownKeys" = constraint
    · have hlabel : recordLabel path = path.label := by
        obtain ⟨name, d, rest, -, rfl, -⟩ := h
        exact (recordLabel_eq_label_iff name rest).mpr (hplain hkeys.symm hrefuses)
      rw [hlabel] at hmessage
      exact hmessage
    · rw [if_neg fun h => hkeys h.2] at hmessage
      rw [hmessage]
      exact (if_neg fun h => hkeys h.2).symm

/-- Messages for a constraint address what definitions find broken, if records that refuse keys are
called by their labels or the constraint is another one. -/
theorem messagesAddress_of_isPlain (hnames : fields.UniqueNames)
    (hconstraint : constraint ∈ constraintNames)
    (hplain : constraint = "unknownKeys" →
      ∀ path e, fields.Governs path e → e.RefusesKeys → path.IsPlain) :
    fields.MessagesAddress constraint := by
  intro o name label text htext
  have hparallel := Validator.parallel_validate o
    (insertEntry (label ++ "." ++ constraint) text o.messages) name fields
  refine hparallel.imp fun validator other hdata data => (hdata data).imp fun _ _ hverdict =>
    hverdict.imp fun issue issue' hworded => ?_
  cases hworded with
  | above hpath hsame =>
    have hnone (e : Definition) : ¬ fields.Governs issue.path e := by
      rintro ⟨name, d, rest, -, heq, -⟩
      rw [hpath] at heq
      cases heq
    exact ⟨hsame, fun ⟨e, h, _⟩ => absurd h (hnone e), fun e h => absurd h (hnone e)⟩
  | field h hworded =>
    exact rewordedBy_of_worded hnames hconstraint htext h
      (fun hkeys hrefuses => hplain hkeys _ _ h hrefuses) hworded

end FieldMap

/-- What stands in the second of two lists that correspond has its counterpart in the first. -/
theorem exists_of_forall₂ {R : Issue → Issue → Prop} {issues issues' : List Issue} {issue' : Issue}
    (h : List.Forall₂ R issues issues') (hm : issue' ∈ issues') : ∃ issue ∈ issues, R issue issue' := by
  induction h with
  | nil => cases hm
  | @cons issue other rest rest' hfirst hrest ih =>
    rcases List.mem_cons.mp hm with rfl | hm
    · exact ⟨issue, List.mem_cons_self, hfirst⟩
    · obtain ⟨found, hfound, hrelated⟩ := ih hm
      exact ⟨found, List.mem_cons_of_mem _ hfound, hrelated⟩

namespace Definition

variable {d : Definition} {label : String} {check : Check} {options : Options}

/-- A record that refuses keys tells of some where it stands. -/
theorem RefusesKeys.raises (h : d.RefusesKeys) (hstop : options.abortEarly = false)
    (base : DataPath) (hc : d.compile label = .ok check) :
    ∃ keys, Raises options base check (keysIssue options base keys) := by
  obtain ⟨fields, hp⟩ := h.declared
  obtain ⟨checks, hchecks, rfl⟩ := exists_of_compile_record h.kind hp hc
  obtain ⟨key, hkey, -⟩ := exists_fresh_text (checks.map (·.1))
  obtain ⟨found, hfound, -⟩ := resolveProperties_absent hstop base
    (d.attributes.requiredProperties.value?.getD []) key (.bool true) hkey
  have hother : undeclaredKeys (checks.map (·.1)) [(key, Value.bool true)] = [(key, .bool true)] := by
    simpa [undeclaredKeys] using hkey
  have hrefused : refusedKeys options .refuse base (checks.map (·.1)) [(key, .bool true)] =
      [keysIssue options base [key]] := by
    unfold refusedKeys
    rw [hother]
    rfl
  have hunknown : RecordRule.unknown ⟨d.attributes.requiredProperties.value?.getD [],
      d.attributes.additionalProperties.getD false⟩ = .refuse := by
    rw [RecordRule.unknown, h.closed]
    rfl
  have hclosed : keysIssue options base [key] ∈ (closeRecord options .refuse base
      (checks.map (·.1)) [(key, .bool true)] found).asRecord.issues := by
    rw [Gathered.asRecord, closeRecord_eq_limit, hrefused, limitIssues, hstop]
    exact List.mem_append_right _ (List.mem_singleton_self _)
  refine ⟨[key], .record [(key, .bool true)], _, rfl, ?_, Site.mem_withMembers
    ⟨Compile.subject label d.attributes, options, base⟩ (.record [(key, .bool true)]) hclosed⟩
  rw [Check.run_recordOf_record, hfound, hunknown]
  rfl

end Definition

namespace FieldMap

variable {fields : FieldMap} {path : DataPath} {e : Definition} {checks : List (String × Check)}

/-- At each place of a record that refuses keys, a validator that goes on after an issue tells of some,
in data that leads to the place through first items. -/
theorem Governs.exists_keysIssue (h : fields.Governs path e) (hrefuses : e.RefusesKeys)
    (hnames : fields.UniqueNames) (hc : compileFields id fields = .ok checks) (options : Options)
    (hstop : options.abortEarly = false) (name : String) :
    ∃ data issues keys, Validator.validate ⟨name, options, checks⟩ data = .ok (.rejected issues) ∧
      keysIssue options path.throughFirst keys ∈ issues := by
  obtain ⟨below, part, hpart, hraises⟩ := h.raises hnames hstop hc name
  obtain ⟨keys, hkeys⟩ := hrefuses.raises hstop path.throughFirst hpart
  obtain ⟨data, issues, hrun, hm⟩ := hraises _ hkeys
  exact ⟨data, issues, keys, hrun, hm⟩

/-- Where messages address what definitions find broken, an issue that is addressed under a given
message bears it. -/
theorem MessagesAddress.message_eq {constraint : String} (h : fields.MessagesAddress constraint)
    (hc : compileFields id fields = .ok checks) {o : Options} {name label text : String}
    (htext : text ≠ "") {data : Value} {issues : List Issue}
    (hrun : Validator.validate ⟨name, o.addressing label constraint text, checks⟩ data =
      .ok (.rejected issues))
    {issue : Issue} (hm : issue ∈ issues) (haddressed : fields.IsAddressed label constraint issue) :
    issue.message = text := by
  have hcompile (options : Options) :
      Validator.compile options name fields = .ok ⟨name, options, checks⟩ := by
    rw [Validator.compile, hc]
    rfl
  have hgiven := h o name label text htext
  rw [hcompile, hcompile] at hgiven
  cases hgiven with
  | ok hdata =>
    have hverdict := hdata data
    rw [hrun] at hverdict
    generalize Validator.validate ⟨name, o, checks⟩ data = result at hverdict
    cases hverdict with
    | ok hparallel =>
      cases hparallel with
      | rejected hissues =>
        -- What is addressed is told by the path and the code, which are the same without the message.
        obtain ⟨before, -, hreworded⟩ := exists_of_forall₂ hissues hm
        have hpath := congrArg (fun issue : Issue => issue.path) hreworded.unworded
        have hcode := congrArg (fun issue : Issue => issue.code) hreworded.unworded
        change before.path = issue.path at hpath
        change before.code = issue.code at hcode
        refine hreworded.addressed ?_
        unfold IsAddressed at haddressed ⊢
        rw [hpath, hcode]
        exact haddressed

/-- Where messages for undeclared keys address what definitions find broken, records that refuse keys
are called by their labels. -/
theorem isPlain_of_messagesAddress (hnames : fields.UniqueNames)
    (hc : compileFields id fields = .ok checks) (h : fields.MessagesAddress "unknownKeys")
    (hgoverns : fields.Governs path e) (hrefuses : e.RefusesKeys) : path.IsPlain := by
  by_contra hplain
  let place := path.throughFirst
  let given := Options.standard.addressing place.label "unknownKeys" "m"
  have hplace : ¬ place.IsPlain := fun h => hplain (DataPath.isPlain_of_throughFirst h)
  have hlabel : recordLabel place ≠ place.label := by
    obtain ⟨name, d, rest, -, rfl, -⟩ := hgoverns
    exact mt (recordLabel_eq_label_iff name (DataPath.throughFirst rest)).mp hplace
  -- Under the message some keys are refused at the place, and the issue is addressed.
  obtain ⟨data, issues, keys, hrun, hm⟩ :=
    hgoverns.exists_keysIssue hrefuses hnames hc given rfl ""
  have haddressed : fields.IsAddressed place.label "unknownKeys" (keysIssue given place keys) :=
    ⟨e, hgoverns.throughFirst, rfl, rfl⟩
  have hgiven : (keysIssue given place keys).message = "m" :=
    h.message_eq hc (by decide) hrun hm haddressed
  -- But the check tells it in words of its own.
  have hown := message_keysIssue_addressing
    (List.mem_cons_self : "unknownKeys" ∈ constraintNames) .standard place.label "m" place keys
  rw [if_neg fun h => hlabel h.1] at hown
  have hchars := congrArg String.toList (hown.symm.trans hgiven)
  simp [keysIssue, Options.standard] at hchars

/-- Messages for a constraint address what definitions find broken, at whatever index, except those for
undeclared keys: these do so exactly if no record that refuses keys lies in a list or is a field
without a name. -/
theorem messagesAddress_iff (hnames : fields.UniqueNames)
    (hc : compileFields id fields = .ok checks) {constraint : String}
    (hconstraint : constraint ∈ constraintNames) :
    fields.MessagesAddress constraint ↔ (constraint = "unknownKeys" →
      ∀ path e, fields.Governs path e → e.RefusesKeys → path.IsPlain) := by
  constructor
  · rintro h rfl path e hgoverns hrefuses
    exact isPlain_of_messagesAddress hnames hc h hgoverns hrefuses
  · exact messagesAddress_of_isPlain hnames hconstraint

end FieldMap

/-- A closed record of one text. -/
def closedRow : Definition := ⟨.ofKind .object, .undeclared, .of [("a", .ofKind .string)]⟩

theorem compile_closedRow (label : String) : ∃ check, closedRow.compile label = .ok check :=
  ⟨_, Definition.compile_of_declared rfl rfl rfl fun _ hm => by cases hm⟩

/-- Below a closed record of one text stand the record and the text. -/
theorem eq_of_at_closedRow {rest : DataPath} {e : Definition} (h : closedRow.At rest e) :
    rest = [] ∧ e = closedRow ∨ rest = [.key "a"] ∧ e = .ofKind .string := by
  cases h with
  | here => exact .inl ⟨rfl, rfl⟩
  | items hk => cases hk
  | property hk hp hm hat =>
    cases hp
    cases List.mem_singleton.mp hm
    cases hat with
    | here => exact .inr ⟨rfl, rfl⟩
    | items hk => cases hk
    | property hk => cases hk

theorem namesUnique_closedRow {rest : DataPath} {e : Definition} (h : closedRow.At rest e) :
    e.NamesUnique := by
  intro properties _ hp
  rcases eq_of_at_closedRow h with ⟨-, rfl⟩ | ⟨-, rfl⟩
  · cases hp
    exact List.nodup_singleton _
  · cases hp

/-- A list of closed records. -/
def closedRows : FieldMap := [("rows", ⟨.ofKind .array, .of closedRow, .undeclared⟩)]

theorem uniqueNames_closedRows : closedRows.UniqueNames where
  top := List.nodup_singleton _
  nested path e h := by
    obtain ⟨name, d, rest, hm, rfl, hat⟩ := h
    cases List.mem_singleton.mp hm
    cases hat with
    | here => exact nofun
    | items hk hi i hat =>
      cases hi
      exact namesUnique_closedRow hat
    | property hk => cases hk

/-- A message for undeclared keys of the records in a list reaches none of them. -/
theorem not_messagesAddress_closedRows : ¬ closedRows.MessagesAddress "unknownKeys" := by
  intro h
  obtain ⟨part, hpart⟩ := compile_closedRow "rows[]"
  have hrows : Definition.compile "rows" ⟨.ofKind .array, .of closedRow, .undeclared⟩ = .ok _ :=
    Definition.compile_of_item rfl rfl hpart
  have hc : compileFields id closedRows = .ok _ := Definition.compileFields_cons_of_ok hrows rfl
  have hgoverns : closedRows.Governs [.key "rows", .index 0] closedRow :=
    ⟨"rows", _, [.index 0], List.mem_cons_self, rfl, .items rfl rfl 0 (.here _)⟩
  have hplain := FieldMap.isPlain_of_messagesAddress uniqueNames_closedRows hc h hgoverns
    ⟨rfl, ⟨_, rfl⟩, rfl⟩
  obtain ⟨name, heq⟩ := hplain.names (.index 0) (by simp)
  cases heq

/-- A closed record in another one, beside a list of texts. -/
def closedAccount : FieldMap :=
  [("user", ⟨.ofKind .object, .undeclared, .of [("home", closedRow)]⟩),
   ("tags", ⟨.ofKind .array, .of (.ofKind .string), .undeclared⟩)]

theorem governs_closedAccount {path : DataPath} {e : Definition}
    (h : closedAccount.Governs path e) : e.NamesUnique ∧ (e.kind = .object → path.IsPlain) := by
  obtain ⟨name, d, rest, hm, rfl, hat⟩ := h
  simp only [closedAccount, List.mem_cons, List.not_mem_nil, or_false, Prod.mk.injEq] at hm
  rcases hm with ⟨rfl, rfl⟩ | ⟨rfl, rfl⟩
  · cases hat with
    | here =>
      refine ⟨fun _ hp => ?_, fun _ => ⟨by simp, by simp⟩⟩
      cases hp
      exact List.nodup_singleton _
    | items hk => cases hk
    | property hk hp hm hat =>
      cases hp
      cases List.mem_singleton.mp hm
      refine ⟨namesUnique_closedRow hat, fun hkind => ?_⟩
      rcases eq_of_at_closedRow hat with ⟨rfl, -⟩ | ⟨-, rfl⟩
      · exact ⟨by simp, by simp⟩
      · cases hkind
  · cases hat with
    | here => exact ⟨nofun, nofun⟩
    | items hk hi i hat =>
      cases hi
      cases hat with
      | here => exact ⟨nofun, nofun⟩
      | items hk => cases hk
      | property hk => cases hk
    | property hk => cases hk

/-- A message for undeclared keys of a record that lies in no list reaches it, at whatever depth. -/
theorem FieldMap.messagesAddress_closedAccount :
    closedAccount.UniqueNames ∧ (∃ checks, compileFields id closedAccount = .ok checks) ∧
      "unknownKeys" ∈ constraintNames ∧ closedAccount.MessagesAddress "unknownKeys" := by
  have hnames : closedAccount.UniqueNames :=
    ⟨by decide, fun path e h => (governs_closedAccount h).1⟩
  obtain ⟨home, hhome⟩ := compile_closedRow "user.home"
  have huser : Definition.compile "user" ⟨.ofKind .object, .undeclared, .of [("home", closedRow)]⟩ =
      .ok _ :=
    Definition.compile_of_declared rfl rfl (Definition.compileFields_cons_of_ok hhome rfl)
      fun _ hm => by cases hm
  have hc : compileFields id closedAccount = .ok _ := Definition.compileFields_cons_of_ok huser rfl
  have hconstraint : "unknownKeys" ∈ constraintNames := List.mem_cons_self
  exact ⟨hnames, ⟨_, hc⟩, hconstraint, (messagesAddress_iff hnames hc hconstraint).mpr
    fun _ path e h hrefuses => (governs_closedAccount h).2 hrefuses.kind⟩

end Intake
