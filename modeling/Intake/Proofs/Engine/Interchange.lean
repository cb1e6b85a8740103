import Intake.Proofs.Engine.Faithful
import Intake.Proofs.Validation.Effect
import Intake.Proofs.Validation.Order

/-!
# Validators that share a key

A validator that is found under a key answers for everything that has this key. Main statement: what
validators are made of can be interchanged, if it has the same key, and records declare properties in
the same order at every place. The key shows the order of the fields, but hides that of properties,
and issues show both: so the condition is needed as well, unless the definitions cannot be made ready.
Values that the key does not tell apart are left out, as are digests that are the same by chance.
-/

namespace Intake

open Json

/-- The digests of two values tell their texts apart. -/
def DigestsTell (v w : Value) : Prop :=
  structuralDigest v = structuralDigest w → canonicalText v = canonicalText w

theorem DigestsTell.canonical_eq {v w : Value} (h : DigestsTell v w)
    (heq : structuralDigest v = structuralDigest w) : canonical v = canonical w :=
  String.ofList_injective (h heq)

namespace FieldMap

variable {fields fields' : FieldMap}

/-- Outlines with the same text name the same fields in the same order. -/
theorem names_eq_of_outline (h : canonical fields.outline = canonical fields'.outline) :
    fields.map (·.1) = fields'.map (·.1) := by
  have hkey := textsUnder_eq h "order"
  simp only [textsUnder, canonicalEntries, List.filter_cons, List.filter_nil, String.reduceEq,
    decide_true, decide_false, if_true, Bool.false_eq_true, if_false, List.map_cons, List.map_nil]
    at hkey
  exact Tells.texts.injective _ _ (List.cons.inj hkey).1

/-- Outlines with the same text hold definitions with the same text. -/
theorem fieldsRecord_eq_of_outline (h : canonical fields.outline = canonical fields'.outline) :
    canonical (Definition.fieldsRecord fields) = canonical (Definition.fieldsRecord fields') := by
  have hkey := textsUnder_eq h "fields"
  simp only [textsUnder, canonicalEntries, List.filter_cons, List.filter_nil, String.reduceEq,
    decide_true, decide_false, if_true, Bool.false_eq_true, if_false, List.map_cons, List.map_nil]
    at hkey
  unfold Definition.fieldsRecord
  rw [Definition.writtenFields_eq_map, Definition.writtenFields_eq_map]
  exact (List.cons.inj hkey).1

end FieldMap

namespace ValidatorSource

/-- What a validator is made of can be made ready. -/
def Ready (a : ValidatorSource) : Prop := ∃ validator, a.compile = .ok validator

/-- A validator made of one thing may answer for the other: neither can be made ready, or the
validators give the same verdict on all data. -/
def Interchangeable (a b : ValidatorSource) : Prop :=
  (¬ a.Ready ∧ ¬ b.Ready) ∨
    ∃ v w, a.compile = .ok v ∧ b.compile = .ok w ∧ ∀ data, v.validate data = w.validate data

/-- The same issues are told of all data in the same order, whatever the outputs are. -/
def TellsSameIssues (a b : ValidatorSource) : Prop :=
  (¬ a.Ready ∧ ¬ b.Ready) ∨
    ∃ v w, a.compile = .ok v ∧ b.compile = .ok w ∧
      ∀ data, (v.validate data).map Verdict.issues = (w.validate data).map Verdict.issues

/-- What is interchangeable tells the same issues. -/
theorem Interchangeable.tellsSameIssues {a b : ValidatorSource} (h : a.Interchangeable b) :
    a.TellsSameIssues b := by
  rcases h with h | ⟨v, w, hv, hw, hsame⟩
  · exact .inl h
  · exact .inr ⟨v, w, hv, hw, fun data => by rw [hsame data]⟩

variable {a b : ValidatorSource}

/-- A validator is made of the checks of the fields. -/
theorem compile_eq_ok_iff {v : Validator} :
    a.compile = .ok v ↔
      ∃ checks, compileFields id a.fields = .ok checks ∧ v = ⟨a.side.name, a.options, checks⟩ := by
  unfold compile Validator.compile
  cases compileFields id a.fields with
  | error e => simp [Except.map]
  | ok checks => simp [Except.map, eq_comm]

theorem ready_iff : a.Ready ↔ ∃ checks, compileFields id a.fields = .ok checks := by
  constructor
  · rintro ⟨v, hv⟩
    obtain ⟨checks, hchecks, -⟩ := compile_eq_ok_iff.mp hv
    exact ⟨checks, hchecks⟩
  · rintro ⟨checks, hchecks⟩
    exact ⟨_, compile_eq_ok_iff.mpr ⟨checks, hchecks, rfl⟩⟩

/-- What two things validators are made of share if they have the same key. -/
structure Shares (a b : ValidatorSource) : Prop where
  /-- The sides have the same name. -/
  name : a.side.name = b.side.name
  /-- The fields have the same text. -/
  fields : canonical a.fields.outline = canonical b.fields.outline
  /-- The options have the same effect. -/
  options : a.options.SameEffect b.options

/-- The same key is shared with the texts that it is made of. -/
theorem shares_of_key (hkey : a.key = b.key)
    (hfields : DigestsTell a.fields.outline b.fields.outline)
    (hoptions : DigestsTell a.options.written b.options.written) : Shares a b := by
  obtain ⟨hname, hf, ho⟩ := ValidatorKey.mk.inj hkey
  exact ⟨hname, hfields.canonical_eq hf,
    Options.sameEffect_of_canonical (hoptions.canonical_eq ho)⟩

namespace Shares

/-- What has the same key can be made ready under the same circumstances. -/
theorem ready_iff (h : Shares a b) (hv : a.fields.ValuesAlike b.fields) : a.Ready ↔ b.Ready := by
  rw [ValidatorSource.ready_iff, ValidatorSource.ready_iff, Definition.fields_compile_iff,
    Definition.fields_compile_iff]
  exact Definition.all_compile_iff (FieldMap.fieldsRecord_eq_of_outline h.fields) id
    fun name p p' hm hm' heq => Definition.compiles_iff p heq (hv name p p' hm hm')

/-- What has the same key is interchangeable if it declares properties in the same order. -/
theorem interchangeable_of_sameOrder (h : Shares a b) (hv : a.fields.ValuesAlike b.fields)
    (ho : a.fields.SameOrder b.fields) : a.Interchangeable b := by
  have hchecks : compileFields id a.fields = compileFields id b.fields :=
    Definition.compileFields_eq id
      (FieldMap.texts_eq_of_names_eq (FieldMap.fieldsRecord_eq_of_outline h.fields)
        (FieldMap.names_eq_of_outline h.fields))
      fun name p p' hm hm' heq =>
        Definition.compile_eq p heq (hv name p p' hm hm') (ho name p p' hm hm')
  by_cases hready : a.Ready
  · obtain ⟨v, hcompile⟩ := hready
    obtain ⟨checks, hc, rfl⟩ := compile_eq_ok_iff.mp hcompile
    rw [hchecks] at hc
    refine .inr ⟨_, _, hcompile, compile_eq_ok_iff.mpr ⟨checks, hc, rfl⟩, fun data => ?_⟩
    rw [h.name, h.options.validate_eq]
  · exact .inl ⟨hready, fun hb => hready ((h.ready_iff hv).mpr hb)⟩

/-- What has the same key and tells the same issues declares properties in the same order, if it can
be made ready. -/
theorem sameOrder_of_tellsSameIssues (h : Shares a b) (hv : a.fields.ValuesAlike b.fields)
    (hstop : a.options.abortEarly = false) (hnames : (a.fields.map (·.1)).Nodup)
    (hdistinct : a.fields.NamesDistinct b.fields) (hready : a.Ready)
    (hsame : a.TellsSameIssues b) : a.fields.SameOrder b.fields := by
  rcases hsame with ⟨hnot, -⟩ | ⟨v, w, hcompile, hcompile', hissues⟩
  · exact absurd hready hnot
  obtain ⟨checks, hc, rfl⟩ := compile_eq_ok_iff.mp hcompile
  obtain ⟨checks', hc', rfl⟩ := compile_eq_ok_iff.mp hcompile'
  have htext := FieldMap.fieldsRecord_eq_of_outline h.fields
  have hnames' : (b.fields.map (·.1)).Nodup := FieldMap.names_eq_of_outline h.fields ▸ hnames
  have hchecks : (checks.map (·.1)).Nodup := by rwa [names_of_compileFields hc]
  have hchecks' : (checks'.map (·.1)).Nodup := by rwa [names_of_compileFields hc']
  intro name p p' hm hm'
  obtain ⟨check, hcheck, hmem⟩ := Definition.compile_of_mem hc hm
  obtain ⟨check', hcheck', hmem'⟩ := Definition.compile_of_mem hc' hm'
  -- The check of a field is seen in the verdicts on records that hold this field only.
  have hpaths : SamePaths a.options [.key name] check check' := by
    intro v hv o o' ho ho'
    obtain ⟨verdict, hverdict, hpart⟩ :=
      validate_single ⟨a.side.name, a.options, checks⟩ hstop hchecks hmem hv ho
    obtain ⟨verdict', hverdict', hpart'⟩ :=
      validate_single ⟨b.side.name, a.options, checks'⟩ hstop hchecks' hmem' hv ho'
    have hverdicts := hissues (.record [(name, v)])
    rw [← h.options.validate_eq b.side.name, hverdict, hverdict'] at hverdicts
    have heq : verdict.issues = verdict'.issues := Except.ok.inj hverdicts
    rw [← hpart, ← hpart', heq]
  exact Definition.ordered_of_samePaths p hstop (FieldMap.text_eq_of_mem htext hnames' hm hm')
    (hv name p p' hm hm') (hdistinct name p p' hm hm') hcheck hcheck' hpaths

end Shares

/-- The same texts make the same key. -/
theorem key_eq_of_canonical (hname : a.side.name = b.side.name)
    (hfields : canonical a.fields.outline = canonical b.fields.outline)
    (hoptions : canonical a.options.written = canonical b.options.written) : a.key = b.key := by
  unfold key ValidatorKey.of structuralDigest canonicalText
  rw [hname, hfields, hoptions]

/-- A text that must be there. -/
def neededText : Definition :=
  ⟨{ FieldAttributes.ofKind .string with required := some true }, .undeclared, .undeclared⟩

/-- A record of texts that must be there, declared in an order. -/
def neededTexts (names : List String) : Definition :=
  ⟨.ofKind .object, .undeclared, .of (names.map fun name => (name, neededText))⟩

/-- One field, which is a record of texts that must be there, under options with messages. -/
def ofTexts (names : List String) (messages : List (String × String)) : ValidatorSource :=
  ⟨.input, [("o", neededTexts names)], { Options.standard with messages := messages }⟩

variable {names names' : List String} {messages messages' : List (String × String)}

theorem canonical_neededTexts (hperm : names.Perm names') (hn : names.Nodup) :
    canonical (neededTexts names).plain = canonical (neededTexts names').plain := by
  have hentries (names : List String) :
      canonicalEntries (Definition.writtenFields id (names.map fun name => (name, neededText))) =
        names.map fun name => (name, canonical neededText.plain) := by
    rw [FieldMap.canonicalEntries_writtenFields, List.map_map]
    rfl
  have hrecord : canonical (Definition.fieldsRecord (names.map fun name => (name, neededText))) =
      canonical (Definition.fieldsRecord (names'.map fun name => (name, neededText))) := by
    refine canonical_record_of_perm ?_ ?_
    · rw [hentries, hentries]
      exact hperm.map _
    · rw [hentries, List.map_map]
      exact (List.map_id names).symm ▸ hn
  rw [Definition.plain_eq, Definition.plain_eq]
  refine canonical_record_congr ?_
  simp only [neededTexts, Slot.entry, canonicalEntries_append, canonicalEntries, hrecord]

/-- The text of the fields hides the order of the texts in the record. -/
theorem canonical_outline_ofTexts (messages messages' : List (String × String))
    (hperm : names.Perm names') (hn : names.Nodup) :
    canonical (ofTexts names messages).fields.outline =
      canonical (ofTexts names' messages').fields.outline := by
  simp only [FieldMap.outline, ofTexts, List.map_cons, List.map_nil, canonical, canonicalEntries,
    canonical_neededTexts hperm hn]

/-- The text of the options hides the order of the messages. -/
theorem canonical_written_ofTexts (names names' : List String) (hperm : messages.Perm messages')
    (hk : (messages.map (·.1)).Nodup) :
    canonical (ofTexts names messages).options.written =
      canonical (ofTexts names' messages').options.written := by
  have hentries (messages : List (String × String)) :
      canonicalEntries (messages.map fun entry => (entry.1, .text entry.2)) =
        messages.map fun entry => (entry.1, stringText entry.2) := by
    induction messages with
    | nil => rfl
    | cons entry rest ih => rw [List.map_cons, canonicalEntries, ih, canonical, List.map_cons]
  have hrecord :
      canonical (.record (messages.map fun entry => (entry.1, .text entry.2))) =
        canonical (.record (messages'.map fun entry => (entry.1, .text entry.2))) := by
    refine canonical_record_of_perm ?_ ?_
    · rw [hentries, hentries]
      exact hperm.map _
    · rwa [hentries, List.map_map]
  refine canonical_record_congr ?_
  simp only [ofTexts, canonicalEntries, hrecord]

/-- The key hides the order of the texts and that of the messages. -/
theorem shares_ofTexts (hnames : names.Perm names') (hn : names.Nodup)
    (hmessages : messages.Perm messages') (hk : (messages.map (·.1)).Nodup) :
    Shares (ofTexts names messages) (ofTexts names' messages') :=
  ⟨rfl, canonical_outline_ofTexts messages messages' hnames hn,
    Options.sameEffect_of_canonical (canonical_written_ofTexts names names' hmessages hk)⟩

/-- What holds of two records of texts and of a text holds everywhere. -/
theorem everywhere_ofTexts {R : Definition → Definition → Prop}
    (hrecord : R (neededTexts names) (neededTexts names')) (htext : R neededText neededText) :
    (ofTexts names messages).fields.Everywhere R (ofTexts names' messages').fields := by
  intro name d d' hm hm'
  cases List.mem_singleton.mp hm
  cases List.mem_singleton.mp hm'
  refine Definition.everywhere_of hrecord (fun _ _ hk => by cases hk) ?_
  intro fields fields' _ hp hp' key p p' hkey hkey'
  cases hp
  cases hp'
  obtain ⟨_, -, heq⟩ := List.mem_map.mp hkey
  obtain ⟨_, -, heq'⟩ := List.mem_map.mp hkey'
  cases heq
  cases heq'
  exact Definition.everywhere_of htext (fun _ _ hk => by cases hk) fun _ _ hk => by cases hk

/-- No values are declared that a text could hide. -/
theorem valuesAlike_ofTexts :
    (ofTexts names messages).fields.ValuesAlike (ofTexts names' messages').fields := by
  refine everywhere_ofTexts ⟨?_, ?_, ?_⟩ ⟨?_, ?_, ?_⟩ <;> intro _ _ h <;> cases h

theorem propertyNames_neededTexts (names : List String) :
    (neededTexts names).propertyNames = names := by
  unfold Definition.propertyNames neededTexts
  dsimp only
  rw [List.map_map]
  exact List.map_id names

/-- No text is declared twice. -/
theorem namesDistinct_ofTexts (hn : names.Nodup) :
    (ofTexts names messages).fields.NamesDistinct (ofTexts names' messages').fields := by
  refine everywhere_ofTexts (fun _ => ?_) fun hk => by cases hk
  rwa [propertyNames_neededTexts]

/-- Records of texts can be made ready. -/
theorem ready_ofTexts (names : List String) (messages : List (String × String)) :
    (ofTexts names messages).Ready := by
  rw [ready_iff, Definition.fields_compile_iff]
  intro name p hm
  cases List.mem_singleton.mp hm
  unfold Definition.Compiles
  rw [Definition.compile_of_properties rfl rfl, Definition.properties_compile_iff]
  constructor
  · intro key text hkey
    obtain ⟨_, -, heq⟩ := List.mem_map.mp hkey
    cases heq
    exact ⟨_, rfl⟩
  · intro key hkey
    cases hkey

/-- Records of the same texts declared in another order have the same key and tell other issues. -/
theorem not_tellsSameIssues_ofTexts (hperm : names.Perm names') (hn : names.Nodup)
    (hne : names ≠ names') :
    (ofTexts names []).key = (ofTexts names' []).key ∧
      ¬ (ofTexts names []).TellsSameIssues (ofTexts names' []) := by
  refine ⟨key_eq_of_canonical rfl (canonical_outline_ofTexts [] [] hperm hn) rfl, fun hsame => hne ?_⟩
  have horder := (shares_ofTexts hperm hn (List.Perm.refl []) List.nodup_nil).sameOrder_of_tellsSameIssues
    valuesAlike_ofTexts rfl (List.nodup_singleton _) (namesDistinct_ofTexts hn)
    (ready_ofTexts names []) hsame
  have hhere := (horder "o" _ _ List.mem_cons_self List.mem_cons_self).here rfl
  rwa [propertyNames_neededTexts, propertyNames_neededTexts] at hhere

/-- Under one key, what validators are made of is interchangeable if it cannot be made ready or
declares properties in the same order at every place. Where validations tell all issues and no name
is declared twice, it tells the same issues only then. The key must tell the texts it is made of
apart, and these the values that the fields declare. -/
theorem interchangeable_iff_sameOrder (hkey : a.key = b.key)
    (hfields : DigestsTell a.fields.outline b.fields.outline)
    (hoptions : DigestsTell a.options.written b.options.written)
    (hv : a.fields.ValuesAlike b.fields) :
    (¬ a.Ready ∨ a.fields.SameOrder b.fields → a.Interchangeable b) ∧
      (a.options.abortEarly = false → (a.fields.map (·.1)).Nodup →
        a.fields.NamesDistinct b.fields → a.TellsSameIssues b →
          ¬ a.Ready ∨ a.fields.SameOrder b.fields) := by
  have hshares := shares_of_key hkey hfields hoptions
  constructor
  · rintro (hready | ho)
    · exact .inl ⟨hready, fun hb => hready ((hshares.ready_iff hv).mpr hb)⟩
    · exact hshares.interchangeable_of_sameOrder hv ho
  · intro hstop hnames hdistinct hsame
    by_cases hready : a.Ready
    · exact .inr
        (hshares.sameOrder_of_tellsSameIssues hv hstop hnames hdistinct hready hsame)
    · exact .inl hready

/-- Messages for two texts. -/
def textMessages : List (String × String) :=
  [("o.x.required", "No x."), ("o.y.required", "No y.")]

/-- Messages in another order change nothing, and texts in another order do. -/
theorem interchangeable_of_messages :
    (ofTexts ["x", "y"] textMessages).Interchangeable
        (ofTexts ["x", "y"] textMessages.reverse) ∧
      ¬ (ofTexts ["x", "y"] []).TellsSameIssues (ofTexts ["y", "x"] []) := by
  constructor
  · have hoptions := canonical_written_ofTexts ["x", "y"] ["x", "y"]
      (List.reverse_perm textMessages).symm (by decide)
    have hkey : (ofTexts ["x", "y"] textMessages).key =
        (ofTexts ["x", "y"] textMessages.reverse).key := key_eq_of_canonical rfl rfl hoptions
    have hiff := interchangeable_iff_sameOrder hkey (fun _ => rfl)
      (fun _ => congrArg String.ofList hoptions) valuesAlike_ofTexts
    exact hiff.1 (.inr (everywhere_ofTexts (fun _ => rfl) fun _ => rfl))
  · have hfields := canonical_outline_ofTexts [] [] (List.Perm.swap "y" "x" []) (by decide)
    have hkey : (ofTexts ["x", "y"] []).key = (ofTexts ["y", "x"] []).key :=
      key_eq_of_canonical rfl hfields rfl
    have hiff := interchangeable_iff_sameOrder hkey
      (fun _ => congrArg String.ofList hfields) (fun _ => rfl) valuesAlike_ofTexts
    intro hsame
    rcases hiff.2 rfl (by decide) (namesDistinct_ofTexts (by decide)) hsame with hready | horder
    · exact hready (ready_ofTexts _ _)
    · have hhere := (horder "o" _ _ List.mem_cons_self List.mem_cons_self).here rfl
      exact absurd hhere (by decide)

/-- What declares the texts of a record in another order has the same key, and must not answer for
it. -/
theorem not_interchangeable_of_order :
    (ofTexts ["x", "y"] []).key = (ofTexts ["y", "x"] []).key ∧
      DigestsTell (ofTexts ["x", "y"] []).fields.outline (ofTexts ["y", "x"] []).fields.outline ∧
      DigestsTell (ofTexts ["x", "y"] []).options.written
        (ofTexts ["y", "x"] []).options.written ∧
      ¬ (ofTexts ["x", "y"] []).Interchangeable (ofTexts ["y", "x"] []) := by
  have hperm : ["x", "y"].Perm ["y", "x"] := List.Perm.swap "y" "x" []
  have hfields := canonical_outline_ofTexts [] [] hperm (by decide)
  obtain ⟨hkey, hissues⟩ := not_tellsSameIssues_ofTexts hperm (by decide) (by decide)
  exact ⟨hkey, fun _ => congrArg String.ofList hfields, fun _ => rfl,
    fun h => hissues h.tellsSameIssues⟩

end ValidatorSource

end Intake
