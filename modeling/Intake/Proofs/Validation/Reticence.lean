import Intake.Proofs.Validation.Parts
import Intake.Proofs.Validation.ToldByCode

/-!
# What is told of secret values beside the codes

Two values of one type that a secret field refuses under the same codes are told of in the same words,
unless the field restricts the schemes of URLs or holds JSON to a JSON Schema: the detail of a scheme
that is not allowed names it, and the detail of JSON that breaks its JSON Schema quotes the parts at
fault. Main statement: so the details tell nothing of the value beside its type and the codes exactly
if no two different schemes can be refused, no text in JSON breaks the JSON Schema, and all other
values of one type that break it do so in the same way.
-/

namespace Intake

/-- The issue of a scheme that is not allowed. -/
def Site.protocolIssue (site : Site) (allowed : List String) (s scheme : String) : Issue :=
  site.issueWith .protocolNotAllowed .protocol
    (site.label ++ " must use one of the allowed protocols: " ++ ", ".intercalate allowed) (.text s)
    (", ".intercalate allowed) [("protocol", .text scheme)]

/-- The issue of a text that is no JSON. -/
def Site.unreadableIssue (site : Site) (s : String) : Issue :=
  site.issue .invalidJson .json (site.label ++ " must be valid JSON") (.text s) "json"

/-- What is told of a violation: the steps to the part at fault, and what is wrong with it. -/
def JsonSchema.Violation.told (violation : JsonSchema.Violation) : List String × String :=
  (violation.path.map fun segment => String.ofList segment.text, violation.message)

/-- What is told of a violation, as a record. -/
def JsonSchema.toldRecord (told : List String × String) : Value :=
  .record [("path", .texts told.1), ("message", .text told.2)]

theorem JsonSchema.toldRecord_injective : Function.Injective JsonSchema.toldRecord := by
  rintro ⟨path, message⟩ ⟨path', message'⟩ h
  have htexts : Function.Injective Value.text := fun _ _ => Value.text.inj
  simp only [toldRecord, Value.texts, Value.record.injEq, List.cons.injEq, Prod.mk.injEq,
    Value.list.injEq, Value.text.injEq, and_true, true_and] at h
  rw [htexts.list_map h.1, h.2]

/-- A value breaks a JSON Schema with some violations, in order. -/
structure Value.Breaks (schema v : Value) (violations : List JsonSchema.Violation) : Prop where
  /-- The value holds something as JSON, which has the violations. -/
  found : ∃ isRead part, v.jsonPart? = some (isRead, part) ∧
    JsonSchema.violations schema isRead part = .ok violations
  /-- There are some. -/
  ne_nil : violations ≠ []

namespace LeafRule

variable {site : Site} {v : Value} {issue : Issue}

/-- What a rule finds bears the codes that the rule can tell, whether its run comes to an end or not. -/
theorem bearCodes_foundBy (rule : LeafRule) (site : Site) (v : Value) :
    BearCodes rule.codes (foundBy (rule.run site v)) := by
  cases hrun : rule.run site v with
  | error failure => exact .nil
  | ok o => exact bearCodes_run hrun

/-- A scheme is refused in a text with which nothing else is wrong. -/
theorem run_url_of_scheme {rule : TextRule} {transform : Option Transform} {allowed : List String}
    {s scheme : String} (hs : rule.issues site s = .ok []) (hscheme : urlScheme? s = some scheme)
    (hallowed : scheme ∉ allowed) :
    (LeafRule.url rule transform (some allowed)).run site (.text s) =
      .ok (.reject (.text s) (site.protocolIssue allowed s scheme)) := by
  simp [run, hs, checkUrl, hscheme, hallowed, Site.protocolIssue]

/-- What may be wrong with a URL, its scheme apart: it is no text, the text is refused, or it is no
URL. -/
def urlIssues (rule : TextRule) (site : Site) (v : Value) : List Issue :=
  [site.typeIssue v "string"] ++ v.text?.elim [] (fun s => (rule.issues site s).toOption.getD []) ++
    [site.issue .invalidUrl .url (site.label ++ " must be a valid URL") v "url"]

/-- A URL is refused for its scheme, if nothing else is wrong, or for something else. -/
theorem mem_or_scheme_of_url {rule : TextRule} {transform : Option Transform}
    {protocols : Option (List String)}
    (h : issue ∈ foundBy ((LeafRule.url rule transform protocols).run site v)) :
    issue ∈ urlIssues rule site v ∨
      ∃ s scheme allowed, v = .text s ∧ rule.issues site s = .ok [] ∧ urlScheme? s = some scheme ∧
        protocols = some allowed ∧ scheme ∉ allowed ∧
          issue = site.protocolIssue allowed s scheme := by
  cases v with
  | text s =>
    simp only [run] at h
    cases hs : rule.issues site s with
    | error failure =>
      rw [hs] at h
      cases h
    | ok issues =>
      rw [hs] at h
      cases issues with
      | cons first rest =>
        refine .inl (List.mem_append_left _ (List.mem_append_right _ ?_))
        change issue ∈ (rule.issues site s).toOption.getD []
        rw [hs]
        exact h
      | nil =>
        simp only [foundBy, checkUrl] at h
        cases hscheme : urlScheme? s with
        | none =>
          rw [hscheme] at h
          exact .inl (List.mem_append_right _ h)
        | some scheme =>
          rw [hscheme] at h
          cases protocols with
          | none => cases h
          | some allowed =>
            by_cases hallowed : scheme ∈ allowed
            · simp [hallowed] at h
            · simp only [List.contains_iff_mem, hallowed, if_false] at h
              exact .inr ⟨s, scheme, allowed, rfl, hs, hscheme, rfl, hallowed,
                List.mem_singleton.mp h⟩
  | _ => exact .inl (List.mem_append_left _ (List.mem_append_left _ h))

/-- What may be wrong with a URL, its scheme apart, is told by the code alone. -/
theorem toldByCode_urlIssues (hsecret : site.subject.secret = true) (type : String)
    (rule : TextRule) :
    ToldByCode [.invalidType, .tooSmall, .tooBig, .patternMismatch, .invalidFormat, .invalidUrl]
      fun v : ValueOf type => urlIssues rule site v.1 := by
  have hurl : ToldByCode [.invalidUrl] fun v : ValueOf type =>
      [site.issue .invalidUrl .url (site.label ++ " must be a valid URL") v.1 "url"] :=
    .issue hsecret _ _ _ _ ValueOf.isNull_eq
  exact ((toldByCode_typeIssue hsecret "string").append
    ((rule.toldByCode hsecret).optional fun v : ValueOf type => v.1.text?) (by decide)).append hurl
    (by decide)

/-- A secret URL is told of by the code alone if no two different schemes can be refused. -/
theorem toldByCode_url (hsecret : site.subject.secret = true) {type : String} {rule : TextRule}
    {transform : Option Transform} {protocols : Option (List String)}
    (hschemes : ∀ allowed ∈ protocols, ∀ s t scheme other, rule.issues site s = .ok [] →
      rule.issues site t = .ok [] → urlScheme? s = some scheme → urlScheme? t = some other →
        scheme ∉ allowed → other ∉ allowed → scheme = other) :
    ToldByCode (LeafRule.url rule transform protocols).codes
      fun v : ValueOf type => foundBy ((LeafRule.url rule transform protocols).run site v.1) where
  bear v := bearCodes_foundBy _ site v.1
  alike v w i hi j hj hcode := by
    have hothers := toldByCode_urlIssues hsecret type rule
    have hother : ErrorCode.protocolNotAllowed ∉ [ErrorCode.invalidType, .tooSmall, .tooBig,
        .patternMismatch, .invalidFormat, .invalidUrl] := by decide
    rcases mem_or_scheme_of_url hi with hi | ⟨s, scheme, allowed, -, hs, ha, hp, hna, rfl⟩ <;>
      rcases mem_or_scheme_of_url hj with hj | ⟨t, other, allowed', -, ht, hb, hp', hnb, rfl⟩
    · exact hothers.alike v w i hi j hj hcode
    · have hbear := hothers.bear v i hi
      rw [hcode] at hbear
      exact absurd hbear hother
    · have hbear := hothers.bear w j hj
      rw [← hcode] at hbear
      exact absurd hbear hother
    · cases hp.symm.trans hp'
      obtain rfl := hschemes allowed hp s t scheme other hs ht ha hb hna hnb
      have htold : ToldByCode [.protocolNotAllowed]
          fun s : String => [site.protocolIssue allowed s scheme] :=
        .issueWith hsecret _ _ _ _ (fun _ _ => rfl) _
      exact htold.alike s t _ List.mem_cons_self _ List.mem_cons_self rfl

/-- JSON that breaks its JSON Schema is refused with what is told of the violations. -/
theorem run_json_of_breaks {schema : Value} {first : JsonSchema.Violation}
    {rest : List JsonSchema.Violation} (h : schema.Breaks v (first :: rest)) :
    (LeafRule.json (some schema)).run site v =
      .ok (.reject v (schemaIssue site v first (first :: rest))) := by
  obtain ⟨⟨isRead, part, hpart, hviolations⟩, -⟩ := h
  cases v with
  | text s =>
    obtain ⟨read, hread, heq⟩ := Option.map_eq_some_iff.mp hpart
    cases heq
    simp [run, hread, checkSchema, hviolations]
  | _ =>
    cases hpart
    simp [run, checkSchema, hviolations]

/-- A text that cannot be read is refused. -/
theorem run_json_of_unreadable (schema : Option Value) {s : String} (h : Json.read? s = none) :
    (LeafRule.json schema).run site (.text s) = .ok (.reject (.text s) (site.unreadableIssue s)) := by
  simp [run, h, Site.unreadableIssue]

/-- JSON is refused as it cannot be read or breaks its JSON Schema. -/
theorem exists_of_invalidJson {schema : Option Value}
    (h : issue ∈ foundBy ((LeafRule.json schema).run site v)) :
    (∃ s, v = .text s ∧ issue = site.unreadableIssue s) ∨
      ∃ declared ∈ schema, ∃ first rest, declared.Breaks v (first :: rest) ∧
        issue = schemaIssue site v first (first :: rest) := by
  have hpart {isRead : Bool} {part : Value} (hpart : v.jsonPart? = some (isRead, part))
      (h : issue ∈ foundBy (checkSchema site schema isRead v part)) :
      ∃ declared ∈ schema, ∃ first rest, declared.Breaks v (first :: rest) ∧
        issue = schemaIssue site v first (first :: rest) := by
    cases schema with
    | none => cases h
    | some declared =>
      simp only [checkSchema] at h
      cases hviolations : JsonSchema.violations declared isRead part with
      | error failure =>
        rw [hviolations] at h
        cases h
      | ok violations =>
        rw [hviolations] at h
        cases violations with
        | nil => cases h
        | cons first rest =>
          exact ⟨declared, rfl, first, rest, ⟨⟨isRead, part, hpart, hviolations⟩, by simp⟩,
            List.mem_singleton.mp h⟩
  cases v with
  | text s =>
    simp only [run] at h
    cases hread : Json.read? s with
    | none =>
      rw [hread] at h
      exact .inl ⟨s, rfl, List.mem_singleton.mp h⟩
    | some part =>
      rw [hread] at h
      exact .inr (hpart (by rw [Value.jsonPart?, hread]; rfl) h)
  | _ => exact .inr (hpart rfl h)

/-- The issue of a value that breaks its JSON Schema, by what is told of the violations. -/
theorem schemaIssue_eq (site : Site) (v : Value) (first : JsonSchema.Violation)
    (all : List JsonSchema.Violation) :
    schemaIssue site v first all = site.issueWith .invalidJson .json
      (site.label ++ " does not match its JSON Schema: " ++ first.told.2) v "json matching schema"
      [("errors", .list ((all.map (·.told)).map JsonSchema.toldRecord))] := by
  rw [List.map_map]
  rfl

/-- What is told of violations determines the issue. -/
theorem schemaIssue_congr (site : Site) (v : Value) {first first' : JsonSchema.Violation}
    {rest rest' : List JsonSchema.Violation}
    (h : (first :: rest).map (·.told) = (first' :: rest').map (·.told)) :
    schemaIssue site v first (first :: rest) = schemaIssue site v first' (first' :: rest') := by
  have hfirst : first.told = first'.told := (List.cons.inj h).1
  rw [schemaIssue_eq, schemaIssue_eq, h, hfirst]

/-- The issue tells what is told of violations. -/
theorem told_eq_of_schemaIssue {site : Site} {v w : Value} {first first' : JsonSchema.Violation}
    {all all' : List JsonSchema.Violation}
    (h : (schemaIssue site v first all).detail = (schemaIssue site w first' all').detail) :
    all.map (·.told) = all'.map (·.told) := by
  have hcontext := congrArg Detail.context h
  rw [schemaIssue_eq, schemaIssue_eq] at hcontext
  simp only [Issue.detail, Site.issueWith, Option.some.injEq, List.cons.injEq, Prod.mk.injEq,
    Value.list.injEq, and_true, true_and] at hcontext
  exact JsonSchema.toldRecord_injective.list_map hcontext

/-- A secret that must be JSON is told of by the code alone if no text in JSON breaks the JSON Schema
and values of one type break it in one way. -/
theorem toldByCode_json (hsecret : site.subject.secret = true) {type : String} {schema : Option Value}
    (htext : ∀ declared ∈ schema, ∀ s violations, ¬ declared.Breaks (.text s) violations)
    (halike : ∀ declared ∈ schema, ∀ v w violations others, v.typeName = w.typeName →
      declared.Breaks v violations → declared.Breaks w others →
        violations.map (·.told) = others.map (·.told)) :
    ToldByCode (LeafRule.json schema).codes
      fun v : ValueOf type => foundBy ((LeafRule.json schema).run site v.1) where
  bear v := bearCodes_foundBy _ site v.1
  alike v w i hi j hj _ := by
    -- Values of one type are both texts or neither, so what cannot be read is not compared with what
    -- breaks the JSON Schema.
    have htexts {u : ValueOf type} {s : String} (hu : u.1 = .text s) (u' : ValueOf type) :
        ∃ t, u'.1 = .text t := by
      obtain ⟨u', hu'⟩ := u'
      obtain ⟨u, rfl⟩ := u
      cases hu
      cases u' with
      | text t => exact ⟨t, rfl⟩
      | _ => simp [Value.typeName] at hu'
    rcases exists_of_invalidJson hi with ⟨s, hv, rfl⟩ | ⟨declared, hd, first, rest, hbreaks, rfl⟩ <;>
      rcases exists_of_invalidJson hj with ⟨t, hw, rfl⟩ | ⟨_, hd', first', rest', hbreaks', rfl⟩
    · have htold : ToldByCode [.invalidJson] fun s : String => [site.unreadableIssue s] :=
        .issue hsecret _ _ _ _ fun _ _ => rfl
      exact htold.alike s t _ List.mem_cons_self _ List.mem_cons_self rfl
    · obtain ⟨t, hw⟩ := htexts hv w
      exact absurd (hw ▸ hbreaks') (htext _ hd' t _)
    · obtain ⟨s, hv⟩ := htexts hw v
      exact absurd (hv ▸ hbreaks) (htext _ hd s _)
    · cases Option.mem_unique hd hd'
      rw [schemaIssue_congr site v.1
        (halike declared hd v.1 w.1 _ _ (v.2.trans w.2.symm) hbreaks hbreaks')]
      have htold : ToldByCode [.invalidJson]
          fun v : ValueOf type => [schemaIssue site v.1 first' (first' :: rest')] :=
        .issueWith hsecret _ _ _ _ ValueOf.isNull_eq _
      exact htold.alike v w _ List.mem_cons_self _ List.mem_cons_self rfl

end LeafRule

/-- A check tells of two values of one type in the same words where it refuses them under the same
codes. -/
def Check.TellsAlike (check : Check) : Prop :=
  ∀ (options : Options) (path : DataPath) (v w : Value) (o o' : Outcome), v.typeName = w.typeName →
    check.run options path v = .ok o → check.run options path w = .ok o' →
      o.issues.map (·.code) = o'.issues.map (·.code) →
        o.issues.map Issue.detail = o'.issues.map Issue.detail

/-- A check of a value without parts tells by the code alone if its rule does, also where own choices
stand in for what the rule finds. -/
theorem Check.exists_toldByCode_leaf {subject : Subject} {rule : LeafRule} {codes : List ErrorCode}
    {options : Options} {path : DataPath} {type : String} (hsecret : subject.secret = true)
    (hmembers : .enumMismatch ∈ codes → subject.members = none)
    (h : ToldByCode codes fun v : ValueOf type => foundBy (rule.run ⟨subject, options, path⟩ v.1)) :
    ∃ codes, ToldByCode codes fun v : ValueOf type =>
      foundBy ((Check.leaf subject rule).run options path v.1) := by
  simp only [Check.run_leaf]
  cases hnone : subject.members with
  | none =>
    refine ⟨codes, h.of_subset fun v => ?_⟩
    cases rule.run ⟨subject, options, path⟩ v.1 with
    | error failure => exact List.nil_subset _
    | ok o =>
      simp only [Except.map, Site.withMembers, hnone]
      exact List.Subset.refl _
  | some values =>
    have hdisjoint : ∀ code ∈ codes, code ∉ [ErrorCode.enumMismatch] := by
      intro code hm heq
      rw [List.mem_singleton.mp heq] at hm
      cases (hmembers hm).symm.trans hnone
    have hchoice : ToldByCode [.enumMismatch] fun v : ValueOf type =>
        [Site.choiceIssue ⟨subject, options, path⟩ v.1 values] :=
      toldByCode_choiceIssue hsecret values
    refine ⟨_, (h.append hchoice hdisjoint).of_subset fun v => ?_⟩
    cases rule.run ⟨subject, options, path⟩ v.1 with
    | error failure => exact List.nil_subset _
    | ok o =>
      simp only [Except.map, Site.withMembers, hnone]
      split
      · exact List.subset_append_right _ _
      · exact List.subset_append_left _ _

/-- A check of a value without parts tells alike if its rule tells by the code alone. -/
theorem Check.tellsAlike_leaf {subject : Subject} {rule : LeafRule} {codes : List ErrorCode}
    (hsecret : subject.secret = true) (hmembers : .enumMismatch ∈ codes → subject.members = none)
    (h : ∀ options path type, ToldByCode codes fun v : ValueOf type =>
      foundBy (rule.run ⟨subject, options, path⟩ v.1)) : (Check.leaf subject rule).TellsAlike := by
  intro options path v w o o' htype hv hw hcodes
  obtain ⟨codes, hrun⟩ :=
    exists_toldByCode_leaf hsecret hmembers (h options path w.typeName)
  refine map_detail_eq (fun i hi j hj hcode => ?_) hcodes
  exact hrun.alike ⟨v, htype⟩ ⟨w, rfl⟩ i (by rw [hv]; exact hi) j (by rw [hw]; exact hj) hcode

namespace Check.TellsAlike

variable {subject : Subject} {v w : Value}

/-- Two values of one type that a rule refuses with one issue each, under the same code, are told of
in the same words if the check tells alike. -/
theorem detail_eq {rule : LeafRule} (h : (Check.leaf subject rule).TellsAlike) {i j : Issue}
    (htype : v.typeName = w.typeName)
    (hv : rule.run ⟨subject, .standard, []⟩ v = .ok (.reject v i))
    (hw : rule.run ⟨subject, .standard, []⟩ w = .ok (.reject w j)) (hcode : i.code = j.code) :
    i.detail = j.detail := by
  have hmembers (site : Site) (v : Value) (i : Issue) :
      site.withMembers v (.reject v i) = .reject v i := by
    unfold Site.withMembers
    split <;> rfl
  have hrun {v : Value} {i : Issue} (hv : rule.run ⟨subject, .standard, []⟩ v = .ok (.reject v i)) :
      (Check.leaf subject rule).run .standard [] v = .ok (.reject v i) := by
    rw [Check.run_leaf, hv, Except.map, hmembers]
  have hdetails := h .standard [] v w _ _ htype (hrun hv) (hrun hw)
    (congrArg (fun code => [code]) hcode)
  exact (List.cons.inj hdetails).1

/-- Only one scheme can be refused, since the detail names it. -/
theorem scheme_eq {rule : TextRule} {transform : Option Transform} {allowed : List String}
    (h : (Check.leaf subject (.url rule transform (some allowed))).TellsAlike)
    {s t scheme other : String} (hs : rule.issues ⟨subject, .standard, []⟩ s = .ok [])
    (ht : rule.issues ⟨subject, .standard, []⟩ t = .ok []) (hscheme : urlScheme? s = some scheme)
    (hother : urlScheme? t = some other) (hns : scheme ∉ allowed) (hnt : other ∉ allowed) :
    scheme = other := by
  have htype : (Value.text s).typeName = (Value.text t).typeName := rfl
  have hdetail := h.detail_eq htype (LeafRule.run_url_of_scheme hs hscheme hns)
    (LeafRule.run_url_of_scheme ht hother hnt) rfl
  have hcontext := congrArg Detail.context hdetail
  simpa [Issue.detail, Site.protocolIssue, Site.issueWith] using hcontext

/-- No text in JSON breaks the JSON Schema, since the detail of a text that is no JSON is another. -/
theorem not_breaks_text {schema : Value}
    (h : (Check.leaf subject (.json (some schema))).TellsAlike) (s : String)
    (violations : List JsonSchema.Violation) : ¬ schema.Breaks (.text s) violations := by
  intro hbreaks
  obtain ⟨first, rest, rfl⟩ := List.exists_cons_of_ne_nil hbreaks.ne_nil
  have hunread : Json.read? "" = none := by decide
  have htype : (Value.text s).typeName = (Value.text "").typeName := rfl
  have hdetail := h.detail_eq htype (LeafRule.run_json_of_breaks hbreaks)
    (LeafRule.run_json_of_unreadable _ hunread) rfl
  have hexpected := congrArg Detail.expected hdetail
  simp [Issue.detail, schemaIssue, Site.unreadableIssue, Site.issueWith, Site.issue] at hexpected

/-- Values of one type break the JSON Schema in one way, since the detail tells the violations. -/
theorem told_eq {schema : Value} (h : (Check.leaf subject (.json (some schema))).TellsAlike)
    (htype : v.typeName = w.typeName) {violations others : List JsonSchema.Violation}
    (hv : schema.Breaks v violations) (hw : schema.Breaks w others) :
    violations.map (·.told) = others.map (·.told) := by
  obtain ⟨first, rest, rfl⟩ := List.exists_cons_of_ne_nil hv.ne_nil
  obtain ⟨first', rest', rfl⟩ := List.exists_cons_of_ne_nil hw.ne_nil
  exact LeafRule.told_eq_of_schemaIssue (h.detail_eq htype (LeafRule.run_json_of_breaks hv)
    (LeafRule.run_json_of_breaks hw) rfl)

end Check.TellsAlike

namespace FieldAttributes

/-- A text is refused for the scheme of the URL that it is, and for nothing else. -/
structure RefusesScheme (a : FieldAttributes) (s scheme : String) : Prop where
  /-- The text is admitted. -/
  text : a.AdmitsText s
  /-- The text is a URL with the scheme. -/
  url : urlScheme? s = some scheme
  /-- Schemes are listed, and the scheme is none of them. -/
  listed : ∃ listed ∈ a.protocols, scheme ∉ listed.map Compile.protocolName

/-- A value breaks the JSON Schema that a field declares. -/
def Breaks (a : FieldAttributes) (v : Value) (violations : List JsonSchema.Violation) : Prop :=
  ∃ schema ∈ a.declaredSchema, (Value.record schema).Breaks v violations

end FieldAttributes

namespace Definition

/-- A definition has a kind of values without parts. -/
def IsLeaf (d : Definition) : Prop := d.kind ≠ .array ∧ d.kind ≠ .object

/-- What can be told of refused values does not depend on them: of URLs at most one scheme is refused,
no text in JSON breaks the JSON Schema, and other values break it in one way for each type. -/
structure KeepsQuiet (d : Definition) : Prop where
  /-- At most one scheme can be refused. -/
  scheme : d.kind = .url → ∀ s t scheme other, d.attributes.RefusesScheme s scheme →
    d.attributes.RefusesScheme t other → scheme = other
  /-- No text in JSON breaks the JSON Schema. -/
  text : d.kind = .json → ∀ s violations, ¬ d.attributes.Breaks (.text s) violations
  /-- What is told of values of one type that break the JSON Schema is the same. -/
  alike : d.kind = .json → ∀ v w violations others, v.typeName = w.typeName →
    d.attributes.Breaks v violations → d.attributes.Breaks w others →
      violations.map (·.told) = others.map (·.told)

variable {d : Definition} {label : String} {check : Check}

theorem IsLeaf.isWhole (h : d.IsLeaf) : d.IsWhole :=
  ⟨fun hk => absurd hk h.1, fun hk => absurd hk h.2⟩

/-- The rule of a field of JSON is the one for the JSON Schema that it declares. -/
theorem leafRule_of_json {rule : LeafRule} (hk : d.kind = .json)
    (h : Compile.leafRule label d.attributes = .ok rule) :
    rule = .json (d.attributes.declaredSchema.map .record) := by
  unfold Compile.leafRule at h
  rw [show d.attributes.kind = .json from hk] at h
  obtain ⟨schema, hschema, h⟩ := exists_of_bind_eq_ok h
  cases h
  rcases Compile.optional_eq_ok hschema with ⟨hnone, rfl⟩ | ⟨entries, found, hsome, rfl, hfound⟩
  · rw [FieldAttributes.declaredSchema, hnone]
    rfl
  · rw [FieldAttributes.declaredSchema, hsome, Compile.jsonSchema_eq_ok hfound]
    rfl

/-- The rule of a field of URLs finds nothing wrong with the texts that the field admits, and allows
the schemes that it lists. -/
theorem leafRule_of_url {rule : LeafRule} (hk : d.kind = .url)
    (h : Compile.leafRule label d.attributes = .ok rule) :
    ∃ texts transform, (∀ site s, texts.issues site s = .ok [] ↔ d.attributes.AdmitsText s) ∧
      rule = .url texts transform (d.attributes.protocols.map (·.map Compile.protocolName)) := by
  unfold Compile.leafRule at h
  have hkind : d.attributes.kind = .url := hk
  rw [hkind] at h
  obtain ⟨texts, htexts, h⟩ := exists_of_bind_eq_ok h
  cases h
  exact ⟨texts, _, Compile.textRule_issues_eq_ok_nil_iff (by rw [hkind]; rfl) htexts, rfl⟩

/-- The check of a secret field tells alike if its rule tells by the code alone. -/
theorem tellsAlike_of_toldByCode {rule : LeafRule} {codes : List ErrorCode}
    (hsecret : d.isSecret = true) (hcodes : .enumMismatch ∈ codes → d.kind = .enumeration)
    (h : ∀ site : Site, site.subject.secret = true → ∀ type,
      ToldByCode codes fun v : ValueOf type => foundBy (rule.run site v.1)) :
    (Check.leaf (Compile.subject label d.attributes) rule).TellsAlike := by
  refine Check.tellsAlike_leaf hsecret (fun hm => ?_) fun options path type => h _ hsecret type
  exact if_pos (hcodes hm)

/-- Secret fields that are neither URLs nor JSON tell alike. -/
theorem tellsAlike_of_kind {rule : LeafRule}
    (hrule : Compile.leafRule label d.attributes = .ok rule) (hsecret : d.isSecret = true)
    (hleaf : d.IsLeaf) (hurl : d.kind ≠ .url) (hjson : d.kind ≠ .json) :
    (Check.leaf (Compile.subject label d.attributes) rule).TellsAlike := by
  have htold {codes : List ErrorCode} (hcodes : .enumMismatch ∉ codes)
      (h : ∀ site : Site, site.subject.secret = true → ∀ type,
        ToldByCode codes fun v : ValueOf type => foundBy (rule.run site v.1)) :
      (Check.leaf (Compile.subject label d.attributes) rule).TellsAlike :=
    tellsAlike_of_toldByCode hsecret (fun hm => absurd hm hcodes) h
  unfold Compile.leafRule at hrule
  split at hrule
  case h_1 =>
    obtain ⟨texts, -, hrule⟩ := exists_of_bind_eq_ok hrule
    cases hrule
    exact htold (by decide) fun site hs type => LeafRule.toldByCode_text hs _ _
  case h_2 => contradiction
  case h_3 | h_4 =>
    obtain ⟨texts, -, hrule⟩ := exists_of_bind_eq_ok hrule
    cases hrule
    exact htold (by decide) fun site hs type => LeafRule.toldByCode_text hs _ _
  case h_5 =>
    cases hrule
    exact htold (by decide) fun site hs type => LeafRule.toldByCode_number hs _
  case h_6 =>
    cases hrule
    exact htold (by decide) fun site hs type => LeafRule.toldByCode_boolean hs
  case h_7 =>
    split at hrule <;> cases hrule
    exact tellsAlike_of_toldByCode hsecret (fun _ => ‹_›) fun site hs type =>
      LeafRule.toldByCode_choice hs _
  case h_8 => exact absurd ‹_› hleaf.1
  case h_9 => exact absurd ‹_› hleaf.2
  case h_10 =>
    obtain ⟨range, -, hrule⟩ := exists_of_bind_eq_ok hrule
    cases hrule
    exact htold (by decide) fun site hs type => LeafRule.toldByCode_date hs _
  case h_11 =>
    obtain ⟨range, -, hrule⟩ := exists_of_bind_eq_ok hrule
    cases hrule
    exact htold (by decide) fun site hs type => LeafRule.toldByCode_dateTime hs _ _
  case h_12 =>
    cases hrule
    exact htold (by decide) fun site hs type => LeafRule.toldByCode_time hs
  case h_13 =>
    cases hrule
    exact htold (by decide) fun site hs type => LeafRule.toldByCode_file hs _
  case h_14 => contradiction

/-- The check of a secret field tells alike if the field keeps quiet. -/
theorem KeepsQuiet.tellsAlike (h : d.KeepsQuiet) (hsecret : d.isSecret = true) (hleaf : d.IsLeaf)
    (hc : d.compile label = .ok check) : check.TellsAlike := by
  obtain ⟨rule, hrule, rfl⟩ := exists_of_compile_whole hleaf.isWhole hc
  by_cases hurl : d.kind = .url
  · obtain ⟨texts, transform, hadmits, rfl⟩ := leafRule_of_url hurl hrule
    refine tellsAlike_of_toldByCode hsecret (fun hm => absurd hm (by simp [LeafRule.codes]))
      fun site hs type => LeafRule.toldByCode_url hs
        fun allowed ha s t scheme other hst htt hscheme hother hns hnt => ?_
    obtain ⟨listed, hlisted, rfl⟩ := Option.map_eq_some_iff.mp ha
    exact h.scheme hurl s t scheme other
      ⟨(hadmits site s).mp hst, hscheme, listed, hlisted, hns⟩
      ⟨(hadmits site t).mp htt, hother, listed, hlisted, hnt⟩
  by_cases hjson : d.kind = .json
  · obtain rfl := leafRule_of_json hjson hrule
    refine tellsAlike_of_toldByCode hsecret (fun hm => absurd hm (by simp [LeafRule.codes]))
      fun site hs type => LeafRule.toldByCode_json hs (fun declared hd s violations hbreaks => ?_)
        fun declared hd v w violations others htype hbreaks hother => ?_
    · obtain ⟨schema, hschema, rfl⟩ := Option.map_eq_some_iff.mp hd
      exact h.text hjson s violations ⟨schema, hschema, hbreaks⟩
    · obtain ⟨schema, hschema, rfl⟩ := Option.map_eq_some_iff.mp hd
      exact h.alike hjson v w violations others htype ⟨schema, hschema, hbreaks⟩
        ⟨schema, hschema, hother⟩
  · exact tellsAlike_of_kind hrule hsecret hleaf hurl hjson

/-- A field keeps quiet if its check tells alike. -/
theorem keepsQuiet_of_tellsAlike (hleaf : d.IsLeaf) (hc : d.compile label = .ok check)
    (h : check.TellsAlike) : d.KeepsQuiet := by
  obtain ⟨rule, hrule, rfl⟩ := exists_of_compile_whole hleaf.isWhole hc
  refine ⟨fun hk s t scheme other hs ht => ?_, fun hk s violations hbreaks => ?_,
    fun hk v w violations others htype hv hw => ?_⟩
  · obtain ⟨texts, transform, hadmits, rfl⟩ := leafRule_of_url hk hrule
    obtain ⟨hstext, hsurl, listed, hlisted, hsnot⟩ := hs
    obtain ⟨httext, hturl, _, hlisted', htnot⟩ := ht
    cases Option.mem_unique hlisted hlisted'
    rw [Option.mem_def.mp hlisted] at h
    exact h.scheme_eq ((hadmits _ s).mpr hstext) ((hadmits _ t).mpr httext) hsurl hturl hsnot htnot
  · obtain rfl := leafRule_of_json hk hrule
    obtain ⟨schema, hschema, hbreaks⟩ := hbreaks
    rw [Option.mem_def.mp hschema] at h
    exact h.not_breaks_text s violations hbreaks
  · obtain rfl := leafRule_of_json hk hrule
    obtain ⟨schema, hschema, hv⟩ := hv
    obtain ⟨_, hschema', hw⟩ := hw
    cases Option.mem_unique hschema hschema'
    rw [Option.mem_def.mp hschema] at h
    exact h.told_eq htype hv hw

/-- A field that neither restricts the schemes of URLs nor holds JSON to a JSON Schema keeps quiet. -/
theorem keepsQuiet_of_unrestricted (hurl : d.kind = .url → d.attributes.protocols = none)
    (hjson : d.kind = .json → d.attributes.declaredSchema = none) : d.KeepsQuiet := by
  have hscheme {s scheme : String} (hk : d.kind = .url) : ¬ d.attributes.RefusesScheme s scheme := by
    rintro ⟨-, -, listed, hlisted, -⟩
    cases (hurl hk).symm.trans hlisted
  have hbreaks {v : Value} {violations : List JsonSchema.Violation} (hk : d.kind = .json) :
      ¬ d.attributes.Breaks v violations := by
    rintro ⟨schema, hschema, -⟩
    cases (hjson hk).symm.trans hschema
  exact ⟨fun hk _ _ _ _ h => (hscheme hk h).elim, fun hk _ _ => hbreaks hk,
    fun hk _ _ _ _ _ h => (hbreaks hk h).elim⟩

/-- The check of a secret field without parts tells of two values of one type in the same words where
it refuses them under the same codes, exactly if the field keeps quiet: no two different schemes can
be refused, no text in JSON breaks the JSON Schema, and other values of one type break it in one
way. -/
theorem tellsAlike_iff_keepsQuiet (hsecret : d.isSecret = true) (hleaf : d.IsLeaf)
    (hc : d.compile label = .ok check) : check.TellsAlike ↔ d.KeepsQuiet :=
  ⟨keepsQuiet_of_tellsAlike hleaf hc, fun h => h.tellsAlike hsecret hleaf hc⟩

end Definition

/-- A secret code of four characters at least. -/
def pinDefinition : Definition where
  attributes :=
    { FieldAttributes.ofKind .string with sensitive := some true, minLength := .of 4 }
  items := .undeclared
  properties := .undeclared

/-- Nothing but its shortness is told of a code. -/
theorem tellsAlike_pin : ∃ check, pinDefinition.compile "pin" = .ok check ∧ check.TellsAlike := by
  have hleaf : pinDefinition.IsLeaf := ⟨nofun, nofun⟩
  exact ⟨_, rfl, (Definition.tellsAlike_iff_keepsQuiet rfl hleaf rfl).mpr
    (Definition.keepsQuiet_of_unrestricted nofun nofun)⟩

/-- Secret JSON that must be a text. -/
def tokenDefinition : Definition where
  attributes :=
    { FieldAttributes.ofKind .json with
      sensitive := some true
      rules := .of
        { minimum := .undeclared
          maximum := .undeclared
          pattern := .undeclared
          values := .undeclared
          allowedProtocols := .undeclared
          errorMessage := .undeclared
          jsonSchema := .of [("type", .text "string")] } }
  items := .undeclared
  properties := .undeclared

/-- A number breaks the JSON Schema of texts, and its digits are told. -/
theorem breaks_token (n : Int) (message : String)
    (h : ((JsonSchema.violations (.record [("type", .text "string")]) false (.int n)).toOption.map
      (List.map (·.told))) = some [([], message)]) :
    ∃ violations, tokenDefinition.attributes.Breaks (.int n) violations ∧
      violations.map (·.told) = [([], message)] := by
  cases hv : JsonSchema.violations (.record [("type", .text "string")]) false (.int n) with
  | error failure =>
    rw [hv] at h
    cases h
  | ok violations =>
    rw [hv] at h
    have htold : violations.map (·.told) = [([], message)] := Option.some.inj h
    refine ⟨violations, ⟨_, rfl, ⟨false, _, rfl, hv⟩, ?_⟩, htold⟩
    rintro rfl
    cases htold

/-- Secret JSON that breaks its JSON Schema is quoted, so that two numbers under the same code can be
told apart. -/
theorem not_tellsAlike_token :
    ∃ check, tokenDefinition.compile "token" = .ok check ∧ tokenDefinition.isSecret = true ∧
      tokenDefinition.IsLeaf ∧ ¬ check.TellsAlike := by
  have hcompiles : (tokenDefinition.compile "token").isOk = true := by decide +kernel
  have hleaf : tokenDefinition.IsLeaf := ⟨nofun, nofun⟩
  obtain ⟨one, hone, htold⟩ := breaks_token 1 "1 is not of type 'string'" (by decide +kernel)
  obtain ⟨two, htwo, htold'⟩ := breaks_token 2 "2 is not of type 'string'" (by decide +kernel)
  cases hc : tokenDefinition.compile "token" with
  | error e =>
    rw [hc] at hcompiles
    cases hcompiles
  | ok check =>
    refine ⟨check, rfl, rfl, hleaf, fun h => ?_⟩
    have hsame := (Definition.keepsQuiet_of_tellsAlike hleaf hc h).alike rfl (.int 1) (.int 2) one two
      rfl hone htwo
    rw [htold, htold'] at hsame
    exact absurd hsame (by decide)

end Intake
