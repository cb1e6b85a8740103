import Intake.Proofs.Document.Fragment
import Intake.Proofs.Field.Location
import Intake.Proofs.Validation.Codes
import Intake.Proofs.Validation.Parts

/-!
# Bounds told and enforced

The bounds that a fragment tells are those that the check of the definition enforces: a text, a number
or a list is reported as too small exactly if its length, its value or the number of its items lies
below the told bound, and as too big exactly if it lies above. A key or a secret must not be empty
besides. Checks that fail are not covered: they report nothing at all.
-/

namespace Intake

/-- Integers compare as numbers as they do by themselves. -/
theorem Number.lessThan_int (m n : Int) : (Number.int m).lessThan (.int n) = true ↔ m < n := by
  simp [lessThan, order?, place?, Extended.order, compare_lt_iff_lt]

namespace TextRule

/-- A text is reported for its length as its rule says. -/
theorem reportedAt_issues {rule : TextRule} {site : Site} {s : String} {issues : List Issue}
    (h : rule.issues site s = .ok issues) :
    (ReportedAt site.path .tooSmall issues ↔
        ∃ least ∈ rule.minLength, (s.length : Int) < least) ∧
      (ReportedAt site.path .tooBig issues ↔
        ∃ greatest ∈ rule.maxLength, greatest < (s.length : Int)) := by
  obtain ⟨byPattern, hpattern, h⟩ := exists_of_bind_eq_ok h
  cases h
  have hother (code : ErrorCode) (hcode : code ≠ .patternMismatch) :
      ¬ ReportedAt site.path code byPattern := by
    unfold patternIssues at hpattern
    split at hpattern
    · split at hpattern <;> cases hpattern <;> simp [patternIssue, Site.issue, hcode.symm]
    · cases hpattern
      simp
  have hsmall := hother .tooSmall (by decide)
  have hbig := hother .tooBig (by decide)
  cases rule.minLength <;> cases rule.maxLength <;> cases rule.format <;>
    simp [hsmall, hbig, shortIssue, longIssue, formatIssue, Site.issue]

end TextRule

namespace NumberRule

/-- A number is reported for its value as its rule says. -/
theorem reportedAt_issues (rule : NumberRule) (site : Site) (n : Number) :
    (ReportedAt site.path .tooSmall (rule.issues site n) ↔
        ∃ least ∈ rule.minimum, n.lessThan (.float least) = true) ∧
      (ReportedAt site.path .tooBig (rule.issues site n) ↔
        ∃ greatest ∈ rule.maximum, (Number.float greatest).lessThan n = true) := by
  unfold issues
  cases rule.minimum <;> cases rule.maximum <;> cases rule.precision <;> simp [Site.issue]

end NumberRule

namespace ListRule

/-- A list is reported for the number of its items as its rule says. -/
theorem reportedAt_sizeIssues (rule : ListRule) (site : Site) (size : Nat) :
    (ReportedAt site.path .tooSmall (rule.sizeIssues site size) ↔
        ∃ least ∈ rule.minItems, (size : Int) < least) ∧
      (ReportedAt site.path .tooBig (rule.sizeIssues site size) ↔
        ∃ greatest ∈ rule.maxItems, greatest < (size : Int)) := by
  unfold sizeIssues
  cases rule.minItems <;> cases rule.maxItems <;> simp [Site.issueWith, Site.issue]

end ListRule

namespace LeafRule

variable {site : Site} {v : Value} {o : Outcome}

/-- A text is reported for its length as the rule of its field says, whether it is a URL or not. -/
theorem reportedAt_run_text {rule : TextRule} {transform : Option Transform} {leaf : LeafRule}
    (hleaf : leaf = .text rule transform ∨ ∃ protocols, leaf = .url rule transform protocols)
    (h : leaf.run site v = .ok o) :
    (ReportedAt site.path .tooSmall o.issues ↔
        ∃ s, v = .text s ∧ ∃ least ∈ rule.minLength, (s.length : Int) < least) ∧
      (ReportedAt site.path .tooBig o.issues ↔
        ∃ s, v = .text s ∧ ∃ greatest ∈ rule.maxLength, greatest < (s.length : Int)) := by
  cases v with
  | text s =>
    have hissues : ∃ issues, rule.issues site s = .ok issues ∧
        ∀ code, code = .tooSmall ∨ code = .tooBig →
          (ReportedAt site.path code o.issues ↔ ReportedAt site.path code issues) := by
      rcases hleaf with rfl | ⟨protocols, rfl⟩
      · obtain ⟨issues, hissues, rfl⟩ := exists_of_map_eq_ok h
        exact ⟨issues, hissues, fun _ _ => Iff.rfl⟩
      · simp only [run] at h
        split at h
        · rename_i hnil
          refine ⟨[], hnil, fun code hcode => ?_⟩
          cases h
          have hurl : ¬ ReportedAt site.path code
              (checkUrl site protocols s (site.shape transform s)).issues :=
            (bearCodes_checkUrl site protocols s _).not_reportedAt
              (by rcases hcode with rfl | rfl <;> decide)
          simp [hurl]
        · rename_i issues _ hissues
          cases h
          exact ⟨issues, hissues, fun _ _ => Iff.rfl⟩
        · cases h
    obtain ⟨issues, hissues, hsame⟩ := hissues
    obtain ⟨hsmall, hbig⟩ := TextRule.reportedAt_issues hissues
    rw [hsame _ (.inl rfl), hsame _ (.inr rfl), hsmall, hbig]
    simp
  | _ =>
    rcases hleaf with rfl | ⟨protocols, rfl⟩ <;> cases h <;>
      simp [Outcome.reject, Site.typeIssue, Site.issue]

/-- A number is reported for its value as the rule of its field says. -/
theorem reportedAt_run_number {rule : NumberRule} (h : (number rule).run site v = .ok o) :
    (ReportedAt site.path .tooSmall o.issues ↔
        ∃ n ∈ v.finite?, ∃ least ∈ rule.minimum, n.lessThan (.float least) = true) ∧
      (ReportedAt site.path .tooBig o.issues ↔
        ∃ n ∈ v.finite?, ∃ greatest ∈ rule.maximum,
          (Number.float greatest).lessThan n = true) := by
  rw [run] at h
  cases hn : v.finite? with
  | none =>
    rw [hn] at h
    cases h
    simp [Outcome.reject, Site.typeIssue, Site.issue]
  | some n =>
    rw [hn] at h
    cases h
    obtain ⟨hsmall, hbig⟩ := rule.reportedAt_issues site n
    rw [hsmall, hbig]
    simp

/-- A list of anything is reported for the number of its items as the rule of its field says. -/
theorem reportedAt_run_anyList {rule : ListRule} (h : (anyList rule).run site v = .ok o) :
    (ReportedAt site.path .tooSmall o.issues ↔
        ∃ items, v = .list items ∧ ∃ least ∈ rule.minItems, (items.length : Int) < least) ∧
      (ReportedAt site.path .tooBig o.issues ↔
        ∃ items, v = .list items ∧ ∃ greatest ∈ rule.maxItems, greatest < (items.length : Int)) := by
  cases v with
  | list items =>
    obtain ⟨hsmall, hbig⟩ := rule.reportedAt_sizeIssues site items.length
    simp only [run] at h
    split at h
    · rename_i hnil
      cases h
      rw [hnil] at hsmall hbig
      have hrepeated (code : ErrorCode) (hcode : code ≠ .notUnique) :
          ¬ ReportedAt site.path code (rule.repetitionIssues site items) :=
        (rule.bearCodes_repetitionIssues site items).not_reportedAt (by simpa using hcode)
      simp only [hrepeated .tooSmall (by decide), hrepeated .tooBig (by decide)]
      simpa using And.intro hsmall hbig
    · cases h
      simpa using And.intro hsmall hbig
  | _ =>
    cases h
    simp [Outcome.reject, Site.typeIssue, Site.issue]

end LeafRule

namespace Check

variable {subject : Subject} {options : Options} {path : DataPath} {v : Value} {o : Outcome}

/-- A check without parts reports what its rule reports, enumerated members apart. -/
theorem exists_of_run_leaf {rule : LeafRule} (h : (leaf subject rule).run options path v = .ok o) :
    ∃ whole, rule.run ⟨subject, options, path⟩ v = .ok whole ∧
      ∀ code ≠ ErrorCode.enumMismatch,
        (ReportedAt path code o.issues ↔ ReportedAt path code whole.issues) := by
  rw [run_leaf] at h
  obtain ⟨whole, hwhole, rfl⟩ := exists_of_map_eq_ok h
  exact ⟨whole, hwhole, fun code hcode => reportedAt_withMembers _ v whole hcode⟩

/-- Items are not reported where their list stands. -/
theorem not_reportedAt_gatherItems {stop pending : Bool} {item : Check} {items : List Value}
    {i : Nat} {found : Gathered (List Value)}
    (h : gatherItems stop pending (fun path v => item.run options path v) path i items = .ok found)
    (code : ErrorCode) : ¬ ReportedAt path code found.issues := by
  rintro ⟨issue, hm, rfl, -⟩
  refine forall_gatherItems (P := fun other => other.path ≠ issue.path) ?_ items h issue hm rfl
  intro i v o ho other hother heq
  have hbelow := allBelow_run item ho other hother
  rw [heq] at hbelow
  exact not_prefix_of_part _ _ hbelow

/-- What a list is reported for where it stands is the number of its items or that they repeat. -/
theorem reportedAt_close_iff {rule : ListRule} {item : Check} {items : List Value} {stop pending : Bool}
    {found : Gathered (List Value)}
    (h : gatherItems stop pending (fun path v => item.run options path v) path 0 items = .ok found)
    {code : ErrorCode} (hcode : code ≠ .notUnique) :
    ReportedAt path code (rule.close ⟨subject, options, path⟩ items found).issues ↔
      ReportedAt path code (rule.sizeIssues ⟨subject, options, path⟩ items.length) := by
  have hitems := not_reportedAt_gatherItems h code
  have hrepeated :
      ¬ ReportedAt path code (rule.repetitionIssues ⟨subject, options, path⟩ items) :=
    (rule.bearCodes_repetitionIssues _ items).not_reportedAt (by simpa using hcode)
  simp only [ListRule.close, reportedAt_append, hitems, or_false]
  split <;> simp [hrepeated]

/-- A list whose items are checked is reported for the number of its items as its rule says. -/
theorem reportedAt_run_listOf {rule : ListRule} {item : Check}
    (h : (listOf subject rule item).run options path v = .ok o) :
    (ReportedAt path .tooSmall o.issues ↔
        ∃ items, v = .list items ∧ ∃ least ∈ rule.minItems, (items.length : Int) < least) ∧
      (ReportedAt path .tooBig o.issues ↔
        ∃ items, v = .list items ∧ ∃ greatest ∈ rule.maxItems, greatest < (items.length : Int)) := by
  rcases v.list_or_ne with ⟨items, rfl⟩ | hne
  · rw [run_listOf_list] at h
    obtain ⟨whole, hwhole, rfl⟩ := exists_of_map_eq_ok h
    obtain ⟨found, hfound, rfl⟩ := exists_of_map_eq_ok hwhole
    obtain ⟨hsmall, hbig⟩ := rule.reportedAt_sizeIssues ⟨subject, options, path⟩ items.length
    rw [reportedAt_withMembers _ _ _ (by decide), reportedAt_withMembers _ _ _ (by decide),
      reportedAt_close_iff hfound (by decide), reportedAt_close_iff hfound (by decide), hsmall, hbig]
    simp
  · rw [run_listOf_of_ne _ _ _ _ _ hne] at h
    cases h
    simp [Outcome.reject, Site.typeIssue, Site.issue, hne]

end Check

/-- What of a value the bounds of a kind are about: the length of a text, a finite number itself, the
number of the items of a list. -/
def FieldKind.measure? (k : FieldKind) (v : Value) : Option Number :=
  match k, v with
  | .string, .text s | .url, .text s | .apiKey, .text s | .secret, .text s => some (.int s.length)
  | .number, v => v.finite?
  | .array, .list items => some (.int items.length)
  | _, _ => none

/-- The keywords of the least and of the greatest measure of a kind. -/
def FieldKind.boundKeywords? : FieldKind → Option (String × String)
  | .string | .url | .apiKey | .secret => some ("minLength", "maxLength")
  | .number => some ("minimum", "maximum")
  | .array => some ("minItems", "maxItems")
  | _ => none

/-- The measure of a value lies below the bound that a fragment tells. -/
def Value.IsBelowTold (v fragment : Value) (k : FieldKind) : Prop :=
  ∃ keywords ∈ k.boundKeywords?, ∃ bound ∈ fragment.bound? keywords.1, ∃ n ∈ k.measure? v,
    n.lessThan bound = true

/-- The measure of a value lies above the bound that a fragment tells. -/
def Value.IsAboveTold (v fragment : Value) (k : FieldKind) : Prop :=
  ∃ keywords ∈ k.boundKeywords?, ∃ bound ∈ fragment.bound? keywords.2, ∃ n ∈ k.measure? v,
    bound.lessThan n = true

namespace Compile

/-- The lengths that a text is asked for are those in force. -/
theorem lengths_of_textRule {label : String} {a : FieldAttributes} {rule : TextRule}
    (h : textRule label a = .ok rule) :
    a.leastLength = .ok rule.minLength ∧ a.greatestLength = .ok rule.maxLength := by
  have lifted {bound : Option Int} {length : Except Failure (Option Int)}
      (h : CompileError.lift length = .ok bound) : length = .ok bound := by
    cases length with
    | error failure => cases h
    | ok found =>
      cases h
      rfl
  unfold textRule at h
  obtain ⟨least, hleast, h⟩ := exists_of_bind_eq_ok h
  obtain ⟨greatest, hgreatest, h⟩ := exists_of_bind_eq_ok h
  obtain ⟨found, -, h⟩ := exists_of_bind_eq_ok h
  cases h
  exact ⟨lifted hleast, lifted hgreatest⟩

/-- What is asked of a text is asked for by the rule of its field; of a key or a secret it is asked
besides that it is not empty. -/
theorem exists_textRule {label : String} {a : FieldAttributes} {leaf : LeafRule}
    (hk : a.kind ∈ [.string, .url, .apiKey, .secret]) (h : leafRule label a = .ok leaf) :
    ∃ plain rule transform, textRule label a = .ok plain ∧
      (leaf = .text rule transform ∨ ∃ protocols, leaf = .url rule transform protocols) ∧
      rule.maxLength = plain.maxLength ∧
      rule.minLength = if a.kind.isConfigOnly then some (max (plain.minLength.getD 1) 1)
        else plain.minLength := by
  simp only [List.mem_cons, List.not_mem_nil, or_false] at hk
  unfold leafRule at h
  rcases hk with hk | hk | hk | hk <;> rw [hk] at h ⊢ <;>
    obtain ⟨rule, hrule, h⟩ := exists_of_bind_eq_ok h <;> cases h
  · exact ⟨rule, rule, _, hrule, .inl rfl, rfl, rfl⟩
  · exact ⟨rule, rule, _, hrule, .inr ⟨_, rfl⟩, rfl, rfl⟩
  all_goals
    unfold confidentialRule at hrule
    obtain ⟨plain, hplain, hrule⟩ := exists_of_bind_eq_ok hrule
    cases hrule
    exact ⟨plain, _, _, hplain, .inl rfl, rfl, rfl⟩

end Compile

namespace Value

variable {v fragment : Value} {k : FieldKind}

/-- A text lies outside the told lengths as its length does. -/
theorem isOutsideTold_text_iff (hk : k ∈ [.string, .url, .apiKey, .secret])
    {least greatest : Option Int} (hleast : fragment.bound? "minLength" = least.map .int)
    (hgreatest : fragment.bound? "maxLength" = greatest.map .int) :
    (v.IsBelowTold fragment k ↔ ∃ s, v = .text s ∧ ∃ bound ∈ least, (s.length : Int) < bound) ∧
      (v.IsAboveTold fragment k ↔
        ∃ s, v = .text s ∧ ∃ bound ∈ greatest, bound < (s.length : Int)) := by
  have hkeywords : k.boundKeywords? = some ("minLength", "maxLength") := by
    revert hk
    cases k <;> decide
  have hmeasure : k.measure? v = v.text?.map fun s => .int s.length := by
    revert hk
    cases k <;> cases v <;> simp [FieldKind.measure?, text?]
  unfold IsBelowTold IsAboveTold
  rw [hkeywords, hmeasure]
  cases v <;> simp [hleast, hgreatest, text?, Number.lessThan_int]

/-- A number lies outside the told bounds as itself. -/
theorem isOutsideTold_number_iff {least greatest : Option Binary64}
    (hleast : fragment.bound? "minimum" = least.map .float)
    (hgreatest : fragment.bound? "maximum" = greatest.map .float) :
    (v.IsBelowTold fragment .number ↔
        ∃ n ∈ v.finite?, ∃ bound ∈ least, n.lessThan (.float bound) = true) ∧
      (v.IsAboveTold fragment .number ↔
        ∃ n ∈ v.finite?, ∃ bound ∈ greatest, (Number.float bound).lessThan n = true) := by
  unfold IsBelowTold IsAboveTold
  simp only [FieldKind.boundKeywords?, FieldKind.measure?, Option.mem_some_iff, exists_eq_left',
    hleast, hgreatest]
  cases least <;> cases greatest <;> simp

/-- A list lies outside the told bounds as the number of its items does. -/
theorem isOutsideTold_array_iff {least greatest : Option Int}
    (hleast : fragment.bound? "minItems" = least.map .int)
    (hgreatest : fragment.bound? "maxItems" = greatest.map .int) :
    (v.IsBelowTold fragment .array ↔
        ∃ items, v = .list items ∧ ∃ bound ∈ least, (items.length : Int) < bound) ∧
      (v.IsAboveTold fragment .array ↔
        ∃ items, v = .list items ∧ ∃ bound ∈ greatest, bound < (items.length : Int)) := by
  unfold IsBelowTold IsAboveTold
  simp only [FieldKind.boundKeywords?, Option.mem_some_iff, exists_eq_left', hleast, hgreatest]
  cases v <;> simp [FieldKind.measure?, Number.lessThan_int]

end Value

namespace Definition

/-- Bounds are told as they are enforced: whenever a check comes to an end, it reports a value as too
small exactly if it lies below the told bound or is an empty key or secret, and as too big exactly if
it lies above the told bound. -/
def TellsBounds (d : Definition) (check : Check) (fragment : Value) : Prop :=
  ∀ (options : Options) (path : DataPath) (v : Value) (o : Outcome),
    check.run options path v = .ok o →
      (ReportedAt path .tooSmall o.issues ↔
        v.IsBelowTold fragment d.kind ∨ d.kind.isConfigOnly = true ∧ v = .text "") ∧
      (ReportedAt path .tooBig o.issues ↔ v.IsAboveTold fragment d.kind)

variable {d : Definition} {label : String} {check : Check} {fragment : Value}

/-- Only lists and records have parts. -/
theorem isWhole_of_ne (harray : d.kind ≠ .array) (hobject : d.kind ≠ .object) : d.IsWhole :=
  ⟨fun hk => absurd hk harray, fun hk => absurd hk hobject⟩

/-- The lengths of a text are told as they are enforced. -/
theorem tellsBounds_text (hk : d.kind ∈ [.string, .url, .apiKey, .secret])
    (hc : d.compile label = .ok check) (hf : d.describe = .ok fragment) :
    d.TellsBounds check fragment := by
  intro options path v o hr
  have hw : d.IsWhole := isWhole_of_ne (by rintro hkind; simp [hkind] at hk)
    (by rintro hkind; simp [hkind] at hk)
  obtain ⟨leaf, hleaf, rfl⟩ := exists_of_compile_whole hw hc
  obtain ⟨whole, hwhole, hsame⟩ := Check.exists_of_run_leaf hr
  obtain ⟨plain, rule, transform, hplain, hform, hmax, hmin⟩ := Compile.exists_textRule hk hleaf
  obtain ⟨hleast, hgreatest⟩ := Compile.lengths_of_textRule hplain
  obtain ⟨least, greatest, hleast', hgreatest', htold, htold'⟩ := bound?_of_text hf hk
  cases hleast.symm.trans hleast'
  cases hgreatest.symm.trans hgreatest'
  obtain ⟨hsmall, hbig⟩ := LeafRule.reportedAt_run_text hform hwhole
  obtain ⟨hbelow, habove⟩ := Value.isOutsideTold_text_iff (v := v) hk htold htold'
  rw [hsame _ (by decide), hsame _ (by decide), hsmall, hbig, hbelow, habove, hmax, hmin]
  refine ⟨?_, Iff.rfl⟩
  change _ ↔ _ ∨ d.attributes.kind.isConfigOnly = true ∧ _
  cases d.attributes.kind.isConfigOnly with
  | false => simp
  | true =>
    have hempty (s : String) : (s.length : Int) < 1 ↔ s = "" := by
      rw [← String.length_eq_zero_iff]
      omega
    cases plain.minLength with
    | none => simp [hempty]
    | some bound => simp [hempty, and_or_left, exists_or]

/-- The bounds of a number are told as they are enforced. -/
theorem tellsBounds_number (hk : d.kind = .number) (hc : d.compile label = .ok check)
    (hf : d.describe = .ok fragment) : d.TellsBounds check fragment := by
  intro options path v o hr
  obtain ⟨leaf, hleaf, rfl⟩ :=
    exists_of_compile_whole (isWhole_of_ne (by simp [hk]) (by simp [hk])) hc
  obtain ⟨whole, hwhole, hsame⟩ := Check.exists_of_run_leaf hr
  unfold Compile.leafRule at hleaf
  rw [show d.attributes.kind = .number from hk] at hleaf
  cases hleaf
  obtain ⟨hleast, hgreatest⟩ := bound?_of_number hf hk
  obtain ⟨hsmall, hbig⟩ := LeafRule.reportedAt_run_number hwhole
  obtain ⟨hbelow, habove⟩ := Value.isOutsideTold_number_iff (v := v) hleast hgreatest
  rw [hsame _ (by decide), hsame _ (by decide), hsmall, hbig, hk, hbelow, habove]
  simp [FieldKind.isConfigOnly]

/-- The bounds of a list are told as they are enforced, whether its items are checked or not. -/
theorem tellsBounds_array (hk : d.kind = .array) (hc : d.compile label = .ok check)
    (hf : d.describe = .ok fragment) : d.TellsBounds check fragment := by
  intro options path v o hr
  obtain ⟨hleast, hgreatest⟩ := bound?_of_array hf hk
  obtain ⟨hbelow, habove⟩ := Value.isOutsideTold_array_iff (v := v) hleast hgreatest
  rw [hk, hbelow, habove]
  by_cases hitems : ∃ item, d.items = .of item
  · obtain ⟨item, hi⟩ := hitems
    obtain ⟨part, -, rfl⟩ := exists_of_compile_items hk hi hc
    obtain ⟨hsmall, hbig⟩ := Check.reportedAt_run_listOf hr
    rw [hsmall, hbig]
    simp [Compile.listRule, FieldKind.isConfigOnly]
  · obtain ⟨leaf, hleaf, rfl⟩ :=
      exists_of_compile_whole ⟨fun _ item hi => hitems ⟨item, hi⟩, by simp [hk]⟩ hc
    obtain ⟨whole, hwhole, hsame⟩ := Check.exists_of_run_leaf hr
    unfold Compile.leafRule at hleaf
    rw [show d.attributes.kind = .array from hk] at hleaf
    cases hleaf
    obtain ⟨hsmall, hbig⟩ := LeafRule.reportedAt_run_anyList hwhole
    rw [hsame _ (by decide), hsame _ (by decide), hsmall, hbig]
    simp [Compile.listRule, FieldKind.isConfigOnly]

/-- The bounds of a field are told as they are enforced. -/
theorem tellsBounds (hk : d.kind.boundKeywords?.isSome = true) (hc : d.compile label = .ok check)
    (hf : d.describe = .ok fragment) : d.TellsBounds check fragment := by
  have hkind : d.kind ∈ [.string, .url, .apiKey, .secret] ∨ d.kind = .number ∨ d.kind = .array := by
    revert hk
    cases d.kind <;> decide
  rcases hkind with hk | hk | hk
  · exact tellsBounds_text hk hc hf
  · exact tellsBounds_number hk hc hf
  · exact tellsBounds_array hk hc hf

/-- The kind of a field that can be made ready is told, unless it is a number with decimal places
beyond the range of doubles. -/
theorem exists_kindKeywords_iff (hc : d.compile label = .ok check) :
    (∃ own, d.attributes.kindKeywords = .ok own) ↔
      (d.kind = .number →
        ∀ places ∈ d.attributes.precision.value?, ∃ step, placesStep places = .ok step) := by
  by_cases htext : d.kind ∈ [.string, .url, .apiKey, .secret]
  · have hw : d.IsWhole := isWhole_of_ne (by rintro hk; simp [hk] at htext)
      (by rintro hk; simp [hk] at htext)
    obtain ⟨leaf, hleaf, -⟩ := exists_of_compile_whole hw hc
    obtain ⟨plain, rule, transform, hplain, -⟩ := Compile.exists_textRule htext hleaf
    obtain ⟨hleast, hgreatest⟩ := Compile.lengths_of_textRule hplain
    have hnumber : d.kind ≠ .number := by
      rintro hk
      simp [hk] at htext
    rw [FieldAttributes.kindKeywords_of_text htext, FieldAttributes.textKeywords, hleast, hgreatest]
    simp [bind, Except.bind, pure, Except.pure, hnumber]
  by_cases hnumber : d.kind = .number
  · unfold FieldAttributes.kindKeywords
    rw [show d.attributes.kind = .number from hnumber]
    simp only [FieldAttributes.numberKeywords_eq_ok_iff, hnumber, forall_const]
    cases d.attributes.precision.value? with
    | none => simp [pure, Except.pure]
    | some places => cases hstep : placesStep places <;> simp [hstep]
  · unfold FieldAttributes.kindKeywords
    simp only [hnumber, false_imp_iff, iff_true]
    change d.attributes.kind ∉ _ at htext
    change d.attributes.kind ≠ _ at hnumber
    cases hk : d.attributes.kind <;> simp_all

/-- The decimal places of every number that a definition is built of have a step: they do not lie
beyond the range of doubles. -/
def HasSteps (d : Definition) : Prop :=
  ∀ path e, d.At path e → e.kind = .number →
    ∀ places ∈ e.attributes.precision.value?, ∃ step, placesStep places = .ok step

/-- A definition that can be made ready is described exactly if its decimal places have steps. -/
theorem isDescribed_iff_of_compile (hc : d.compile label = .ok check) :
    d.IsDescribed ↔ d.HasSteps := by
  induction d using nested_induction generalizing label check with
  | step d items properties =>
    rw [isDescribed_iff, exists_kindKeywords_iff hc]
    -- Only numbers can fail by themselves, and numbers have no parts.
    rcases shape d with ⟨hk, item, hi⟩ | ⟨hk, fields, hp⟩ | hw
    · obtain ⟨part, hpart, -⟩ := exists_of_compile_items hk hi hc
      rw [HasSteps, forall_at_items_iff hk hi, ← HasSteps, ← items item hi hpart]
      unfold partKeywords IsDescribed
      rw [hk, hi]
      cases hitem : item.describe <;> simp [describeItems, hitem, Except.map]
    · obtain ⟨rule, checks, hchecks, -⟩ := exists_of_compile_properties hk hp hc
      have hfields : (∀ name p, (name, p) ∈ fields → p.IsDescribed) ↔
          ∀ name p, (name, p) ∈ fields → p.HasSteps := by
        refine forall_congr' fun name => forall_congr' fun p => forall_congr' fun hm => ?_
        obtain ⟨part, hpart, -⟩ := compile_of_mem hchecks hm
        exact properties fields hp name p hm hpart
      unfold HasSteps at hfields ⊢
      rw [forall_at_properties_iff hk hp, ← hfields, ← exists_describeFields_iff]
      unfold partKeywords
      rw [hk, hp]
      cases hfragments : describeFields fields <;>
        simp [describeProperties, hfragments, bind, Except.bind, pure, Except.pure]
    · have hparts : ∃ parts, d.partKeywords = .ok parts := by
        unfold partKeywords
        split
        · rename_i hk
          cases hi : d.items with
          | of item => exact absurd hi (hw.items hk item)
          | undeclared | null => exact ⟨[], rfl⟩
        · rename_i hk
          cases hp : d.properties with
          | of fields => exact absurd hp (hw.properties hk fields)
          | undeclared | null => exact ⟨[], rfl⟩
        · exact ⟨[], rfl⟩
      rw [HasSteps, forall_at_whole_iff hw]
      exact and_iff_left hparts

end Definition

end Intake
