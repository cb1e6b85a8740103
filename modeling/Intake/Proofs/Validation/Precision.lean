import Intake.Proofs.Number.Places
import Intake.Proofs.Validation.Codes
import Intake.Proofs.Validation.Order
import Intake.Proofs.Validation.Parts

/-!
# Declared decimal places

A field for numbers may declare how many decimal places a number has at most. Main statement: the
places are counted exactly, and a number is reported as too precise exactly if its text needs more
of them than are declared.
-/

namespace Intake

/-- A number is reported as too precise as its rule says. -/
theorem NumberRule.reportedAt_tooPrecise_iff (rule : NumberRule) (site : Site) (n : Number) :
    ReportedAt site.path .tooPrecise (rule.issues site n) ↔
      ∃ places ∈ rule.precision, places < (n.decimalPlaces : ℤ) := by
  unfold issues
  cases rule.minimum <;> cases rule.maximum <;> cases rule.precision <;> simp [Site.issue]

/-- The rule of a field for numbers comes to an end and reports as too precise what needs more
places than are declared. -/
theorem LeafRule.exists_run_number (rule : NumberRule) (site : Site) (v : Value) :
    ∃ o, (number rule).run site v = .ok o ∧
      (ReportedAt site.path .tooPrecise o.issues ↔
        ∃ n ∈ v.finite?, ∃ places ∈ rule.precision, places < (n.decimalPlaces : ℤ)) := by
  rw [run]
  cases hn : v.finite? with
  | none => exact ⟨_, rfl, by simp [Outcome.reject, Site.typeIssue, Site.issue]⟩
  | some n => exact ⟨_, rfl, by simp [rule.reportedAt_tooPrecise_iff]⟩

variable {d : Definition} {label : String} {check : Check}

/-- The check of a field for numbers comes to an end and reports as too precise what needs more
places than are declared. -/
theorem Definition.exists_run_number (hk : d.kind = .number) (hc : d.compile label = .ok check)
    (options : Options) (path : DataPath) (v : Value) :
    ∃ o, check.run options path v = .ok o ∧
      (ReportedAt path .tooPrecise o.issues ↔
        ∃ n ∈ v.finite?, ∃ places ∈ d.attributes.precision.value?,
          places < (n.decimalPlaces : ℤ)) := by
  obtain ⟨leaf, hleaf, rfl⟩ := exists_of_compile_whole ⟨by simp [hk], by simp [hk]⟩ hc
  unfold Compile.leafRule at hleaf
  rw [show d.attributes.kind = .number from hk] at hleaf
  cases hleaf
  obtain ⟨o, hrun, hreported⟩ := LeafRule.exists_run_number
    ⟨d.attributes.leastNumber, d.attributes.greatestNumber, d.attributes.integer.getD false,
      d.attributes.precision.value?⟩ ⟨Compile.subject label d.attributes, options, path⟩ v
  rw [Check.run_leaf, hrun]
  exact ⟨_, rfl, (reportedAt_withMembers _ v o (by decide)).trans hreported⟩

/-- The decimal places of a finite number are the fewest by which the decimal that is its text can
be shifted to become an integer; they are none exactly if the number is whole, and those of the
exponent of its text otherwise. A field for numbers that declares how many places there may be
reports as too precise exactly the numbers whose texts need more. -/
theorem places_exact_and_enforced :
    (∀ (n : Number) (layout : Layout), n.isFinite = true →
      ∃ literal q, decimalOf? (n.text layout) = some (literal, q) ∧
        IsLeast {k | FitsPlaces q k} n.decimalPlaces ∧
        (n.isIntegral = true ↔ n.decimalPlaces = 0) ∧
        (n.isIntegral = false → n.decimalPlaces = (-literal.exponent).toNat)) ∧
    ∀ (d : Definition) (label : String) (check : Check) (p : ℕ), d.kind = .number →
      d.attributes.precision.value? = some (p : ℤ) → d.compile label = .ok check →
      ∀ (options : Options) (path : DataPath) (v : Value) (layout : Layout),
        ∃ o, check.run options path v = .ok o ∧
          (ReportedAt path .tooPrecise o.issues ↔
            ∃ n ∈ v.finite?, ∃ numeral ∈ decimalOf? (n.text layout), ¬ FitsPlaces numeral.2 p) := by
  refine ⟨fun n layout hn => Number.exists_decimalOf?_text hn layout, ?_⟩
  intro d label check p hk hp hc options path v layout
  obtain ⟨o, hrun, hreported⟩ := Definition.exists_run_number hk hc options path v
  refine ⟨o, hrun, hreported.trans (exists_congr fun n => and_congr_right fun hn => ?_)⟩
  have hfinite : n.isFinite = true := (Value.finite?_eq_some_iff v n).mp hn |>.2
  obtain ⟨literal, q, hread, hleast, -⟩ := Number.exists_decimalOf?_text hfinite layout
  simp [hp, hread, not_fitsPlaces_iff hleast]

/-- A field for prices: numbers with two decimal places at most. -/
def priceField : Definition :=
  ⟨{ FieldAttributes.ofKind .number with precision := .of 2 }, .undeclared, .undeclared⟩

/-- The double nearest to `9.999` needs three decimal places and is too precise for a price. -/
theorem places_exact_and_enforced_price :
    (Number.float (.ofDecimal false 9999 (-3))).decimalPlaces = 3 ∧
    ∃ check o, priceField.compile "price" = .ok check ∧
      check.run .standard [.key "price"] (.float (.ofDecimal false 9999 (-3))) = .ok o ∧
      ReportedAt [.key "price"] .tooPrecise o.issues := by
  have hplaces : (Number.float (.ofDecimal false 9999 (-3))).decimalPlaces = 3 := by decide +kernel
  have hfinite : (Number.float (.ofDecimal false 9999 (-3))).isFinite = true := by decide +kernel
  obtain ⟨literal, q, hread, hleast, -⟩ := places_exact_and_enforced.1 _ messageLayout hfinite
  obtain ⟨check, hc⟩ : ∃ check, priceField.compile "price" = .ok check := ⟨_, rfl⟩
  obtain ⟨o, hrun, hreported⟩ := places_exact_and_enforced.2 priceField "price" check 2 rfl rfl hc
    .standard [.key "price"] (.float (.ofDecimal false 9999 (-3))) messageLayout
  rw [hplaces] at hleast
  refine ⟨hplaces, check, o, hc, hrun, hreported.mpr ⟨_, ?_, (literal, q), hread, ?_⟩⟩
  · exact (Value.finite?_eq_some_iff _ _).mpr ⟨rfl, hfinite⟩
  · exact (not_fitsPlaces_iff hleast 2).mpr (by decide)

end Intake
