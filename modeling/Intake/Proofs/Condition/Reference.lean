import Intake.Proofs.Condition.Language
import Intake.Proofs.Schema.RuleOutcome
import Mathlib

/-!
# What conditions read

A condition reads from its scope what its references lead to, and nothing else. Main statement: in two
scopes in which each reference of a condition, written with dots, leads to the same value, null where
it leads nowhere, the condition holds in both or in neither, or it cannot be evaluated in either, for
the same reason. Whether a reference is reached by the evaluation plays no role here.
-/

namespace Intake

/-- The value that keys lead to, null if they lead nowhere. -/
def Value.followed (scope : Value) (keys : List String) : Value := (scope.follow? keys).getD .null

/-- The value that a path written with dots leads to, null if it leads nowhere. -/
def Value.resolve (scope : Value) (path : String) : Value :=
  scope.followed ((splitParts '.' path.toList).map String.ofList)

/-- A path written with dots leads where its keys lead. -/
theorem IsDotted.resolve_eq {keys : List String} {path : String} (h : IsDotted keys path)
    (scope : Value) : scope.resolve path = scope.followed keys := by
  rw [Value.resolve, ← isDotted_iff.mp h]

namespace Condition

/-- The paths that a condition refers to, written with dots, from left to right. -/
def referenceTexts (c : Condition) : List String := c.references.map (".".intercalate ·)

/-- Operands refer to what each of them refers to. -/
theorem operandReferences_eq (operands : List Condition) :
    operandReferences operands = operands.flatMap references := by
  induction operands with
  | nil => rw [operandReferences, List.flatMap_nil]
  | cons operand rest ih => rw [operandReferences, List.flatMap_cons, ih]

section

variable {s t : Value}

mutual

/-- The value of a condition depends on nothing but what its references lead to. -/
theorem evaluate_eq_of_followed (c : Condition)
    (h : ∀ keys ∈ c.references, s.followed keys = t.followed keys) :
    c.evaluate s = c.evaluate t := by
  match c with
  | .literal value => rw [evaluate, evaluate]
  | .reference path =>
    have hpath : s.followed path = t.followed path := h path (by simp [references])
    rw [evaluate, evaluate]
    exact congrArg Except.ok hpath
  | .negation operand =>
    rw [references] at h
    rw [evaluate, evaluate, evaluate_eq_of_followed operand h]
  | .conjunction operands =>
    rw [references] at h
    rw [evaluate, evaluate, (truthy_eq_of_followed operands h).1]
  | .disjunction operands =>
    rw [references] at h
    rw [evaluate, evaluate, (truthy_eq_of_followed operands h).2]
  | .comparison how left right =>
    rw [references] at h
    obtain ⟨hleft, hright⟩ := List.forall_mem_append.mp h
    rw [evaluate, evaluate, evaluate_eq_of_followed left hleft,
      evaluate_eq_of_followed right hright]

/-- Whether operands count as true depends on nothing but what their references lead to. -/
theorem truthy_eq_of_followed (operands : List Condition)
    (h : ∀ keys ∈ operandReferences operands, s.followed keys = t.followed keys) :
    allTruthy s operands = allTruthy t operands ∧ anyTruthy s operands = anyTruthy t operands := by
  match operands with
  | [] => exact ⟨by rw [allTruthy, allTruthy], by rw [anyTruthy, anyTruthy]⟩
  | operand :: rest =>
    rw [operandReferences] at h
    obtain ⟨hfirst, hrest⟩ := List.forall_mem_append.mp h
    obtain ⟨hall, hany⟩ := truthy_eq_of_followed rest hrest
    constructor
    · rw [allTruthy, allTruthy, evaluate_eq_of_followed operand hfirst, hall]
    · rw [anyTruthy, anyTruthy, evaluate_eq_of_followed operand hfirst, hany]

end

end

/-- The references of what the grammar derives are made up of identifiers, so that they can be written
with dots and taken apart again. -/
theorem isDotted_of_derives {phrase : Phrase} {ts : List Lexeme} {c : Condition}
    (h : Derives phrase ts c) : ∀ keys ∈ c.references, IsDotted keys (".".intercalate keys) := by
  have several {parts : List (List Lexeme × Condition)}
      (ih : ∀ part ∈ parts, ∀ keys ∈ part.2.references, IsDotted keys (".".intercalate keys)) :
      ∀ keys ∈ operandReferences (parts.map (·.2)), IsDotted keys (".".intercalate keys) := by
    intro keys hm
    rw [operandReferences_eq, List.flatMap_map] at hm
    obtain ⟨part, hpart, hkeys⟩ := List.mem_flatMap.mp hm
    exact ih part hpart keys hkeys
  induction h with
  | oneConjunction _ ih => exact ih
  | oneNegation _ ih => exact ih
  | notNegated _ ih => exact ih
  | oneOperand _ ih => exact ih
  | parenthesized _ ih => exact ih
  | conjunctions parts _ _ ih =>
    rw [references]
    exact several ih
  | negations parts _ _ ih =>
    rw [references]
    exact several ih
  | negated _ ih =>
    rw [references]
    exact ih
  | compared how _ _ ihl ihr =>
    rw [references]
    exact List.forall_mem_append.mpr ⟨ihl, ihr⟩
  | number _ => simp [references]
  | quoted _ => simp [references]
  | word _ => simp [references]
  | @reference root keys atRoot _ hkeys =>
    rw [references]
    refine List.forall_mem_singleton.mpr ⟨List.cons_ne_nil root keys, ?_, rfl⟩
    refine List.forall_mem_cons.mpr ⟨?_, fun key hm => (hkeys key hm).dot_notMem⟩
    rcases List.mem_cons.mp atRoot with rfl | hm
    · decide
    · rw [List.mem_singleton.mp hm]
      decide

/-- What is read as a condition is derived by the grammar. -/
theorem exists_derives_of_read {text : String} {c : Condition} (h : read text = .ok c) :
    ∃ ts, Derives .disjunction ts c := by
  obtain ⟨ts, -, hderives⟩ := (read_eq_ok_iff text c).mp h
  exact ⟨ts, hderives⟩

/-- A condition reads only what it refers to: in two scopes in which each of its references leads to
the same value, what is missing counting as null, it holds in both or in neither, or fails in both
for the same reason. -/
theorem holds_eq_of_resolve_eq {text : String} {c : Condition} (h : read text = .ok c)
    {s t : Value} (hsame : ∀ path ∈ c.referenceTexts, s.resolve path = t.resolve path) :
    c.holds s = c.holds t := by
  obtain ⟨ts, hderives⟩ := exists_derives_of_read h
  have hfollowed : ∀ keys ∈ c.references, s.followed keys = t.followed keys := by
    intro keys hm
    have hdotted := isDotted_of_derives hderives keys hm
    rw [← hdotted.resolve_eq s, ← hdotted.resolve_eq t]
    exact hsame _ (List.mem_map_of_mem hm)
  rw [holds, holds, evaluate_eq_of_followed c hfollowed]

/-- A text that asks whether a field of the input is not there. -/
theorem read_isNull :
    read "input.a == null" = .ok (.comparison .equal (.reference ["input", "a"]) (.literal .null)) := by
  have hsays : Token.Says "input.a == null".toList
      [.name "input.a".toList, .comparison .equal, .name "null".toList] :=
    .first (by decide) (n := 6) rfl (.blank (by decide) (.first (by decide) (n := 1) rfl
      (.blank (by decide) (.first (by decide) (n := 3) rfl .nothing))))
  have hreference : Derives .operand [.name "input.a".toList] (.reference ["input", "a"]) :=
    @Derives.reference "input" ["a"] (by decide) (by decide)
      (List.forall_mem_singleton.mpr ⟨'a', [], rfl, by decide, by simp⟩)
  exact (read_eq_ok_iff _ _).mpr ⟨_, hsays,
    .oneConjunction (.oneNegation (.notNegated (.compared .equal hreference (.word .null))))⟩

/-- A field that is not there and one that is null are the same to a condition, whatever else the
scopes hold. -/
theorem holds_isNull_eq :
    (comparison .equal (.reference ["input", "a"]) (.literal .null)).holds
        (.record [("input", .record []), ("config", .record [("key", .text "k")])]) =
      (comparison .equal (.reference ["input", "a"]) (.literal .null)).holds
        (.record [("input", .record [("a", .null), ("b", .int 1)])]) :=
  holds_eq_of_resolve_eq read_isNull (by
    intro path hm
    rw [List.mem_singleton.mp hm]
    rfl)

end Condition

end Intake
