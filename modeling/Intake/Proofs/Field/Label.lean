import Intake.Proofs.Field.Location
import Intake.Proofs.Text.Parts
import Intake.Validation.Run

/-!
# Labels of declarations

A label is the path of a declaration: the name of a field, a dot and a name for each property, brackets
for items. A record is called by the path of its data instead, which has indices where the label has
brackets. Main statement: the two are the same text exactly if no list lies on the way, but for a field
without a name.
-/

namespace Intake

/-- The label of what is declared as a part: a property is named after a dot, items have brackets. -/
def PathSegment.extend (label : String) : PathSegment → String
  | .key name => label ++ "." ++ name
  | .index _ => label ++ "[]"

/-- The label of what is declared at the end of a path below a label. -/
def labelBelow (label : String) (rest : DataPath) : String := rest.foldl PathSegment.extend label

/-- The label of what is declared at a path of data, which starts with the name of a field. -/
def DataPath.label : DataPath → String
  | .key name :: rest => labelBelow name rest
  | _ => ""

/-- A text followed by the steps of a path, with dots between them. -/
def joinedBelow (text : String) (rest : DataPath) : String :=
  rest.foldl (fun text segment => text ++ "." ++ String.ofList segment.text) text

/-- What is declared at a path that leads through names only, and is not a field without a name. -/
structure DataPath.IsPlain (path : DataPath) : Prop where
  /-- Every step is a name. -/
  names : ∀ segment ∈ path, ∃ name, segment = .key name
  /-- The path is not that of a field without a name. -/
  named : path ≠ [.key ""]

theorem DataPath.isPlain_of_throughFirst {path : DataPath} (h : path.throughFirst.IsPlain) :
    path.IsPlain := by
  constructor
  · intro segment hm
    have hfirst := h.names _ (List.mem_map_of_mem hm)
    cases segment with
    | key name => exact ⟨name, rfl⟩
    | index i =>
      obtain ⟨name, heq⟩ := hfirst
      cases heq
  · rintro rfl
    exact h.named rfl

/-- What stands before a label stays before all labels below it. -/
theorem labelBelow_append (front label : String) (rest : DataPath) :
    labelBelow (front ++ label) rest = front ++ labelBelow label rest := by
  induction rest generalizing label with
  | nil => rfl
  | cons segment rest ih =>
    have hextend : PathSegment.extend (front ++ label) segment =
        front ++ PathSegment.extend label segment := by
      cases segment <;> simp [PathSegment.extend, String.append_assoc]
    have hstep := ih (PathSegment.extend label segment)
    rw [← hextend] at hstep
    exact hstep

theorem joinedBelow_append (front text : String) (rest : DataPath) :
    joinedBelow (front ++ text) rest = front ++ joinedBelow text rest := by
  induction rest generalizing text with
  | nil => rfl
  | cons segment rest ih =>
    have hstep := ih (text ++ "." ++ String.ofList segment.text)
    simpa [joinedBelow, String.append_assoc] using hstep

/-- Below a text the label and the steps of a path are the same exactly if all steps are names: a dot
stands before an index, and brackets stand in its place. -/
theorem joinedBelow_eq_labelBelow_iff (text : String) (rest : DataPath) :
    joinedBelow text rest = labelBelow text rest ↔ ∀ segment ∈ rest, ∃ name, segment = .key name := by
  induction rest generalizing text with
  | nil => simp [joinedBelow, labelBelow]
  | cons segment rest ih =>
    cases segment with
    | key name =>
      have hstep := ih (text ++ "." ++ name)
      simpa [joinedBelow, labelBelow, PathSegment.text, PathSegment.extend] using hstep
    | index i =>
      have hjoined : joinedBelow text (.index i :: rest) =
          text ++ ("." ++ joinedBelow (String.ofList (integerText i)) rest) := by
        rw [← joinedBelow_append, ← joinedBelow_append, ← String.append_assoc]
        rfl
      have hlabel : labelBelow text (.index i :: rest) = text ++ ("[]" ++ labelBelow "" rest) := by
        rw [← labelBelow_append, ← labelBelow_append, String.append_empty]
        rfl
      constructor
      · intro h
        rw [hjoined, hlabel, String.append_right_inj] at h
        have hchars := congrArg String.toList h
        simp at hchars
      · intro h
        obtain ⟨name, heq⟩ := h _ List.mem_cons_self
        cases heq

/-- The steps of a path with dots between them are its first step, followed by the others. -/
theorem DataPath.joined_cons (segment : PathSegment) (rest : DataPath) :
    DataPath.joined (segment :: rest) = joinedBelow (String.ofList segment.text) rest := by
  induction rest generalizing segment with
  | nil => exact String.intercalate_singleton
  | cons next rest ih =>
    have hnext := ih next
    unfold joined at hnext ⊢
    rw [List.map_cons] at hnext
    rw [List.map_cons, List.map_cons, String.intercalate_cons_cons, hnext, ← joinedBelow_append]
    rfl

/-- A record is called by the label of its declaration exactly if the path to it is plain. -/
theorem recordLabel_eq_label_iff (name : String) (rest : DataPath) :
    recordLabel (.key name :: rest) = DataPath.label (.key name :: rest) ↔
      DataPath.IsPlain (.key name :: rest) := by
  have hjoined : DataPath.joined (.key name :: rest) = joinedBelow name rest := by
    rw [DataPath.joined_cons, PathSegment.text, String.ofList_toList]
  have hnames : (∀ segment ∈ PathSegment.key name :: rest, ∃ other, segment = .key other) ↔
      ∀ segment ∈ rest, ∃ other, segment = .key other := by simp
  have hplain := joinedBelow_eq_labelBelow_iff name rest
  unfold recordLabel
  rw [hjoined]
  by_cases hempty : joinedBelow name rest = ""
  · -- Nothing but a field without a name has no text.
    have hroot : PathSegment.key name :: rest = [.key ""] := by
      cases rest with
      | nil => exact congrArg (fun name => [PathSegment.key name]) hempty
      | cons segment rest =>
        have hdot : joinedBelow name (segment :: rest) =
            name ++ "." ++ joinedBelow (String.ofList segment.text) rest :=
          joinedBelow_append (name ++ ".") _ rest
        rw [hdot] at hempty
        have hchars := congrArg String.toList hempty
        simp at hchars
    rw [if_pos hempty, hroot]
    exact ⟨fun h => absurd h (by decide), fun h => absurd rfl h.named⟩
  · have hroot : PathSegment.key name :: rest ≠ [.key ""] := by
      intro h
      cases h
      exact hempty rfl
    rw [if_neg hempty]
    constructor
    · intro h
      exact ⟨hnames.mpr (hplain.mp h), hroot⟩
    · intro h
      exact hplain.mpr (hnames.mp h.names)

/-- The key of a message tells the label and the name of the constraint, as no such name holds a
dot. -/
theorem messageKey_injective {label label' name name' : String} (h : '.' ∉ name.toList)
    (h' : '.' ∉ name'.toList) (heq : label ++ "." ++ name = label' ++ "." ++ name') :
    label = label' ∧ name = name' := by
  have hreversed (label name : String) : (label ++ "." ++ name).toList.reverse =
      name.toList.reverse ++ '.' :: label.toList.reverse := by simp
  have hsplit (label : String) {name : String} (h : '.' ∉ name.toList) :
      splitFirst '.' (label ++ "." ++ name).toList.reverse =
        (name.toList.reverse, some label.toList.reverse) := by
    rw [hreversed]
    exact splitFirst_append_cons (mt List.mem_reverse.mp h) _
  have hsame := hsplit label h
  rw [heq, hsplit label' h'] at hsame
  simp only [Prod.mk.injEq, List.reverse_inj, Option.some.injEq, String.toList_inj] at hsame
  exact ⟨hsame.2.symm, hsame.1.symm⟩

end Intake
