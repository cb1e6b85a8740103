import Intake.Value.Basic

/-!
# The size and the depth of a value

Measures by which walks through values end.
-/

namespace Intake.Value

mutual

/-- How many values a value is made of, itself counted. -/
def size (v : Value) : Nat :=
  match v with
  | .list items => 1 + itemsSize items
  | .record entries => 1 + entriesSize entries
  | _ => 1

/-- How many values the items of a list are made of. -/
def itemsSize (items : List Value) : Nat :=
  match items with
  | [] => 0
  | item :: rest => size item + itemsSize rest

/-- How many values the entries of a record are made of. -/
def entriesSize (entries : List (String × Value)) : Nat :=
  match entries with
  | [] => 0
  | (_, value) :: rest => size value + entriesSize rest

end

mutual

/-- How many values stand inside each other. -/
def depth (v : Value) : Nat :=
  match v with
  | .list items => 1 + itemsDepth items
  | .record entries => 1 + entriesDepth entries
  | _ => 1

/-- The greatest depth among the items of a list. -/
def itemsDepth (items : List Value) : Nat :=
  match items with
  | [] => 0
  | item :: rest => max (depth item) (itemsDepth rest)

/-- The greatest depth among the entries of a record. -/
def entriesDepth (entries : List (String × Value)) : Nat :=
  match entries with
  | [] => 0
  | (_, value) :: rest => max (depth value) (entriesDepth rest)

end

/-- An item is not deeper than the items are. -/
theorem depth_le_itemsDepth {v : Value} {items : List Value} (h : v ∈ items) :
    v.depth ≤ itemsDepth items := by
  induction items with
  | nil => cases h
  | cons item rest ih =>
    simp only [itemsDepth]
    rcases List.mem_cons.1 h with rfl | h
    · exact Nat.le_max_left _ _
    · exact Nat.le_trans (ih h) (Nat.le_max_right _ _)

/-- A value of a record is not deeper than its entries are. -/
theorem depth_le_entriesDepth {key : String} {v : Value} {entries : List (String × Value)}
    (h : (key, v) ∈ entries) : v.depth ≤ entriesDepth entries := by
  induction entries with
  | nil => cases h
  | cons entry rest ih =>
    obtain ⟨name, value⟩ := entry
    simp only [entriesDepth]
    rcases List.mem_cons.1 h with heq | h
    · cases heq
      exact Nat.le_max_left _ _
    · exact Nat.le_trans (ih h) (Nat.le_max_right _ _)

end Intake.Value
