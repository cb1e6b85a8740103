import Intake.Value.Basic
import Intake.Value.Path

/-!
# Reading declarations

A declaration is read from a record. What cannot be read is told as a list of faults, each with the
path to it as the record was written; all parts are read, so that all faults are told, in the order
of the parts. Main statements: a pair of readings succeeds when both do, and tells the faults of
both otherwise.
-/

namespace Intake

/-- Why a part of a declaration cannot be read. -/
inductive FaultKind where
  /-- A part that must be there is missing. -/
  | missing
  /-- A value is none of the names of a choice. -/
  | choice
  /-- A value is no text. -/
  | stringType
  /-- A value is no truth value. -/
  | boolType
  /-- A text or number stands for no truth value. -/
  | boolParsing
  /-- A value is no integer. -/
  | intType
  /-- A text stands for no integer. -/
  | intParsing
  /-- A number is too large to be taken for an integer. -/
  | intParsingSize
  /-- A double has a fraction. -/
  | intFromFloat
  /-- A double is not finite. -/
  | finiteNumber
  /-- A value is no number. -/
  | floatType
  /-- A text stands for no number. -/
  | floatParsing
  /-- A value is no list. -/
  | tupleType
  /-- A value is no record. -/
  | dictType
  /-- A value is no record of a declaration. -/
  | modelType
  /-- A number is not above its bound. -/
  | greaterThan
  /-- A number is below its bound. -/
  | greaterThanEqual
  /-- A number is above its bound. -/
  | lessThanEqual
  /-- A part that is read on its own cannot be read. -/
  | unreadable
  deriving DecidableEq

/-- The name of a fault. -/
def FaultKind.name : FaultKind → String
  | .missing => "missing"
  | .choice => "enum"
  | .stringType => "string_type"
  | .boolType => "bool_type"
  | .boolParsing => "bool_parsing"
  | .intType => "int_type"
  | .intParsing => "int_parsing"
  | .intParsingSize => "int_parsing_size"
  | .intFromFloat => "int_from_float"
  | .finiteNumber => "finite_number"
  | .floatType => "float_type"
  | .floatParsing => "float_parsing"
  | .tupleType => "tuple_type"
  | .dictType => "dict_type"
  | .modelType => "model_type"
  | .greaterThan => "greater_than"
  | .greaterThanEqual => "greater_than_equal"
  | .lessThanEqual => "less_than_equal"
  | .unreadable => "value_error"

/-- A part of a declaration that cannot be read. -/
structure DeclarationFault where
  /-- The path to the part. -/
  path : DataPath
  /-- Why it cannot be read. -/
  kind : FaultKind
  deriving DecidableEq

/-- What was read, or the faults found instead. -/
inductive Reading (α : Type) where
  /-- A value was read. -/
  | read (value : α)
  /-- Faults were found. -/
  | faults (found : List DeclarationFault)

namespace Reading

/-- One fault of the whole. -/
def fault {α : Type} (kind : FaultKind) : Reading α := .faults [⟨[], kind⟩]

/-- What was read, changed. -/
def map {α β : Type} (f : α → β) : Reading α → Reading β
  | .read value => .read (f value)
  | .faults found => .faults found

/-- Two readings together. -/
def ap {α β : Type} (f : Reading (α → β)) (a : Reading α) : Reading β :=
  match f, a with
  | .read f, .read a => .read (f a)
  | .read _, .faults found => .faults found
  | .faults found, .read _ => .faults found
  | .faults found, .faults more => .faults (found ++ more)

instance : Functor Reading where
  map := map

instance : Seq Reading where
  seq f a := f.ap (a ())

/-- Two readings together read something when both do. -/
theorem ap_eq_read {α β : Type} {f : Reading (α → β)} {a : Reading α} {b : β} :
    f.ap a = .read b ↔ ∃ g x, f = .read g ∧ a = .read x ∧ g x = b := by
  cases f <;> cases a <;> simp [ap]

/-- A reading told of a part of the whole. -/
def under {α : Type} (segment : PathSegment) : Reading α → Reading α
  | .read value => .read value
  | .faults found => .faults (found.map fun f => { f with path := segment :: f.path })

/-- A reading that goes on from a value, or ends with its faults. -/
def andThen {α β : Type} (a : Reading α) (f : α → Reading β) : Reading β :=
  match a with
  | .read value => f value
  | .faults found => .faults found

/-- Several readings in order. -/
def sequence {α : Type} : List (Reading α) → Reading (List α)
  | [] => .read []
  | a :: rest => (a.map List.cons).ap (sequence rest)

end Reading

/-- How a value is read. -/
abbrev Reader (α : Type) := Value → Reading α

/-- An attribute of a record: the key it was written under and its value, if it is there. The
written name goes before the plain one. -/
def findAttribute (written plain : String) (entries : List (String × Value)) :
    Option (String × Value) :=
  match entries.lookup written with
  | some value => some (written, value)
  | none => (entries.lookup plain).map fun value => (plain, value)

end Intake
