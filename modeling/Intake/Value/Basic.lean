import Intake.Calendar.Basic
import Intake.Number.Basic

/-!
# Dynamic values

The data that requests, configurations and declarations are made of: the JSON values, with numbers
kept as integers or doubles and records in the order of their entries, and dates and times beside
them.
-/

namespace Intake

/-- A dynamic value. -/
inductive Value where
  /-- The value of what is not there. -/
  | null
  /-- A truth value, which is no number. -/
  | bool (b : Bool)
  /-- A number. -/
  | number (n : Number)
  /-- A text. -/
  | text (s : String)
  /-- A list of values. -/
  | list (items : List Value)
  /-- A record, in the order of its entries; keys are distinct. -/
  | record (entries : List (String × Value))
  /-- A date. -/
  | date (d : Date)
  /-- A point in time. -/
  | dateTime (t : DateTime)
  /-- A time of day. -/
  | time (t : ClockTime)

/-- The entries of a keyed sequence with one entry written: in its place if the key is there,
otherwise at the end. -/
def insertEntry {α : Type} (key : String) (value : α) : List (String × α) → List (String × α)
  | [] => [(key, value)]
  | (k, v) :: rest => if k = key then (k, value) :: rest else (k, v) :: insertEntry key value rest

/-- The value written is the one found under its key. -/
theorem lookup_insertEntry {α : Type} (key : String) (value : α) (entries : List (String × α)) :
    (insertEntry key value entries).lookup key = some value := by
  induction entries with
  | nil => simp [insertEntry]
  | cons entry rest ih =>
    obtain ⟨k, v⟩ := entry
    by_cases h : k = key
    · simp [insertEntry, h]
    · have h' : (key == k) = false := by simpa using fun e : key = k => h e.symm
      simp [insertEntry, h, List.lookup_cons, h', ih]

/-- Keyed values in the order of their first writing, each with its last value. -/
def keepLast {α : Type} (entries : List (String × α)) : List (String × α) :=
  entries.foldl (fun done (k, v) => insertEntry k v done) []

namespace Value

instance : Inhabited Value := ⟨.null⟩

/-- An integer value. -/
def int (n : Int) : Value := .number (.int n)

/-- A double value. -/
def float (x : Binary64) : Value := .number (.float x)

/-- A list of texts. -/
def texts (items : List String) : Value := .list (items.map .text)

/-- The null value. -/
def isNull : Value → Bool
  | .null => true
  | _ => false

/-- A truth value. -/
def isBool : Value → Bool
  | .bool _ => true
  | _ => false

/-- The entry of a record under a key. -/
def get? (key : String) : Value → Option Value
  | .record entries => entries.lookup key
  | _ => none

/-- The entry of a record under a key, null if there is none. -/
def get (key : String) (v : Value) : Value := (v.get? key).getD .null

/-- The name of a value's type in the terms of JSON, or its calendar name. -/
def typeName : Value → String
  | .null => "null"
  | .bool _ => "boolean"
  | .number _ => "number"
  | .text _ => "string"
  | .list _ => "array"
  | .record _ => "object"
  | .date _ => "date"
  | .dateTime _ => "datetime"
  | .time _ => "time"

/-- The name of a value's class, which tells integers from doubles. -/
def className : Value → String
  | .null => "NoneType"
  | .bool _ => "bool"
  | .number (.int _) => "int"
  | .number (.float _) => "float"
  | .text _ => "str"
  | .list _ => "list"
  | .record _ => "dict"
  | .date _ => "date"
  | .dateTime _ => "datetime"
  | .time _ => "time"

/-- How the refusal of an operation names a value's class: calendar classes with their family. -/
def operandName : Value → String
  | .date _ => "datetime.date"
  | .dateTime _ => "datetime.datetime"
  | .time _ => "datetime.time"
  | v => v.className

/-- Whether a value counts as true: all but null, false, zeros and what is empty. -/
def isTruthy : Value → Bool
  | .null => false
  | .bool b => b
  | .number n => !n.isZero
  | .text s => !s.isEmpty
  | .list items => !items.isEmpty
  | .record entries => !entries.isEmpty
  | .date _ => true
  | .dateTime _ => true
  | .time _ => true

end Value

end Intake
