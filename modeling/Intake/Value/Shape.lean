import Intake.Value.Equality

/-!
# Values of unknown shape

Some rules ask a value for members, entries or a length before anything is known of its shape. Texts,
lists and records have members; only records have entries. What a shape does not allow is refused,
and the refusal names the class of the value. Main statement: only a record has entries.
-/

namespace Intake

/-- Why an operation on a value was refused. -/
inductive ShapeFault where
  /-- The value has no members to go through. -/
  | noMembers (className : String)
  /-- The value has no members to search. -/
  | unsearchable (className : String)
  /-- The value lacks a method. -/
  | noMethod (className method : String)
  /-- The value has no length. -/
  | noLength (className : String)
  /-- The value has no parts. -/
  | noParts (className : String)
  /-- The items of a list have no names. -/
  | unnamedItems
  /-- The characters of a text have no names. -/
  | unnamedCharacters
  /-- Two values have no order. -/
  | unordered (comparison left right : String)
  /-- Two values are not both numbers. -/
  | notNumbers (operator left right : String)
  /-- The value cannot be a key. -/
  | notKey (className : String)
  /-- The value is no pattern. -/
  | notPattern
  /-- The value has no members that could be joined. -/
  | notJoinable
  /-- A member that has to be joined is no text. -/
  | notText (index : Nat) (className : String)

namespace ShapeFault

/-- The kind of a refusal. -/
def kind : ShapeFault → String
  | .noMethod _ _ => "AttributeError"
  | _ => "TypeError"

/-- A refusal in words. -/
def message : ShapeFault → String
  | .noMembers name => "'" ++ name ++ "' object is not iterable"
  | .unsearchable name => "argument of type '" ++ name ++ "' is not iterable"
  | .noMethod name method => "'" ++ name ++ "' object has no attribute '" ++ method ++ "'"
  | .noLength name => "object of type '" ++ name ++ "' has no len()"
  | .noParts name => "'" ++ name ++ "' object is not subscriptable"
  | .unnamedItems => "list indices must be integers or slices, not str"
  | .unnamedCharacters => "string indices must be integers, not 'str'"
  | .unordered comparison left right =>
    "'" ++ comparison ++ "' not supported between instances of '" ++ left ++ "' and '" ++ right ++
      "'"
  | .notNumbers operator left right =>
    "unsupported operand type(s) for " ++ operator ++ ": '" ++ left ++ "' and '" ++ right ++ "'"
  | .notKey name => "unhashable type: '" ++ name ++ "'"
  | .notPattern => "first argument must be string or compiled pattern"
  | .notJoinable => "can only join an iterable"
  | .notText index name =>
    "sequence item " ++ String.ofList (naturalText index) ++ ": expected str instance, " ++ name ++ " found"

end ShapeFault

/-- Whether a text stands in another. -/
def occursIn (part : List Char) : List Char → Bool
  | [] => part.isEmpty
  | c :: rest => part.isPrefixOf (c :: rest) || occursIn part rest

/-- Every text stands in itself. -/
theorem occursIn_self (cs : List Char) : occursIn cs cs = true := by
  cases cs <;> simp [occursIn]

namespace Value

/-- The characters of a text, each a text of its own. -/
def characters (s : String) : List Value := s.toList.map fun c => .text c.toString

/-- The members of a value: characters of a text, items of a list, keys of a record. -/
def members : Value → Except ShapeFault (List Value)
  | .text s => .ok (characters s)
  | .list items => .ok items
  | .record entries => .ok (entries.map fun entry => .text entry.1)
  | v => .error (.noMembers v.operandName)

/-- The entries of a record. -/
def entries : Value → Except ShapeFault (List (String × Value))
  | .record entries => .ok entries
  | v => .error (.noMethod v.operandName "items")

/-- The values of the entries of a record. -/
def parts : Value → Except ShapeFault (List Value)
  | .record entries => .ok (entries.map fun entry => entry.2)
  | v => .error (.noMethod v.operandName "values")

/-- The entry of a record under a key, if there is one. -/
def valueAt? (key : String) : Value → Except ShapeFault (Option Value)
  | .record entries => .ok (entries.lookup key)
  | v => .error (.noMethod v.operandName "get")

/-- Whether a text is a member of a value; in a text every stretch counts. -/
def hasMember (key : String) : Value → Except ShapeFault Bool
  | .text s => .ok (occursIn key.toList s.toList)
  | .list items => .ok (items.any (Value.text key).countsAs)
  | .record entries => .ok (entries.lookup key).isSome
  | v => .error (.unsearchable v.operandName)

/-- Whether a value is a key among entries; a list or a record cannot be one. -/
def isKeyOf (entries : List (String × Value)) : Value → Except ShapeFault Bool
  | .text key => .ok (entries.lookup key).isSome
  | .list items => .error (.notKey (Value.list items).operandName)
  | .record parts => .error (.notKey (Value.record parts).operandName)
  | _ => .ok false

/-- The part of a value under a name. -/
def named (key : String) : Value → Except ShapeFault Value
  | .record entries => .ok ((entries.lookup key).getD .null)
  | .list _ => .error .unnamedItems
  | .text _ => .error .unnamedCharacters
  | v => .error (.noParts v.operandName)

/-- The number of members of a value. -/
def length : Value → Except ShapeFault Nat
  | .text s => .ok s.length
  | .list items => .ok items.length
  | .record entries => .ok entries.length
  | v => .error (.noLength v.operandName)

/-- The member at an index, which counts from the end if it is negative. -/
def memberAt? (members : List Value) : Int → Option Value
  | .ofNat n => members[n]?
  | .negSucc n => if n < members.length then members[members.length - 1 - n]? else none

/-- Compares a number with a value, for which truth values count as numbers. -/
def compareWith (comparison : String) (holds : Number → Number → Bool) (n : Number) (v : Value) :
    Except ShapeFault Bool :=
  match v.counted? with
  | some m => .ok (holds n m)
  | none => .error (.unordered comparison (Value.number n).operandName v.operandName)

/-- The texts among which separators are put, counted from an index on. -/
def joinableFrom : Nat → List Value → Except ShapeFault (List String)
  | _, [] => .ok []
  | i, .text s :: rest => (joinableFrom (i + 1) rest).map (s :: ·)
  | i, v :: _ => .error (.notText i v.operandName)

/-- The members of a value with a separator between them. -/
def joinedBy (separator : String) (v : Value) : Except ShapeFault String :=
  match v.members with
  | .ok members => (joinableFrom 0 members).map separator.intercalate
  | .error _ => .error .notJoinable

/-- Only a record has entries. -/
theorem entries_eq_ok_iff {v : Value} {listed : List (String × Value)} :
    v.entries = .ok listed ↔ v = .record listed := by
  cases v <;> simp [entries]

end Value

end Intake
