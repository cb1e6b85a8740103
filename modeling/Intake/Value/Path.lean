import Intake.Number.Layout

/-!
# Paths into values

A path leads from a value to a part of it by keys of records and indices of lists. Written with
dots, it reads `user.tags[0]`.
-/

namespace Intake

/-- A step of a path. -/
inductive PathSegment where
  /-- To the entry under a key. -/
  | key (name : String)
  /-- To the item at an index; a negative one counts from the end. -/
  | index (n : Int)
  deriving DecidableEq

/-- A path from the outermost value inward. -/
abbrev DataPath := List PathSegment

namespace PathSegment

/-- A step by itself. -/
def text : PathSegment → List Char
  | .key name => name.toList
  | .index n => integerText n

/-- A step after what precedes it. -/
def writeAfter (before : List Char) : PathSegment → List Char
  | .key name => if before.isEmpty then name.toList else before ++ '.' :: name.toList
  | .index n => before ++ '[' :: integerText n ++ [']']

end PathSegment

/-- A path written with dots, and indices in brackets. -/
def DataPath.dotted (path : DataPath) : String :=
  String.ofList (path.foldl PathSegment.writeAfter [])

/-- The steps of a path with dots between them. -/
def DataPath.joined (path : DataPath) : String :=
  ".".intercalate (path.map fun segment => String.ofList segment.text)

end Intake
