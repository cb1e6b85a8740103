import Intake.Pattern.CharacterSet

/-!
# Search patterns

A pattern describes the texts it matches: sets of characters, anchors, sequences, choices,
repetitions, groups and references to them, and looks ahead and behind. This module holds the tree of
a pattern and the widths of the texts it can match, which are counted up to a limit. Main statement:
appending the empty text keeps a least width within the limit.
-/

namespace Intake

/-- A place in a text, described by what stands around it. -/
inductive Anchor where
  /-- The start of the text. -/
  | textStart
  /-- The end of the text. -/
  | textEnd
  /-- The start of the text, or of every line. -/
  | start (everyLine : Bool)
  /-- The end of a line. -/
  | lineEnd
  /-- The end of the text, or just before a line end that ends the text. -/
  | finalEnd
  /-- A place between a character of a word and another character or an end of the text, or, if
  negated, any other place; the empty text has neither. -/
  | wordEdge (asciiOnly negated : Bool)
  deriving DecidableEq

/-- How often a repetition tries its body. -/
inductive Greed where
  /-- As often as possible, fewer times if the rest fails. -/
  | greedy
  /-- As rarely as possible, more often if the rest fails. -/
  | lazy
  /-- As often as possible, without a second try. -/
  | possessive
  deriving DecidableEq

/-- The limit that the counts of a repetition stay below. -/
def countLimit : Nat := 4294967295

/-- The least and the greatest width of the texts that are matched; none for no greatest. A least
width stays below the limit of counts, a greatest width at the limit is none. -/
structure PatternWidth where
  /-- The least width. -/
  least : Nat
  /-- The greatest width. -/
  most : Option Nat
  deriving DecidableEq

/-- A search pattern. -/
inductive Pattern where
  /-- The empty text. -/
  | empty
  /-- No text. -/
  | never
  /-- One character of a set. -/
  | oneOf (set : CharacterSet) (mode : PatternMode)
  /-- One character; a line end only if the flag says so. -/
  | anyCharacter (dotAll : Bool)
  /-- The empty text at a certain place. -/
  | anchor (anchor : Anchor)
  /-- One pattern after the other. -/
  | sequence (first second : Pattern)
  /-- The first pattern, or one of the others if that fails; the others are choices too, and the last
  of them is never. -/
  | choice (first others : Pattern)
  /-- A numbered group, which keeps the text it matched last. -/
  | group (index : Nat) (body : Pattern)
  /-- A part with modes of its own. -/
  | scoped (body : Pattern)
  /-- The text that a group kept, whose width is known. -/
  | reference (index : Nat) (width : PatternWidth) (mode : PatternMode)
  /-- A repetition; no greatest count means no limit. -/
  | repeated (least : Nat) (most : Option Nat) (greed : Greed) (body : Pattern)
  /-- The empty text where the body matches ahead, or does not. -/
  | lookAhead (negated : Bool) (body : Pattern)
  /-- The empty text where the body matches behind, or does not. -/
  | lookBehind (negated : Bool) (body : Pattern)
  /-- The first way in which the body matches, and no other. -/
  | atomic (body : Pattern)
  /-- One of two patterns, by whether a group has kept a text. -/
  | conditional (index : Nat) (present absent : Pattern)

namespace PatternWidth

/-- The width of one character. -/
def one : PatternWidth := ⟨1, some 1⟩

/-- The width of the empty text. -/
def zero : PatternWidth := ⟨0, some 0⟩

/-- The width of no text, which gives way to any other. -/
def never : PatternWidth := ⟨countLimit - 1, some 0⟩

/-- A least and a greatest width, counted up to the limit. -/
def limited (least : Nat) (most : Option Nat) : PatternWidth :=
  ⟨min least (countLimit - 1), most.filter (· < countLimit)⟩

/-- The width of one text after another. -/
def append (a b : PatternWidth) : PatternWidth :=
  limited (a.least + b.least) do return (← a.most) + (← b.most)

/-- The width of one text or another. -/
def join (a b : PatternWidth) : PatternWidth :=
  ⟨min a.least b.least, do return max (← a.most) (← b.most)⟩

/-- The width of a repeated text. -/
def times (least : Nat) (most : Option Nat) (a : PatternWidth) : PatternWidth :=
  limited (a.least * least)
    (if a.most = some 0 ∨ most = some 0 then some 0 else do return (← a.most) * (← most))

/-- The least width is the greatest. -/
def isFixed (a : PatternWidth) : Bool := a.most == some a.least

/-- The empty text adds nothing to a least width. -/
theorem least_append_zero (a : PatternWidth) (h : a.least < countLimit) :
    (a.append zero).least = a.least := by
  simp only [append, limited, zero, Nat.add_zero]
  omega

end PatternWidth

namespace Pattern

/-- The widths of the texts that a pattern can match. -/
def width : Pattern → PatternWidth
  | .empty | .anchor _ | .lookAhead _ _ | .lookBehind _ _ => .zero
  | .never => .never
  | .oneOf _ _ | .anyCharacter _ => .one
  | .sequence first second => first.width.append second.width
  | .choice first others => first.width.join others.width
  | .group _ body | .scoped body | .atomic body => body.width
  | .reference _ width _ => width
  | .repeated least most _ body => body.width.times least most
  | .conditional _ present absent => present.width.join absent.width

/-- Patterns one after the other. -/
def ofSequence : List Pattern → Pattern
  | [] => .empty
  | [p] => p
  | p :: rest => .sequence p (ofSequence rest)

/-- The first of several patterns that matches. -/
def ofChoices : List Pattern → Pattern
  | [] => .never
  | p :: rest => .choice p (ofChoices rest)

end Pattern

/-!
## Branches of a choice

A choice is brought to a plain form: what all branches start with is matched once, before the
choice, and a choice between single characters is a set. Main statement: a single branch stays as it
is.
-/

namespace Pattern

/-- Whether two patterns are the same set, wildcard, anchor or reference. -/
def isSameItem : Pattern → Pattern → Bool
  | .oneOf set _, .oneOf other _ => set == other
  | .anyCharacter _, .anyCharacter _ => true
  | .anchor a, .anchor b => a == b
  | .reference index _ _, .reference other _ _ => index == other
  | _, _ => false

/-- The items that a branch and all others start with, and what is left of each branch. -/
def splitShared : List Pattern → List (List Pattern) → List Pattern × List (List Pattern)
  | [], others => ([], [] :: others)
  | item :: rest, others =>
    if others.all fun other => other.head?.any item.isSameItem then
      let (shared, left) := splitShared rest (others.map List.tail)
      (item :: shared, left)
    else ([], (item :: rest) :: others)

/-- The parts of the set that a branch of one character is. -/
def setParts? : List Pattern → Option (List SetPart)
  | [.oneOf set _] => if set.negated then none else some set.parts
  | _ => none

/-- The mode of a branch of one character. -/
def setMode : List Pattern → PatternMode
  | [.oneOf _ mode] => mode
  | _ => .plain

/-- A choice between branches: a set if each is one character. -/
def ofBranchRests (branches : List (List Pattern)) : Pattern :=
  match branches.mapM setParts? with
  | some parts =>
    .oneOf ⟨false, parts.flatten.eraseDups⟩ ((branches.head?.map setMode).getD .plain)
  | none => ofChoices (branches.map ofSequence)

/-- The items of a choice between branches. -/
def ofBranches : List (List Pattern) → List Pattern
  | [] => []
  | [branch] => branch
  | branch :: others =>
    let (shared, rests) := splitShared branch others
    shared ++ [ofBranchRests rests]

/-- A single branch stays as it is. -/
theorem ofBranches_singleton (branch : List Pattern) : ofBranches [branch] = branch := rfl

end Pattern

end Intake
