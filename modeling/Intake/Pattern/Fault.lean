import Intake.Number.Layout
import Intake.Pattern.Basic
import Intake.Text.Quoted

/-!
# Faults of patterns

What can be wrong with the text of a pattern, how it is said and where it stands. A position counts
characters from zero; in a pattern of several lines it is given by line and column too.
-/

namespace Intake

/-- What is wrong with a pattern. -/
inductive PatternFault where
  /-- The pattern ends in a backslash. -/
  | escapeAtEnd
  /-- An escape lacks digits. -/
  | incompleteEscape (escape : List Char)
  /-- An escape means nothing. -/
  | badEscape (escape : List Char)
  /-- An octal escape is too large. -/
  | octalTooLarge (escape : List Char)
  /-- Something that has to stand here is missing. -/
  | missing (what : String)
  /-- A name has no end. -/
  | unterminatedName (terminator : Char)
  /-- No character has this name. -/
  | undefinedCharacterName (name : List Char)
  /-- A reference stands inside its own group. -/
  | openGroup
  /-- A look behind refers to a group of its own. -/
  | groupInsideLookBehind
  /-- No group has this number. -/
  | invalidReference (number : Nat)
  /-- A set has no end. -/
  | unterminatedSet
  /-- A range in a set has no sense. -/
  | badRange (first last : List Char)
  /-- The least count is above the greatest. -/
  | reversedRepeat
  /-- A repetition has no body. -/
  | nothingToRepeat
  /-- A repetition is repeated. -/
  | multipleRepeat
  /-- The pattern ends too early. -/
  | unexpectedEnd
  /-- A group name is no identifier. -/
  | badGroupName (name : List Char)
  /-- No group has this name. -/
  | unknownGroupName (name : List Char)
  /-- Two groups have one name. -/
  | repeatedGroupName (name : List Char) (index earlier : Nat)
  /-- A group has number zero. -/
  | zeroGroup
  /-- A group starts in an unknown way. -/
  | unknownExtension (text : List Char)
  /-- A comment has no end. -/
  | unterminatedComment
  /-- A group has no end. -/
  | unterminatedGroup
  /-- A conditional has more than two branches. -/
  | thirdBranch
  /-- Modes for the whole pattern are set after its start. -/
  | lateModes
  /-- The mode for locales does not apply to texts. -/
  | localeMode
  /-- Modes exclude each other. -/
  | incompatibleModes
  /-- A mode letter is unknown. -/
  | unknownMode
  /-- A mode of the whole pattern is turned on or off for a part. -/
  | wholeMode (on : Bool)
  /-- A mode that cannot be turned off is. -/
  | lastingMode
  /-- A mode is turned both on and off. -/
  | modeOnAndOff
  /-- A group is closed that was not opened. -/
  | unbalanced
  /-- A look behind can have several widths. -/
  | variableLookBehind
  /-- A template repeats something. -/
  | repeatInTemplate (greed : Greed)

/-- The name of a kind of repetition. -/
def Greed.name : Greed → String
  | .greedy => "MAX_REPEAT"
  | .lazy => "MIN_REPEAT"
  | .possessive => "POSSESSIVE_REPEAT"

/-- A fault in words. -/
def PatternFault.text : PatternFault → List Char
  | .escapeAtEnd => "bad escape (end of pattern)".toList
  | .incompleteEscape escape => "incomplete escape ".toList ++ escape
  | .badEscape escape => "bad escape ".toList ++ escape
  | .octalTooLarge escape =>
    "octal escape value ".toList ++ escape ++ " outside of range 0-0o377".toList
  | .missing what => "missing ".toList ++ what.toList
  | .unterminatedName terminator =>
    "missing ".toList ++ terminator :: ", unterminated name".toList
  | .undefinedCharacterName name =>
    "undefined character name ".toList ++ (quoteText (String.ofList name)).toList
  | .openGroup => "cannot refer to an open group".toList
  | .groupInsideLookBehind =>
    "cannot refer to group defined in the same lookbehind subpattern".toList
  | .invalidReference number => "invalid group reference ".toList ++ naturalText number
  | .unterminatedSet => "unterminated character set".toList
  | .badRange first last => "bad character range ".toList ++ first ++ '-' :: last
  | .reversedRepeat => "min repeat greater than max repeat".toList
  | .nothingToRepeat => "nothing to repeat".toList
  | .multipleRepeat => "multiple repeat".toList
  | .unexpectedEnd => "unexpected end of pattern".toList
  | .badGroupName name =>
    "bad character in group name ".toList ++ (quoteText (String.ofList name)).toList
  | .unknownGroupName name =>
    "unknown group name ".toList ++ (quoteText (String.ofList name)).toList
  | .repeatedGroupName name index earlier =>
    "redefinition of group name ".toList ++ (quoteText (String.ofList name)).toList ++
      " as group ".toList ++ naturalText index ++ "; was group ".toList ++ naturalText earlier
  | .zeroGroup => "bad group number".toList
  | .unknownExtension text => "unknown extension ?".toList ++ text
  | .unterminatedComment => "missing ), unterminated comment".toList
  | .unterminatedGroup => "missing ), unterminated subpattern".toList
  | .thirdBranch => "conditional backref with more than two branches".toList
  | .lateModes => "global flags not at the start of the expression".toList
  | .localeMode => "bad inline flags: cannot use 'L' flag with a str pattern".toList
  | .incompatibleModes => "bad inline flags: flags 'a', 'u' and 'L' are incompatible".toList
  | .unknownMode => "unknown flag".toList
  | .wholeMode on =>
    "bad inline flags: cannot turn ".toList ++ (if on then "on" else "off").toList ++
      " global flag".toList
  | .lastingMode => "bad inline flags: cannot turn off flags 'a', 'u' and 'L'".toList
  | .modeOnAndOff => "bad inline flags: flag turned on and off".toList
  | .unbalanced => "unbalanced parenthesis".toList
  | .variableLookBehind => "look-behind requires fixed-width pattern".toList
  | .repeatInTemplate greed =>
    "internal: unsupported template operator ".toList ++ greed.name.toList

/-- Why the text of a pattern is refused. -/
inductive PatternError where
  /-- The text breaks the rules for patterns, at a position if the fault has one. -/
  | malformed (fault : PatternFault) (position : Option Nat)
  /-- A count is beyond what repetitions can count. -/
  | countTooLarge
  /-- A count has more digits than numbers are read from. -/
  | tooManyDigits (count : Nat)
  /-- Two modes of the whole pattern exclude each other. -/
  | clashingModes

/-- A position in a pattern in words. -/
def positionText (pattern : List Char) (position : Nat) : List Char :=
  let before := pattern.take position
  let line := before.count '\n' + 1
  let column := (before.reverse.takeWhile (· != '\n')).length + 1
  " at position ".toList ++ naturalText position ++
    if pattern.contains '\n' then
      " (line ".toList ++ naturalText line ++ ", column ".toList ++ naturalText column ++ [')']
    else []

/-- A fault of a given pattern in words, with its position. -/
def PatternFault.message (pattern : String) (fault : PatternFault) (position : Option Nat) :
    String :=
  String.ofList (fault.text ++ match position with
    | some n => positionText pattern.toList n
    | none => [])

end Intake
