import Intake.Number.Literal
import Intake.Pattern.Fault
import Intake.Uri.Basic
import Intake.Value.Shape
import Intake.Value.Spread

/-!
# Failures of the engine

A failure is no verdict on data and no fault of a declaration that is reported as such: something on
the way could not be computed. Each has a kind and a text, which reports of the engine show.
-/

namespace Intake

/-- Why a reference leads to nothing. -/
inductive ReferenceFault where
  /-- A pointer leads nowhere in a document. -/
  | nowhere (pointer : String) (document : Value)
  /-- A document has no part of a certain name. -/
  | unknownAnchor (anchor : String) (document : Value)
  /-- A fragment can name no part. -/
  | invalidAnchor (anchor : String)
  /-- The document is not at hand. -/
  | unresolvable (reference : String)

namespace ReferenceFault

/-- The kind of a fault. -/
def kind : ReferenceFault → String
  | .nowhere _ _ => "PointerToNowhere"
  | .unknownAnchor _ _ => "NoSuchAnchor"
  | .invalidAnchor _ => "InvalidAnchor"
  | .unresolvable _ => "Unresolvable"

/-- A fault in words. -/
def message : ReferenceFault → String
  | .nowhere pointer document =>
    quoteText pointer ++ " does not exist within " ++ document.fullText ++
      if pointer = "/" then
        ". The pointer '/' is a valid JSON Pointer but it points to an empty string property " ++
          "''. If you intended to point to the entire resource, you should use '#'."
      else ""
  | .unknownAnchor anchor document =>
    quoteText anchor ++ " does not exist within " ++ document.fullText
  | .invalidAnchor anchor =>
    "'#" ++ anchor ++ "' is not a valid anchor, neither as a plain name anchor " ++
      "nor as a JSON Pointer. You may have intended to use '#/" ++ anchor ++
      "', as the slash is required *before each segment* of a JSON pointer."
  | .unresolvable reference => reference

end ReferenceFault

/-- A division by zero. -/
inductive ZeroDivision where
  /-- The remainder of integers. -/
  | integerRemainder
  /-- A remainder of which one number is a double. -/
  | doubleRemainder
  /-- A quotient of doubles. -/
  | doubleQuotient

/-- A division by zero in words. -/
def ZeroDivision.message : ZeroDivision → String
  | .integerRemainder => "integer modulo by zero"
  | .doubleRemainder => "float modulo"
  | .doubleQuotient => "float division by zero"

/-- Why something could not be computed. -/
inductive Failure where
  /-- An infinite double has no integer part. -/
  | infiniteToInteger
  /-- What is no number has no integer part. -/
  | notANumberToInteger
  /-- An integer is beyond the range of doubles. -/
  | integerTooLarge
  /-- An infinite double is no ratio. -/
  | infiniteRatio
  /-- A text has too many digits to be read as an integer. -/
  | tooManyDigits (count : Nat)
  /-- A count in a pattern is too large. -/
  | repetitionTooLarge
  /-- Modes of a pattern exclude each other. -/
  | clashingModes
  /-- A group of a pattern ends before it starts. -/
  | crossedGroup
  /-- A pattern that was put together has a fault. -/
  | pattern (text : String) (fault : PatternFault) (position : Option Nat)
  /-- A text that has to be an index is no integer. -/
  | notAnIndex (text : String)
  /-- A number was divided by zero. -/
  | zeroDivision (division : ZeroDivision)
  /-- A value does not have the shape that something asks for. -/
  | shape (fault : ShapeFault)
  /-- A reference to a document is malformed. -/
  | authority (fault : AuthorityFault)
  /-- A reference that had to be followed leads to nothing. -/
  | reference (fault : ReferenceFault)
  /-- A reference that was looked through leads to nothing. -/
  | looseReference (fault : ReferenceFault)
  /-- A document that references passed through is not at hand. -/
  | unknownDocument (address : String)
  /-- A value has to have a type that there is not. -/
  | unknownType (type schema instance_ : Value)
  /-- References lead in a circle. -/
  | endless
  /-- A part of the engine that was put in from outside failed. -/
  | outside (message : String)

namespace Failure

/-- The kind of a failure. -/
def kind : Failure → String
  | .infiniteToInteger | .integerTooLarge | .infiniteRatio | .repetitionTooLarge =>
    "OverflowError"
  | .notANumberToInteger | .tooManyDigits _ | .clashingModes | .notAnIndex _ | .authority _ =>
    "ValueError"
  | .crossedGroup => "SystemError"
  | .pattern _ _ _ => "error"
  | .zeroDivision _ => "ZeroDivisionError"
  | .shape fault => fault.kind
  | .reference _ => "_WrappedReferencingError"
  | .looseReference fault => fault.kind
  | .unknownDocument _ => "NoSuchResource"
  | .unknownType _ _ _ => "UnknownType"
  | .endless => "RecursionError"
  | .outside _ => "RuntimeError"

/-- A value spread over lines that are set in. -/
def setIn (v : Value) : String :=
  String.ofList (v.spread.flatMap fun c => if c = '\n' then '\n' :: spaces 4 else [c])

/-- A failure in words. -/
def message : Failure → String
  | .infiniteToInteger => "cannot convert float infinity to integer"
  | .notANumberToInteger => "cannot convert float NaN to integer"
  | .integerTooLarge => "int too large to convert to float"
  | .infiniteRatio => "cannot convert Infinity to integer ratio"
  | .tooManyDigits count => tooManyDigitsMessage count
  | .repetitionTooLarge => "the repetition number is too large"
  | .clashingModes => "ASCII and UNICODE flags are incompatible"
  | .crossedGroup =>
    "The span of capturing group is wrong, please report a bug for the re module."
  | .pattern text fault position => fault.message text position
  | .notAnIndex text =>
    "invalid literal for int() with base 10: " ++
      String.ofList ((quoteText text).toList.take 200)
  | .zeroDivision division => division.message
  | .shape fault => fault.message
  | .authority fault => fault.message
  | .reference fault => fault.kind ++ ": " ++ fault.message
  | .looseReference fault => fault.message
  | .unknownDocument address => quoteText address
  | .unknownType type schema instance_ =>
    "Unknown type " ++ type.fullText ++ " for validator with schema:\n    " ++ setIn schema ++
      "\n\nWhile checking instance:\n    " ++ setIn instance_
  | .endless => "maximum recursion depth exceeded"
  | .outside message => message

/-- The failure to look through a reference, where it was not followed. -/
def loosened : Failure → Failure
  | .reference fault => .looseReference fault
  | failure => failure

/-- The failure that a refused pattern is, where its faults are not reported as such. -/
def ofPatternError (text : String) : PatternError → Failure
  | .malformed fault position => .pattern text fault position
  | .countTooLarge => .repetitionTooLarge
  | .tooManyDigits count => .tooManyDigits count
  | .clashingModes => .clashingModes

end Failure

/-- A refusal by shape is a failure. -/
instance : MonadLift (Except ShapeFault) (Except Failure) := ⟨Except.mapError .shape⟩

/-- A malformed reference to a document is a failure. -/
instance : MonadLift (Except AuthorityFault) (Except Failure) := ⟨Except.mapError .authority⟩

end Intake
