import Intake.Condition.Token
import Intake.Number.Literal
import Intake.Text.Quoted

/-!
# Reading conditions

A condition is read from its tokens. Disjunctions are made of conjunctions, these of negations,
these of comparisons, and a comparison of at most two operands: literals, references and conditions
in parentheses. Chains of one connective make one node. Each reader takes at least one token, which
is part of its type.
-/

namespace Intake

/-- Why a text is no condition. -/
inductive ConditionFault where
  /-- No token starts with a character at its place. -/
  | stray (character : Char) (position : Nat)
  /-- There are no tokens. -/
  | empty (position : Nat)
  /-- A token is out of place. -/
  | unexpectedToken (text : String) (position : Nat)
  /-- A comparison is compared. -/
  | chained (position : Nat)
  /-- A parenthesis is not closed. -/
  | unclosed (position : Nat)
  /-- The condition ends too early. -/
  | unexpectedEnd (position : Nat)
  /-- A name is neither a literal nor a reference. -/
  | unknownReference (name : String)
  /-- An integer has too many digits. -/
  | tooManyDigits (count : Nat)

namespace ConditionFault

/-- A fault at a position of a condition in words. -/
def located (what : String) (position : Nat) (condition : String) : String :=
  what ++ " at position " ++ String.ofList (naturalText position) ++ " in condition " ++
    quoteText condition

/-- A fault of a condition in words. -/
def message (condition : String) : ConditionFault → String
  | .stray character position =>
    located ("Unexpected character " ++ quoteText (String.singleton character)) position condition
  | .empty position => located "Empty condition" position condition
  | .unexpectedToken text position =>
    located ("Unexpected token " ++ quoteText text) position condition
  | .chained position => located "Chained comparisons are not supported" position condition
  | .unclosed position => located "Expected ')'" position condition
  | .unexpectedEnd position => located "Unexpected end of condition" position condition
  | .unknownReference name =>
    "Unknown reference " ++ quoteText name ++ " in condition " ++ quoteText condition ++
      "; references must start with 'input.' or 'config.'"
  | .tooManyDigits count => tooManyDigitsMessage count

end ConditionFault

/-- What was read from tokens, and the tokens that are left, fewer than before. -/
abbrev Taken (α : Type) (tokens : List Token) : Type :=
  α × { rest : List Token // rest.length < tokens.length }

/-- A reader of a part of a condition. -/
abbrev TokenReader (α : Type) : Type :=
  (tokens : List Token) → Except ConditionFault (Taken α tokens)

/-- Where the next token starts. -/
def nextPosition : List Token → Nat
  | [] => 0
  | token :: _ => token.position

/-- The value of a number as it is written. -/
def numberLiteral (text : List Char) : Except ConditionFault Value :=
  let digits := match text with
    | '-' :: rest => rest
    | cs => cs
  if digits.all isDecimalDigit then
    match readLooseInteger? (String.ofList text) with
    | some n => .ok (.int n)
    | none => .error (.tooManyDigits digits.length)
  else .ok (.float ((readLooseDouble? (String.ofList text)).getD .nan))

/-- A text without the backslashes that escape a character; a line feed cannot be escaped. -/
def unescape : List Char → List Char
  | [] => []
  | '\\' :: rest =>
    match rest with
    | c :: tail => if c = '\n' then '\\' :: c :: unescape tail else c :: unescape tail
    | [] => ['\\']
  | c :: rest => c :: unescape rest

/-- The text that a quoted text stands for. -/
def quotedLiteral (text : List Char) : String :=
  String.ofList (unescape ((text.drop 1).dropLast))

/-- The roots of references. -/
def namespaceNames : List String := ["input", "config"]

/-- The literal or reference that a name is. -/
def namedCondition (text : List Char) : Except ConditionFault Condition :=
  let name := String.ofList text
  if name = "true" then .ok (.literal (.bool true))
  else if name = "false" then .ok (.literal (.bool false))
  else if name = "null" then .ok (.literal .null)
  else
    match (splitParts '.' text).map String.ofList with
    | root :: key :: more =>
      if namespaceNames.contains root then .ok (.reference (root :: key :: more))
      else .error (.unknownReference name)
    | _ => .error (.unknownReference name)

namespace Condition

/-- Reads a literal, a reference or a condition in parentheses. -/
def readOperand (inner : TokenReader Condition) : TokenReader Condition
  | [] => .error (.unexpectedEnd 0)
  | token :: rest =>
    let taken (c : Condition) : Taken Condition (token :: rest) := (c, ⟨rest, by simp⟩)
    match token.lexeme with
    | .number text => (numberLiteral text).map fun v => taken (.literal v)
    | .quoted text => .ok (taken (.literal (.text (quotedLiteral text))))
    | .name text => (namedCondition text).map taken
    | .opening =>
      match inner rest with
      | .error fault => .error fault
      | .ok (c, ⟨closing :: tail, h⟩) =>
        if closing.lexeme = .closing then
          .ok (c, ⟨tail, by simp only [List.length_cons] at h ⊢; omega⟩)
        else .error (.unclosed closing.position)
      | .ok (_, ⟨[], _⟩) => .error (.unclosed 0)
    | .finish => .error (.unexpectedEnd token.position)
    | other => .error (.unexpectedToken other.text token.position)

/-- The comparison that the next token is. -/
def nextComparison? : List Token → Option Comparison
  | ⟨.comparison how, _⟩ :: _ => some how
  | _ => none

/-- Reads an operand, or a comparison of two. -/
def readComparison (inner : TokenReader Condition) : TokenReader Condition := fun tokens =>
  match readOperand inner tokens with
  | .error fault => .error fault
  | .ok (left, ⟨⟨.comparison how, _⟩ :: rest, h⟩) =>
    match readOperand inner rest with
    | .error fault => .error fault
    | .ok (right, ⟨more, h'⟩) =>
      if (nextComparison? more).isSome then .error (.chained (nextPosition more))
      else
        .ok (.comparison how left right,
          ⟨more, by simp only [List.length_cons] at h; omega⟩)
  | .ok (left, rest) => .ok (left, rest)

/-- Reads negations of a comparison. -/
def readNegation (inner : TokenReader Condition) : TokenReader Condition
  | ⟨.negated, position⟩ :: rest =>
    match readNegation inner rest with
    | .error fault => .error fault
    | .ok (operand, ⟨more, h⟩) =>
      .ok (.negation operand, ⟨more, by simp only [List.length_cons]; omega⟩)
  | tokens => readComparison inner tokens

/-- Reads items with a link between each two of them. -/
def readChain (link : Lexeme) (item : TokenReader Condition) (tokens : List Token) :
    Except ConditionFault (Taken (List Condition) tokens) :=
  match item tokens with
  | .error fault => .error fault
  | .ok (first, ⟨[], h⟩) => .ok ([first], ⟨[], h⟩)
  | .ok (first, ⟨next :: rest, h⟩) =>
    if next.lexeme = link then
      match readChain link item rest with
      | .error fault => .error fault
      | .ok (others, ⟨more, h'⟩) =>
        .ok (first :: others, ⟨more, by simp only [List.length_cons] at h; omega⟩)
    else .ok ([first], ⟨next :: rest, h⟩)
termination_by tokens.length
decreasing_by
  simp only [List.length_cons] at h
  omega

/-- One item by itself, or several joined. -/
def joined (join : List Condition → Condition) : List Condition → Condition
  | [item] => item
  | items => join items

/-- Reads negations with the sign of a conjunction between them. -/
def readConjunction (inner : TokenReader Condition) : TokenReader Condition := fun tokens =>
  (readChain .both (readNegation inner) tokens).map fun (items, rest) =>
    (joined .conjunction items, rest)

/-- Reads conjunctions with the sign of a disjunction between them. -/
def readDisjunction (inner : TokenReader Condition) : TokenReader Condition := fun tokens =>
  (readChain .either (readConjunction inner) tokens).map fun (items, rest) =>
    (joined .disjunction items, rest)

/-- Reads a condition within a budget of parentheses inside each other. -/
def readWithin : Nat → TokenReader Condition
  | 0 => fun tokens => .error (.unexpectedEnd (nextPosition tokens))
  | budget + 1 => readDisjunction (readWithin budget)

/-- The condition that tokens make up, the last of which is the end. -/
def ofTokens (tokens : List Token) : Except ConditionFault Condition :=
  match tokens with
  | ⟨.finish, position⟩ :: _ => .error (.empty position)
  | tokens =>
    match readWithin tokens.length tokens with
    | .error fault => .error fault
    | .ok (c, ⟨⟨.finish, _⟩ :: _, _⟩) => .ok c
    | .ok (_, ⟨token :: _, _⟩) => .error (.unexpectedToken token.lexeme.text token.position)
    | .ok (c, ⟨[], _⟩) => .ok c

/-- The condition that a text is. -/
def read (text : String) : Except ConditionFault Condition :=
  match Token.scan text with
  | .error stray => .error (.stray stray.character stray.position)
  | .ok tokens => ofTokens tokens

end Condition

end Intake
