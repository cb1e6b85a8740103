import Intake.Engine.Basic

/-!
# Validating single values

A value is validated against one definition without a schema, as a field of the input or, if its
definition only makes sense there, of the configuration. Some common fields have definitions here.
-/

namespace Intake

namespace Definition

/-- A definition with its attributes changed. -/
def withAttributes (d : Definition) (f : FieldAttributes → FieldAttributes) : Definition :=
  match d with
  | ⟨attributes, items, properties⟩ => ⟨f attributes, items, properties⟩

/-- A required text with a format. -/
def requiredText (format : TextFormat) : Definition :=
  (ofKind .string).withAttributes fun a => { a with required := some true, format := .of format }

/-- A required address of mail, written in small letters. -/
def mailAddress : Definition :=
  (requiredText .email).withAttributes fun a => { a with transform := .of .lowercase }

/-- Rules that declare a pattern only. -/
def patternRules (pattern : String) : ConfigRules :=
  ⟨.undeclared, .undeclared, .of pattern, .undeclared, .undeclared, .undeclared, .undeclared⟩

/-- A required key for an interface, in which a pattern must be found if there is one. -/
def interfaceKey (pattern : Option String) : Definition :=
  (ofKind .apiKey).withAttributes fun a =>
    { a with
      required := some true
      secret := some true
      rules :=
        match pattern.filter (· ≠ "") with
        | some text => .of (patternRules text)
        | none => .undeclared }

end Definition

namespace EngineParts

/-- The validation of a value as a field of a name. -/
def validateValue (p : EngineParts) (s : EngineState) (d : Definition) (name : String)
    (value : Value) (options : Options) : EngineStep :=
  p.validate s (if d.attributes.isConfigField then .config else .input)
    (.record [(name, value)]) [(name, d)] options

end EngineParts

end Intake
