import Intake.Declaration.Scalar
import Intake.Field.Reader

/-!
# Options of a validation

Options say how far a validation goes and how it words its issues. They are read from a record, all
parts of which may be left out.
-/

namespace Intake

/-- How data is validated. -/
structure Options where
  /-- Stop at the first issue. -/
  abortEarly : Bool
  /-- Apply the transforms that fields declare. -/
  transform : Bool
  /-- Drop keys that are not declared, instead of refusing them. -/
  stripUnknown : Bool
  /-- Messages that replace others, by the label of a field, a dot and the name of a constraint. -/
  messages : List (String × String)

namespace Options

/-- The options where none are given. -/
def standard : Options := ⟨false, true, true, []⟩

/-- Reads options. -/
def read : Reader Options
  | .record entries =>
    (fun abortEarly transform stripUnknown messages =>
      Options.mk (abortEarly.getD standard.abortEarly) (transform.getD standard.transform)
        (stripUnknown.getD standard.stripUnknown) (messages.getD standard.messages))
      <$> readOption "abort_early" "abort_early" Reader.bool entries
      <*> readOption "transform" "transform" Reader.bool entries
      <*> readOption "strip_unknown" "strip_unknown" Reader.bool entries
      <*> readOption "custom_messages" "custom_messages" (Reader.record Reader.text) entries
  | _ => .fault .modelType

/-- Options as a record of all their parts. -/
def written (o : Options) : Value :=
  .record
    [("abort_early", .bool o.abortEarly), ("transform", .bool o.transform),
     ("strip_unknown", .bool o.stripUnknown),
     ("custom_messages", .record (o.messages.map fun (key, text) => (key, .text text)))]

end Options

end Intake
