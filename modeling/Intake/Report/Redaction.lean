import Intake.Field.Definition
import Intake.Report.Detail
import Intake.Text.Casing

/-!
# Redaction of secrets

Before data is shown, its secrets are replaced: values of secret fields, values under keys that are
named as secret, and values under keys that look like names of credentials. Empty texts and null stay.
Records inside are redacted by the properties that their field declares. Main statement: redaction
keeps the keys of a record in their order.
-/

namespace Intake

/-- The words by which a key looks like the name of a credential. -/
def credentialWords : List String :=
  ["apikey", "api_key", "api-key", "secret", "token", "password", "privatekey", "private_key",
   "private-key"]

/-- Whether a text starts with a word, whatever the case of letters. -/
def startsWithWord : List Char → List Char → Bool
  | [], _ => true
  | _ :: _, [] => false
  | w :: word, c :: rest => (caseVariants c.toNat).contains w.toNat && startsWithWord word rest

/-- Whether a word occurs in a text, whatever the case of letters. -/
def containsWord (word : List Char) : List Char → Bool
  | [] => word.isEmpty
  | c :: rest => startsWithWord word (c :: rest) || containsWord word rest

/-- Whether a key looks like the name of a credential. -/
def looksSecret (key : String) : Bool :=
  credentialWords.any fun word => containsWord word.toList key.toList

/-- The definitions of the properties of a record field. -/
def Definition.propertyFields : Definition → FieldMap
  | ⟨_, _, properties⟩ => properties.value?.getD []

/-- The value of a key is to be replaced. -/
def isHidden (extra : List String) (field : Option Definition) (key : String) : Bool :=
  extra.contains key || looksSecret key || (field.map (·.isSecret)).getD false

/-- Neither null nor an empty text. -/
def Value.isFilled : Value → Bool
  | .null => false
  | .text s => s ≠ ""
  | _ => true

mutual

/-- A value with the secrets inside it replaced. -/
def redactValue (fields : FieldMap) (v : Value) : Value :=
  match v with
  | .record entries => .record (redactEntries [] fields entries)
  | v => v

/-- Entries with their secrets replaced; keys may be named as secret besides. -/
def redactEntries (extra : List String) (fields : FieldMap) (entries : List (String × Value)) :
    List (String × Value) :=
  match entries with
  | [] => []
  | (key, v) :: rest =>
    let field := fields.lookup key
    let shown :=
      if isHidden extra field key && v.isFilled then .text redactedText
      else redactValue ((field.map (·.propertyFields)).getD []) v
    (key, shown) :: redactEntries extra fields rest

end

/-- Redaction keeps the keys in their order. -/
theorem keys_redactEntries (extra : List String) (fields : FieldMap)
    (entries : List (String × Value)) :
    (redactEntries extra fields entries).map (·.1) = entries.map (·.1) := by
  induction entries with
  | nil => rfl
  | cons entry rest ih =>
    obtain ⟨key, v⟩ := entry
    simp [redactEntries, ih]

end Intake
