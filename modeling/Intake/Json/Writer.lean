import Intake.Text.Quoted
import Intake.Value.Display

/-!
# Canonical JSON text

A value has one canonical text: records in the order of their keys, no blanks, everything beyond
ASCII escaped by its UTF-16 units. Dates and times, which JSON does not have, are written as the
texts that show them in full. Two values have the same text only if they have the same structure up
to the order of entries.
-/

namespace Intake

namespace Json

/-- Numbers in JSON text. -/
def layout : Layout := ⟨"NaN", "Infinity"⟩

/-- The escape of one unit of 16 bits. -/
def unitEscape (unit : Nat) : List Char := '\\' :: 'u' :: hexText 4 unit

/-- One character of a JSON string. -/
def escapeCharacter (c : Char) : List Char :=
  if c = '"' then ['\\', '"']
  else if c = '\\' then ['\\', '\\']
  else if c = '\n' then ['\\', 'n']
  else if c = '\r' then ['\\', 'r']
  else if c = '\t' then ['\\', 't']
  else if c.toNat = 8 then ['\\', 'b']
  else if c.toNat = 12 then ['\\', 'f']
  else if 32 ≤ c.toNat ∧ c.toNat < 127 then [c]
  else if c.toNat < 0x10000 then unitEscape c.toNat
  else
    let code := c.toNat - 0x10000
    unitEscape (0xD800 + code / 0x400) ++ unitEscape (0xDC00 + code % 0x400)

/-- A JSON string. -/
def stringText (s : String) : List Char :=
  '"' :: s.toList.flatMap escapeCharacter ++ ['"']

/-- The order of keys: by their characters from left to right. -/
def keyAtMost (a b : String × List Char) : Bool := !(b.1 < a.1)

mutual

/-- The canonical text of a value. -/
def canonical (v : Value) : List Char :=
  match v with
  | .null => "null".toList
  | .bool b => (if b then "true" else "false").toList
  | .number n => n.text layout
  | .text s => stringText s
  | .list items => '[' :: joinTexts [','] (canonicalItems items) ++ [']']
  | .record entries =>
    let written := (canonicalEntries entries).mergeSort keyAtMost
    '\x7b' :: joinTexts [','] (written.map fun (key, text) => stringText key ++ ':' :: text) ++
      ['\x7d']
  | .date d => stringText (Value.date d).fullText
  | .dateTime t => stringText (Value.dateTime t).fullText
  | .time t => stringText (Value.time t).fullText

/-- The canonical texts of items. -/
def canonicalItems (items : List Value) : List (List Char) :=
  match items with
  | [] => []
  | item :: rest => canonical item :: canonicalItems rest

/-- The keys with the canonical texts of their values. -/
def canonicalEntries (entries : List (String × Value)) : List (String × List Char) :=
  match entries with
  | [] => []
  | (key, value) :: rest => (key, canonical value) :: canonicalEntries rest

end

/-- The canonical text of a value. -/
def canonicalText (v : Value) : String := String.ofList (canonical v)

end Json

end Intake
