import Intake.Text.Digit

/-!
# Percent signs

In a reference, a percent sign with two hexadecimal digits stands for a byte, and bytes stand for
characters by UTF-8. Where bytes go wrong, the longest stretch that could have become a character is
shown as one replacement character. Main statement: a byte of ASCII stands for its character.
-/

namespace Intake

/-- The character that stands where bytes go wrong. -/
def replacement : Char := '\uFFFD'

/-- A character of several bytes that has started. -/
structure StartedCharacter where
  /-- The code so far. -/
  code : Nat
  /-- How many bytes it still needs, one not counted. -/
  more : Nat
  /-- The least byte that may come next. -/
  least : Nat
  /-- The greatest byte that may come next. -/
  greatest : Nat

/-- The character that a first byte starts, if it starts one of several bytes. -/
def StartedCharacter.of? (byte : Nat) : Option StartedCharacter :=
  if 0xC2 ≤ byte && byte ≤ 0xDF then some ⟨byte - 0xC0, 0, 0x80, 0xBF⟩
  else if byte = 0xE0 then some ⟨0, 1, 0xA0, 0xBF⟩
  else if byte = 0xED then some ⟨0xD, 1, 0x80, 0x9F⟩
  else if 0xE1 ≤ byte && byte ≤ 0xEF then some ⟨byte - 0xE0, 1, 0x80, 0xBF⟩
  else if byte = 0xF0 then some ⟨0, 2, 0x90, 0xBF⟩
  else if byte = 0xF4 then some ⟨4, 2, 0x80, 0x8F⟩
  else if 0xF1 ≤ byte && byte ≤ 0xF3 then some ⟨byte - 0xF0, 2, 0x80, 0xBF⟩
  else none

/-- The characters that bytes stand for, where one may have started. -/
def decodeBytes : Option StartedCharacter → List Nat → List Char
  | none, [] => []
  | some _, [] => [replacement]
  | none, byte :: rest =>
    if byte < 0x80 then Char.ofNat byte :: decodeBytes none rest
    else
      match StartedCharacter.of? byte with
      | some started => decodeBytes (some started) rest
      | none => replacement :: decodeBytes none rest
  | some started, byte :: rest =>
    if started.least ≤ byte && byte ≤ started.greatest then
      let code := started.code * 64 + (byte - 0x80)
      match started.more with
      | 0 => Char.ofNat code :: decodeBytes none rest
      | more + 1 => decodeBytes (some ⟨code, more, 0x80, 0xBF⟩) rest
    else
      replacement ::
        if byte < 0x80 then Char.ofNat byte :: decodeBytes none rest
        else
          match StartedCharacter.of? byte with
          | some other => decodeBytes (some other) rest
          | none => replacement :: decodeBytes none rest

/-- The text that a text with percent signs stands for, after bytes that have been read. A character
that is not in ASCII ends a row of bytes. -/
def percentDecodeAfter (bytes : List Nat) : List Char → List Char
  | [] => decodeBytes none bytes.reverse
  | '%' :: a :: b :: rest =>
    match hexValue? a, hexValue? b with
    | some high, some low => percentDecodeAfter ((high * 16 + low) :: bytes) rest
    | _, _ => percentDecodeAfter (37 :: bytes) (a :: b :: rest)
  | c :: rest =>
    if c.toNat < 0x80 then percentDecodeAfter (c.toNat :: bytes) rest
    else decodeBytes none bytes.reverse ++ c :: percentDecodeAfter [] rest

/-- The text that a text with percent signs stands for. -/
def percentDecode (cs : List Char) : List Char := percentDecodeAfter [] cs

/-- A byte of ASCII stands for its character. -/
theorem decodeBytes_ascii {c : Char} (rest : List Nat) (h : c.toNat < 0x80) :
    decodeBytes none (c.toNat :: rest) = c :: decodeBytes none rest := by
  simp [decodeBytes, h]

end Intake
