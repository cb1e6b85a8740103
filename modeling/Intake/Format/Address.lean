import Intake.Format.Structural
import Intake.Number.Layout

/-!
# Network addresses

Addresses of version 4 are four octets; those of version 6 are eight groups of hexadecimal digits,
where one run of zero groups may be left out, the last two groups may be written as a version 4
address, and a zone may follow a percent sign.
-/

namespace Intake.Format

/-- One to three ASCII digits without a leading zero, up to 255. -/
def isOctet (cs : List Char) : Bool :=
  !cs.isEmpty && cs.all Char.isDigit && cs.length ≤ 3 && (cs == ['0'] || cs.head? != some '0') &&
    ofDigits (cs.filterMap asciiDigit?) ≤ 255

/-- Four octets with dots between them. -/
def isIpv4 (cs : List Char) : Bool :=
  let octets := splitParts '.' cs
  octets.length == 4 && octets.all isOctet

/-- One to four hexadecimal digits. -/
def isHextet (cs : List Char) : Bool :=
  !cs.isEmpty && cs.length ≤ 4 && cs.all isHexDigit

/-- The groups of an address, where a version 4 address at the end counts as two groups; none if
what stands there is no such address. -/
def hextets? (cs : List Char) : Option (List (List Char)) :=
  let parts := splitParts ':' cs
  if parts.length < 3 then none
  else
    match parts.getLast? with
    | some last =>
      if last.contains '.' then
        if isIpv4 last then some (parts.dropLast ++ [['0'], ['0']]) else none
      else some parts
    | none => none

/-- Where a run of groups is left out: the places between the first and the last group that are
empty. -/
def gaps (parts : List (List Char)) : List Nat :=
  (List.range parts.length).filter fun i =>
    0 < i && i + 1 < parts.length && (parts[i]?.getD []).isEmpty

/-- The groups around a gap: the one before it may be missing if the gap starts the address, and
likewise at the end; at least one group must be left out. -/
def isGappedAddress (parts : List (List Char)) (gap : Nat) : Bool :=
  let before := parts.take gap
  let after := parts.drop (gap + 1)
  let before := if before == [[]] then [] else before
  let after := if after == [[]] then [] else after
  before.length + after.length < 8 && before.all isHextet && after.all isHextet

/-- An address of version 6 without a zone. -/
def isPlainIpv6 (cs : List Char) : Bool :=
  match hextets? cs with
  | none => false
  | some parts =>
    if 9 < parts.length then false
    else
      match gaps parts with
      | [] => parts.length == 8 && parts.all isHextet
      | [gap] => isGappedAddress parts gap
      | _ => false

/-- An address of version 6. -/
def isIpv6 (cs : List Char) : Bool :=
  match splitFirst '%' cs with
  | (address, none) => !cs.contains '/' && isPlainIpv6 address
  | (address, some zone) =>
    !cs.contains '/' && !zone.isEmpty && !zone.contains '%' && isPlainIpv6 address

end Intake.Format
