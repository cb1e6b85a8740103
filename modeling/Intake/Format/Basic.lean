import Intake.Format.Structural
import Intake.Text.Ends
import Intake.Uri.Basic

/-!
# Formats of texts

The formats that a text field may declare, their names, how messages describe them, and whether a
text has one.
-/

namespace Intake.Format

/-!
## URLs

A text is an absolute URL if it starts with a scheme, holds no blank, and has a host after two
slashes or a path otherwise. Control characters before the scheme are passed over.
-/

/-- The host of an authority, without user, port and brackets. -/
def hostOf (authority : List Char) : List Char :=
  match splitFirst '[' (Uri.afterUser authority) with
  | (_, some inner) => inner.takeWhile (· != ']')
  | (plain, none) => plain.takeWhile (· != ':')

/-- The scheme of an absolute URL, in small letters. -/
def urlScheme? (cs : List Char) : Option (List Char) :=
  if cs.any isBlank then none
  else
    match Uri.read [] cs with
    | .error _ => none
    | .ok uri =>
      let written := cs.drop (uri.scheme.length + 1)
      let complete :=
        if written.take 2 = ['/', '/'] then !(hostOf uri.authority).isEmpty else !uri.path.isEmpty
      if !uri.scheme.isEmpty && complete then some uri.scheme else none

/-- An absolute URL. -/
def isUrl (cs : List Char) : Bool := (urlScheme? cs).isSome

/-- An absolute URL holds no blank. -/
theorem blank_free_of_urlScheme? {cs scheme : List Char} (h : urlScheme? cs = some scheme) :
    cs.any isBlank = false := by
  unfold urlScheme? at h
  split at h
  · cases h
  · rename_i clean
    simpa using clean

end Intake.Format

namespace Intake

/-! ## Formats of texts -/

/-- A format that a text field may declare. -/
inductive TextFormat where
  /-- An address of mail. -/
  | email
  /-- An absolute URL. -/
  | url
  /-- A universally unique identifier. -/
  | uuid
  /-- A network address of version 4. -/
  | ipv4
  /-- A network address of version 6. -/
  | ipv6
  /-- Bytes in base 64. -/
  | base64
  /-- A signed token. -/
  | jwt
  /-- A slug. -/
  | slug
  /-- A colour by its hexadecimal digits. -/
  | hexColor
  /-- A semantic version. -/
  | semver
  deriving DecidableEq

namespace TextFormat

/-- All formats. -/
def all : List TextFormat :=
  [.email, .url, .uuid, .ipv4, .ipv6, .base64, .jwt, .slug, .hexColor, .semver]

/-- The name a format is declared by. -/
def name : TextFormat → String
  | .email => "email"
  | .url => "url"
  | .uuid => "uuid"
  | .ipv4 => "ipv4"
  | .ipv6 => "ipv6"
  | .base64 => "base64"
  | .jwt => "jwt"
  | .slug => "slug"
  | .hexColor => "hex-color"
  | .semver => "semver"

/-- The format of a name. -/
def ofName? (name : String) : Option TextFormat := all.find? (·.name == name)

/-- A format is found by its name. -/
theorem ofName?_name (f : TextFormat) : ofName? f.name = some f := by
  cases f <;> decide

/-- How messages describe a text of a format. -/
def description : TextFormat → String
  | .email => "a valid email address"
  | .url => "a valid URL"
  | .uuid => "a valid UUID"
  | .ipv4 => "a valid IPv4 address"
  | .ipv6 => "a valid IPv6 address"
  | .base64 => "valid base64"
  | .jwt => "a valid JWT"
  | .slug => "a valid slug"
  | .hexColor => "a valid hex color"
  | .semver => "a valid semantic version"

/-- Whether a text has a format. -/
def accepts (f : TextFormat) (s : String) : Bool :=
  let cs := s.toList
  let line := dropFinalNewline cs
  match f with
  | .email => Format.isMailAddress line
  | .url => Format.isUrl cs
  | .uuid => Format.isUuid line
  | .ipv4 => Format.isIpv4 cs
  | .ipv6 => Format.isIpv6 cs
  | .base64 => Format.isBase64 line
  | .jwt => Format.isToken line
  | .slug => Format.isSlug line
  | .hexColor => Format.isHexColor line
  | .semver => Format.isVersion line

end TextFormat

/-- The scheme of an absolute URL, in small letters. -/
def urlScheme? (s : String) : Option String := (Format.urlScheme? s.toList).map String.ofList

/-- A time of day in hours, minutes and maybe seconds. -/
def isClockTimeText (s : String) : Bool := Format.isClockTime (dropFinalNewline s.toList)

end Intake
