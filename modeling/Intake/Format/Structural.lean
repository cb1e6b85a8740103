import Intake.Text.Digit

/-!
# Structural formats

Each format describes the characters of a whole text: addresses of mail, identifiers, encodings,
slugs, colours, versions and times of day. A single line end after the text is allowed. Main
statement: splitting a text at a separator loses nothing.
-/

namespace Intake

/-- The parts of a text between separators. -/
def splitParts (separator : Char) : List Char → List (List Char)
  | [] => [[]]
  | c :: rest =>
    if c = separator then [] :: splitParts separator rest
    else
      match splitParts separator rest with
      | [] => [[c]]
      | part :: parts => (c :: part) :: parts

/-- There is always a first part. -/
theorem splitParts_ne_nil (separator : Char) (cs : List Char) : splitParts separator cs ≠ [] := by
  cases cs with
  | nil => simp [splitParts]
  | cons c rest =>
    unfold splitParts
    split
    · simp
    · split <;> simp

/-- The parts with the separators between them make up the text. -/
theorem intercalate_splitParts (separator : Char) (cs : List Char) :
    [separator].intercalate (splitParts separator cs) = cs := by
  induction cs with
  | nil => rfl
  | cons c rest ih =>
    unfold splitParts
    split
    · rename_i h
      subst h
      cases parts : splitParts c rest with
      | nil => exact absurd parts (splitParts_ne_nil c rest)
      | cons part more =>
        rw [parts] at ih
        simpa [List.intercalate] using ih
    · cases parts : splitParts separator rest with
      | nil => exact absurd parts (splitParts_ne_nil separator rest)
      | cons part more =>
        rw [parts] at ih
        cases more <;> simp_all [List.intercalate]

/-- A text without separators is one part. -/
theorem splitParts_of_notMem {separator : Char} {part : List Char} (h : separator ∉ part) :
    splitParts separator part = [part] := by
  induction part with
  | nil => rfl
  | cons c rest ih =>
    rw [List.mem_cons, not_or] at h
    rw [splitParts, if_neg (Ne.symm h.1), ih h.2]

/-- The first part ends at the first separator. -/
theorem splitParts_append_cons {separator : Char} {part : List Char} (h : separator ∉ part)
    (rest : List Char) :
    splitParts separator (part ++ separator :: rest) = part :: splitParts separator rest := by
  induction part with
  | nil => rw [List.nil_append, splitParts, if_pos rfl]
  | cons c tail ih =>
    rw [List.mem_cons, not_or] at h
    rw [List.cons_append, splitParts, if_neg (Ne.symm h.1), ih h.2]

/-- The text before the first separator and what follows it, if the separator occurs. -/
def splitFirst (separator : Char) : List Char → List Char × Option (List Char)
  | [] => ([], none)
  | c :: rest =>
    if c = separator then ([], some rest)
    else
      let (before, after) := splitFirst separator rest
      (c :: before, after)

/-- A text without the line end that may follow it. -/
def dropFinalNewline : List Char → List Char
  | [] => []
  | ['\n'] => []
  | c :: rest => c :: dropFinalNewline rest

/-- A text without line ends has none to drop. -/
theorem dropFinalNewline_of_notMem {cs : List Char} (h : '\n' ∉ cs) : dropFinalNewline cs = cs := by
  induction cs with
  | nil => rfl
  | cons c rest ih =>
    obtain ⟨hc, hrest⟩ := not_or.mp (mt List.mem_cons.mpr h)
    rw [dropFinalNewline, ih hrest]
    rintro rfl
    exact fun _ => hc rfl

namespace Format

/-- An ASCII letter, digit or hyphen. -/
def isLabelCharacter (c : Char) : Bool := c.isAlphanum || c == '-'

/-- A character of the part of a mail address before the at sign. -/
def isMailCharacter (c : Char) : Bool :=
  c.isAlphanum || c == '_' || c == '\'' || c == '+' || c == '-' || c == '.'

/-- Two characters of a text that follow each other are both dots. -/
def hasDoubleDot : List Char → Bool
  | '.' :: '.' :: _ => true
  | _ :: rest => hasDoubleDot rest
  | [] => false

/-- The part of a mail address before the at sign: no dot at the start, no two dots in a row, and at
the end neither a dot nor a quote. -/
def isMailbox (cs : List Char) : Bool :=
  cs.all isMailCharacter && cs.head? != some '.' && !hasDoubleDot cs &&
    match cs.getLast? with
    | none => false
    | some c => c != '.' && c != '\''

/-- A label of a domain: it starts with a letter or digit and goes on with hyphens too. -/
def isDomainLabel : List Char → Bool
  | [] => false
  | c :: rest => c.isAlphanum && rest.all isLabelCharacter

/-- A domain of at least two labels, the last of two or more letters. -/
def isDomain (cs : List Char) : Bool :=
  match (splitParts '.' cs).reverse with
  | top :: label :: labels =>
    2 ≤ top.length && top.all Char.isAlpha && (label :: labels).all isDomainLabel
  | _ => false

/-- A mailbox, an at sign and a domain. -/
def isMailAddress (cs : List Char) : Bool :=
  match splitParts '@' cs with
  | [mailbox, domain] => isMailbox mailbox && isDomain domain
  | _ => false

/-- Groups of 8, 4, 4, 4 and 12 hexadecimal digits with hyphens between them. -/
def isUuid (cs : List Char) : Bool :=
  let groups := splitParts '-' cs
  groups.map List.length == [8, 4, 4, 4, 12] && groups.all (·.all isHexDigit)

/-- A digit of base 64. -/
def isBase64Digit (c : Char) : Bool := c.isAlphanum || c == '+' || c == '/'

/-- Groups of four digits of base 64, the last one filled up with equals signs. -/
def isBase64 : List Char → Bool
  | [] => true
  | [a, b, '=', '='] => isBase64Digit a && isBase64Digit b
  | [a, b, c, '='] => isBase64Digit a && isBase64Digit b && isBase64Digit c
  | a :: b :: c :: d :: rest =>
    isBase64Digit a && isBase64Digit b && isBase64Digit c && isBase64Digit d && isBase64 rest
  | _ => false

/-- A digit of base 64 as it stands in addresses. -/
def isBase64UrlDigit (c : Char) : Bool := c.isAlphanum || c == '-' || c == '_'

/-- Three segments of base 64 digits with dots between them, of which only the last may be empty. -/
def isToken (cs : List Char) : Bool :=
  match splitParts '.' cs with
  | [head, payload, signature] =>
    !head.isEmpty && !payload.isEmpty && head.all isBase64UrlDigit &&
      payload.all isBase64UrlDigit && signature.all isBase64UrlDigit
  | _ => false

/-- A small ASCII letter or a digit. -/
def isSlugCharacter (c : Char) : Bool := c.isLower || c.isDigit

/-- Runs of small letters and digits with single hyphens between them. -/
def isSlug (cs : List Char) : Bool :=
  (splitParts '-' cs).all fun run => !run.isEmpty && run.all isSlugCharacter

/-- A number sign and three or six hexadecimal digits. -/
def isHexColor : List Char → Bool
  | '#' :: digits => (digits.length == 3 || digits.length == 6) && digits.all isHexDigit
  | _ => false

/-- A number of a version: zero, or digits of which the first is an ASCII digit other than zero. -/
def isVersionNumber : List Char → Bool
  | ['0'] => true
  | c :: rest => c.isDigit && c != '0' && rest.all isDecimalDigit
  | [] => false

/-- A word of a pre-release: a version number, or digits with a letter or hyphen after them and then
letters, digits and hyphens. -/
def isPreReleaseWord (word : List Char) : Bool :=
  isVersionNumber word ||
    match word.dropWhile isDecimalDigit with
    | [] => false
    | c :: rest => (c.isAlpha || c == '-') && rest.all isLabelCharacter

/-- A word of a build. -/
def isBuildWord (word : List Char) : Bool :=
  !word.isEmpty && word.all isLabelCharacter

/-- Three version numbers with dots between them. -/
def isVersionCore (cs : List Char) : Bool :=
  match splitParts '.' cs with
  | [major, minor, patch] =>
    isVersionNumber major && isVersionNumber minor && isVersionNumber patch
  | _ => false

/-- A version core, a hyphen and pre-release words if there are any, a plus sign and build words if
there are any. -/
def isVersion (cs : List Char) : Bool :=
  let (release, build) := splitFirst '+' cs
  let (core, preRelease) := splitFirst '-' release
  isVersionCore core &&
    (preRelease.all fun words => (splitParts '.' words).all isPreReleaseWord) &&
    (build.all fun words => (splitParts '.' words).all isBuildWord)

/-- An hour of the day in one or two digits. -/
def isHour : List Char → Bool
  | [d] => isDecimalDigit d
  | [t, d] =>
    ((t == '0' || t == '1') && isDecimalDigit d) || (t == '2' && '0' ≤ d && d ≤ '3')
  | _ => false

/-- A minute or second in two digits. -/
def isSixtieth : List Char → Bool
  | [t, d] => '0' ≤ t && t ≤ '5' && isDecimalDigit d
  | _ => false

/-- Hours, minutes and maybe seconds with colons between them. -/
def isClockTime (cs : List Char) : Bool :=
  match splitParts ':' cs with
  | [hour, minute] => isHour hour && isSixtieth minute
  | [hour, minute, second] => isHour hour && isSixtieth minute && isSixtieth second
  | _ => false

end Format

end Intake
