import Intake.Format.Address
import Intake.Text.Quoted

/-!
# References to documents

A reference has a scheme before a colon, an authority after two slashes, a path, a query after a
question mark and a fragment after a number sign. Each of them may be missing, which is the same as
being empty. Control characters and spaces before a reference, and tabs and line ends inside, do not
count. Main statement: a reference of a path alone is written as that path.
-/

namespace Intake

/-- What is wrong with the authority of a reference. -/
inductive AuthorityFault where
  /-- Brackets do not pair, or stand where they must not. -/
  | brackets
  /-- What stands in brackets is no address. -/
  | noAddress (host : List Char)
  /-- What stands in brackets is an address of version four. -/
  | versionFour
  /-- What stands in brackets is no address of a future version. -/
  | futureVersion
  /-- A character stands for a text with a mark in it. -/
  | disguisedMark (authority : List Char)

/-- A fault of an authority in words. -/
def AuthorityFault.message : AuthorityFault → String
  | .brackets => "Invalid IPv6 URL"
  | .noAddress host =>
    quoteText (String.ofList host) ++ " does not appear to be an IPv4 or IPv6 address"
  | .versionFour => "An IPv4 address cannot be in brackets"
  | .futureVersion => "IPvFuture address is invalid"
  | .disguisedMark authority =>
    "netloc '" ++ String.ofList authority ++
      "' contains invalid characters under NFKC normalization"

/-- The parts of a reference. -/
structure Uri where
  /-- The scheme, in small letters. -/
  scheme : List Char
  /-- The host with what stands around it. -/
  authority : List Char
  /-- The path. -/
  path : List Char
  /-- The query. -/
  query : List Char
  /-- The fragment. -/
  fragment : List Char

namespace Uri

/-- A character of a scheme. -/
def isSchemeCharacter (c : Char) : Bool :=
  c.isAlphanum || c == '+' || c == '-' || c == '.'

/-- The scheme of a text, in small letters, and what follows its colon. -/
def splitScheme? (cs : List Char) : Option (List Char × List Char) :=
  match splitFirst ':' cs with
  | (scheme, some rest) =>
    match scheme with
    | [] => none
    | c :: _ =>
      if c.isAlpha && scheme.all isSchemeCharacter then some (scheme.map Char.toLower, rest)
      else none
  | (_, none) => none

/-- Characters that stand for a text with one of the marks `/ ? # @ :` in it. -/
def disguisedMarks : List Nat :=
  [0x2047, 0x2048, 0x2049, 0x2100, 0x2101, 0x2105, 0x2106, 0x2A74, 0xFE13, 0xFE16, 0xFE55,
   0xFE56, 0xFE5F, 0xFE6B, 0xFF03, 0xFF0F, 0xFF1A, 0xFF1F, 0xFF20]

/-- A mark that ends an authority. -/
def endsAuthority (c : Char) : Bool := c == '/' || c == '?' || c == '#'

/-- An address of a future version: a `v`, hexadecimal digits, a dot and anything. -/
def isFutureAddress : List Char → Bool
  | 'v' :: rest =>
    match splitFirst '.' rest with
    | (version, some address) =>
      !version.isEmpty && version.all isHexDigit && !address.isEmpty
    | (_, none) => false
  | _ => false

/-- The text after the last at sign. -/
def afterUser (authority : List Char) : List Char :=
  ((splitParts '@' authority).getLast?).getD []

/-- What is wrong with a host as an address in brackets: it has to be one of version six or of a
future version. -/
def addressFault? (host : List Char) : Option AuthorityFault :=
  if host.head? = some 'v' then if isFutureAddress host then none else some .futureVersion
  else if Format.isIpv6 host then none
  else if Format.isIpv4 host then some .versionFour
  else some (.noAddress host)

/-- What is wrong with an authority that has brackets of both kinds: they leave room for nothing
before them and for nothing but a port after them. -/
def bracketFault? (authority : List Char) : Option AuthorityFault :=
  match splitFirst '[' (afterUser authority) with
  | (before, some inner) =>
    let (host, after) := splitFirst ']' inner
    let port := after.getD []
    if !before.isEmpty then some .brackets
    else if !port.isEmpty && port.head? != some ':' then some .brackets
    else addressFault? host
  | (plain, none) => addressFault? (splitFirst ':' plain).1

/-- What is wrong with an authority. -/
def authorityFault? (authority : List Char) : Option AuthorityFault :=
  (match authority.contains '[', authority.contains ']' with
    | false, false => none
    | true, true => bracketFault? authority
    | _, _ => some .brackets).or
    (if authority.any fun c => disguisedMarks.contains c.toNat then some (.disguisedMark authority)
      else none)

/-- The authority after two slashes, if there is one, and the rest. -/
def splitAuthority : List Char → List Char × List Char
  | '/' :: '/' :: rest =>
    (rest.takeWhile (!endsAuthority ·), rest.dropWhile (!endsAuthority ·))
  | cs => ([], cs)

/-- A text without the characters that do not count in a reference. -/
def clean (cs : List Char) : List Char :=
  (cs.dropWhile (· ≤ ' ')).filter fun c => c != '\t' && c != '\r' && c != '\n'

/-- The parts of a reference, which has a given scheme unless it names one itself. -/
def read (scheme cs : List Char) : Except AuthorityFault Uri :=
  let (scheme, rest) := (splitScheme? (clean cs)).getD (scheme, clean cs)
  let (authority, rest) := splitAuthority rest
  let (rest, fragment) := splitFirst '#' rest
  let (path, query) := splitFirst '?' rest
  match authorityFault? authority with
  | some fault => .error fault
  | none => .ok ⟨scheme, authority, path, query.getD [], fragment.getD []⟩

/-- The schemes of references that have an authority; without a scheme they may have one too. -/
def authoritySchemes : List String :=
  ["", "ftp", "http", "gopher", "nntp", "telnet", "imap", "wais", "file", "mms", "https", "shttp",
   "snews", "prospero", "rtsp", "rtsps", "rtspu", "rsync", "svn", "svn+ssh", "sftp", "nfs", "git",
   "git+ssh", "ws", "wss"]

/-- Whether references of a scheme have an authority. -/
def hasAuthority (scheme : List Char) : Bool :=
  authoritySchemes.contains (String.ofList scheme)

/-- A part after its mark, or nothing if it is empty. -/
def marked (mark : Char) (part : List Char) : List Char :=
  if part.isEmpty then [] else mark :: part

/-- A reference as it is written. The path follows an authority after a slash. -/
def text (uri : Uri) : List Char :=
  let slashed := uri.path.take 2 = ['/', '/']
  let place :=
    if !uri.authority.isEmpty || (!uri.scheme.isEmpty && hasAuthority uri.scheme && !slashed) then
      let path :=
        if uri.path.isEmpty || uri.path.head? = some '/' then uri.path else '/' :: uri.path
      '/' :: '/' :: uri.authority ++ path
    else uri.path
  (if uri.scheme.isEmpty then [] else uri.scheme ++ [':']) ++ place ++ marked '?' uri.query ++
    marked '#' uri.fragment

/-- A reference of a path alone is written as that path. -/
theorem text_path (path : List Char) : text ⟨[], [], path, [], []⟩ = path := by
  simp [text, marked]

end Uri

end Intake

namespace Intake.Uri

/-!
## References relative to others

A reference may leave out the parts that it shares with the document it stands in. Its path then goes
on from the directory of that document, where a dot stays in a directory and two dots leave it. Main
statement: a document that has no name does not change a reference.
-/

/-- The schemes in which references may be relative. -/
def relativeSchemes : List String :=
  ["", "ftp", "http", "gopher", "nntp", "imap", "wais", "file", "https", "shttp", "mms",
   "prospero", "rtsp", "rtsps", "rtspu", "sftp", "svn", "svn+ssh", "ws", "wss"]

/-- The schemes in which a path may end with parameters after a semicolon. -/
def parameterSchemes : List String :=
  ["", "ftp", "hdl", "prospero", "http", "imap", "https", "shttp", "rtsp", "rtsps", "rtspu", "sip",
   "sips", "mms", "sftp", "tel"]

/-- The parts of a path before and after the last slash, the slash belonging to the first. -/
def splitLastSlash (path : List Char) : List Char × List Char :=
  let name := (path.reverse.takeWhile (· != '/')).reverse
  (path.take (path.length - name.length), name)

/-- A path and the parameters at its end. -/
def splitParameters (scheme path : List Char) : List Char × List Char :=
  if parameterSchemes.contains (String.ofList scheme) then
    let (directory, name) := splitLastSlash path
    let (name, parameters) := splitFirst ';' name
    (directory ++ name, parameters.getD [])
  else (path, [])

/-- A reference with another path. -/
def withPath (uri : Uri) (path parameters : List Char) : Uri :=
  { uri with path := path ++ marked ';' parameters }

/-- The segments of a path that goes on from those of another, whose last one is a document. Empty
segments inside are left out. -/
def continued (base path : List Char) : List (List Char) :=
  let parts := splitParts '/' base
  let directory := if parts.getLast? = some [] then parts else parts.dropLast
  match directory ++ splitParts '/' path with
  | [] => []
  | first :: rest =>
    first :: (rest.dropLast.filter (!·.isEmpty) ++ rest.getLast?.toList)

/-- Goes along one segment of a path. -/
def goAlong (done : List (List Char)) (segment : List Char) : List (List Char) :=
  if segment = ['.', '.'] then done.dropLast
  else if segment = ['.'] then done
  else done ++ [segment]

/-- The path that segments lead to. -/
def pathAlong (segments : List (List Char)) : List Char :=
  let done := segments.foldl goAlong []
  let last := segments.getLast?.getD []
  let done := if last = ['.'] ∨ last = ['.', '.'] then done ++ [[]] else done
  let path := ['/'].intercalate done
  if path.isEmpty then ['/'] else path

/-- The document that a reference leads to from another document. -/
def resolve (base reference : List Char) : Except AuthorityFault (List Char) :=
  if base.isEmpty then .ok reference
  else if reference.isEmpty then .ok base
  else do
    let start ← read [] base
    let goal ← read start.scheme reference
    if goal.scheme ≠ start.scheme || !relativeSchemes.contains (String.ofList goal.scheme) then
      return reference
    let (path, parameters) := splitParameters goal.scheme goal.path
    if hasAuthority goal.scheme && !goal.authority.isEmpty then
      return (goal.withPath path parameters).text
    let goal :=
      if hasAuthority goal.scheme then { goal with authority := start.authority } else goal
    let (basePath, baseParameters) := splitParameters start.scheme start.path
    if path.isEmpty && parameters.isEmpty then
      let query := if goal.query.isEmpty then start.query else goal.query
      return ({ goal with query := query }.withPath basePath baseParameters).text
    let segments :=
      if path.head? = some '/' then splitParts '/' path else continued basePath path
    return (goal.withPath (pathAlong segments) parameters).text

/-- A reference without its fragment, and the fragment. -/
def withoutFragment (reference : List Char) : Except AuthorityFault (List Char × List Char) :=
  if reference.contains '#' then do
    let uri ← read [] reference
    let (path, parameters) := splitParameters uri.scheme uri.path
    return ({ uri with fragment := [] }.withPath path parameters |>.text, uri.fragment)
  else .ok (reference, [])

/-- A document that has no name does not change a reference. -/
theorem resolve_nil (reference : List Char) : resolve [] reference = .ok reference := rfl

end Intake.Uri
