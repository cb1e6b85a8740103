import Intake.Number.Literal
import Intake.Pattern.Basic
import Intake.Pattern.Fault
import Intake.Text.CharacterName.Lookup
import Intake.Text.Identifier

/-!
# Reading patterns

The text of a pattern is read token by token; a token is a character, or a backslash with the
character after it. The reader keeps the position of the next token, so that every fault is reported
where it stands, and the numbers, names and widths of the groups closed so far.
-/

namespace Intake

/-- A token of a pattern. -/
inductive PatternToken where
  /-- A character by itself. -/
  | plain (c : Char)
  /-- A character after a backslash. -/
  | escaped (c : Char)
  /-- A backslash at the end of the pattern. -/
  | dangling
  deriving DecidableEq

/-- The tokens of a pattern. -/
def PatternToken.ofText : List Char → List PatternToken
  | [] => []
  | '\\' :: [] => [.dangling]
  | '\\' :: c :: rest => .escaped c :: ofText rest
  | c :: rest => .plain c :: ofText rest

/-- The text of a token. -/
def PatternToken.text : PatternToken → List Char
  | .plain c => [c]
  | .escaped c => ['\\', c]
  | .dangling => ['\\']

/-- A letter that sets a mode. -/
inductive ModeLetter where
  /-- Letters match their variants in letter case. -/
  | ignoreCase
  /-- Locales decide on letters. -/
  | locale
  /-- The line anchors match at every line. -/
  | multiLine
  /-- The dot matches line ends too. -/
  | dotAll
  /-- Blanks and comments are skipped. -/
  | spaced
  /-- Named classes know the ASCII characters only. -/
  | asciiOnly
  /-- The pattern is a template. -/
  | template
  /-- Named classes know all scripts. -/
  | allScripts
  deriving DecidableEq

namespace ModeLetter

/-- The mode letter that a character is. -/
def ofChar? : Char → Option ModeLetter
  | 'i' => some .ignoreCase
  | 'L' => some .locale
  | 'm' => some .multiLine
  | 's' => some .dotAll
  | 'x' => some .spaced
  | 'a' => some .asciiOnly
  | 't' => some .template
  | 'u' => some .allScripts
  | _ => none

/-- Letters that say which characters the named classes know; they exclude each other. -/
def choosesScripts : ModeLetter → Bool
  | .locale | .asciiOnly | .allScripts => true
  | _ => false

/-- A mode with one letter turned on or off. -/
def set (on : Bool) (mode : PatternMode) : ModeLetter → PatternMode
  | .ignoreCase => { mode with ignoreCase := on }
  | .multiLine => { mode with multiLine := on }
  | .dotAll => { mode with dotAll := on }
  | .spaced => { mode with spaced := on }
  | .asciiOnly => { mode with asciiOnly := on }
  | .allScripts => if on then { mode with asciiOnly := false } else mode
  | .locale | .template => mode

end ModeLetter

namespace PatternReader

/-- What the reader knows between two tokens. -/
structure State where
  /-- The tokens that are left. -/
  tokens : List PatternToken
  /-- The position of the next token. -/
  position : Nat
  /-- The mode of the whole pattern. -/
  mode : PatternMode
  /-- The mode letters set for the whole pattern. -/
  letters : List ModeLetter
  /-- The groups with names. -/
  names : List (List Char × Nat)
  /-- The widths of the groups from number one on; none while a group is open. -/
  widths : List (Option PatternWidth)
  /-- The number of groups when the outermost look behind around this place began. -/
  lookBehindFrom : Option Nat
  /-- The groups that conditionals refer to by number, with the position of the first reference. -/
  references : List (Nat × Nat)

/-- A step of the reader. -/
abbrev Step := StateT State (Except PatternError)

/-- Refuses the pattern for a fault so many characters before the next token. -/
def refuse {α : Type} (fault : PatternFault) (back : Nat) : Step α := fun state =>
  .error (.malformed fault (some (state.position - back)))

/-- The next token. -/
def peek : Step (Option PatternToken) := fun state => .ok (state.tokens.head?, state)

/-- The position of the next token. -/
def position : Step Nat := fun state => .ok (state.position, state)

/-- Refuses a pattern whose next token is a backslash at its end. -/
def checkNext (state : State) : Except PatternError State :=
  match state.tokens with
  | .dangling :: _ => .error (.malformed .escapeAtEnd (some state.position))
  | _ => .ok state

/-- Takes the next token. -/
def take : Step (Option PatternToken) := fun state =>
  match state.tokens with
  | [] => .ok (none, state)
  | token :: rest => do
    let state ← checkNext
      { state with tokens := rest, position := state.position + token.text.length }
    return (some token, state)

/-- Takes the next token if it is a given character. -/
def skip (c : Char) : Step Bool := do
  if (← peek) = some (.plain c) then
    let _ ← take
    return true
  return false

/-- Takes up to so many characters of a kind. -/
def takeWhile (test : Char → Bool) : Nat → Step (List Char)
  | 0 => return []
  | n + 1 => do
    match ← peek with
    | some (.plain c) =>
      if test c then
        let _ ← take
        return c :: (← takeWhile test n)
      return []
    | _ => return []

/-- How many tokens are left. -/
def remaining : Step Nat := fun state => .ok (state.tokens.length, state)

/-- Takes characters up to a terminator; `what` they are is told if they are missing. -/
def takeUntilFrom (terminator : Char) (what : String) (taken : List Char) :
    Nat → Step (List Char)
  | 0 => return taken
  | fuel + 1 => do
    match ← take with
    | none =>
      if taken.isEmpty then refuse (.missing what) 0
      else refuse (.unterminatedName terminator) taken.length
    | some token =>
      if token = .plain terminator then
        if taken.isEmpty then refuse (.missing what) 1 else return taken
      else takeUntilFrom terminator what (taken ++ token.text) fuel

/-- Takes characters up to a terminator; `what` they are is told if they are missing. -/
def takeUntil (terminator : Char) (what : String) : Step (List Char) := do
  takeUntilFrom terminator what [] ((← remaining) + 1)

/-- An octal digit. -/
def isOctalDigit (c : Char) : Bool := '0' ≤ c && c ≤ '7'

/-- The number that digits of a base stand for. -/
def numberIn (base : Nat) (digits : List Char) : Nat :=
  digits.foldl (fun n c => n * base + (hexValue? c).getD 0) 0

/-- Reads the digits of a hexadecimal escape. -/
def hexEscape (letter : Char) (count : Nat) : Step Nat := do
  let digits ← takeWhile isHexDigit count
  let escape := '\\' :: letter :: digits
  if digits.length ≠ count then refuse (.incompleteEscape escape) escape.length
  else if 0x10FFFF < numberIn 16 digits then refuse (.badEscape escape) escape.length
  else return numberIn 16 digits

/-- Reads the name of a character. -/
def nameEscape : Step Nat := do
  if !(← skip '\x7b') then refuse (.missing "\x7b") 0
  else
    let name ← takeUntil '\x7d' "character name"
    match characterNamed? name with
    | some code => return code
    | none => refuse (.undefinedCharacterName name) (name.length + 4)

/-- The character that a one-letter escape stands for everywhere. -/
def controlEscape? : Char → Option Nat
  | 'a' => some 7
  | 'f' => some 12
  | 'n' => some 10
  | 'r' => some 13
  | 't' => some 9
  | 'v' => some 11
  | '\\' => some 92
  | _ => none

/-- The named class that an escape stands for. -/
def classEscape? : Char → Option (ClassName × Bool)
  | 'd' => some (.digit, false)
  | 'D' => some (.digit, true)
  | 's' => some (.blank, false)
  | 'S' => some (.blank, true)
  | 'w' => some (.word, false)
  | 'W' => some (.word, true)
  | _ => none

/-- Reads an escape that starts with a letter or stands for its character. -/
def letterEscape (c : Char) : Step Nat := do
  match c with
  | 'x' => hexEscape c 2
  | 'u' => hexEscape c 4
  | 'U' => hexEscape c 8
  | 'N' => nameEscape
  | _ =>
    if c.isAlpha then refuse (.badEscape ['\\', c]) 2
    else return c.toNat

/-- Reads an escape inside a set. -/
def setEscape (c : Char) : Step SetPart := do
  if c = 'b' then return .single 8
  if let some code := controlEscape? c then return .single code
  if let some (name, negated) := classEscape? c then return .named name negated
  if isOctalDigit c then
    let more ← takeWhile isOctalDigit 2
    let code := numberIn 8 (c :: more)
    let escape := '\\' :: c :: more
    if 0o377 < code then refuse (.octalTooLarge escape) escape.length
    return .single code
  if c.isDigit then refuse (.badEscape ['\\', c]) 2
  let code ← letterEscape c
  return .single code

/-- Whether a group is closed. -/
def isClosed (state : State) (index : Nat) : Bool :=
  match state.widths[index - 1]? with
  | some (some _) => index != 0
  | _ => false

/-- Refuses a reference that a look behind around it does not allow. -/
def checkLookBehind (index : Nat) : Step Unit := fun state =>
  match state.lookBehindFrom with
  | none => .ok ((), state)
  | some first =>
    if !isClosed state index then .error (.malformed .openGroup (some state.position))
    else if first ≤ index then
      .error (.malformed .groupInsideLookBehind (some state.position))
    else .ok ((), state)

/-- A reference to a closed group. -/
def referenceTo (mode : PatternMode) (index : Nat) : Step Pattern := fun state =>
  .ok (.reference index (((state.widths[index - 1]?).getD none).getD .zero) mode, state)

/-- Reads a reference by number, from its digits on. -/
def numberedReference (mode : PatternMode) (digits : List Char) : Step Pattern := do
  let index := numberIn 10 digits
  let state ← get
  if index ≤ state.widths.length then
    if !isClosed state index then refuse .openGroup (digits.length + 1)
    else
      checkLookBehind index
      referenceTo mode index
  else refuse (.invalidReference index) digits.length

/-- A pattern of one code point. -/
def literal (mode : PatternMode) (code : Nat) : Pattern := .oneOf (.ofCode code) mode

/-- Reads an escape that starts with a digit other than zero: three octal digits are a character, all
else is a reference. -/
def digitEscape (mode : PatternMode) (c : Char) : Step Pattern := do
  match ← takeWhile Char.isDigit 1 with
  | [] => numberedReference mode [c]
  | second =>
    let digits := c :: second
    if digits.all isOctalDigit then
      match ← takeWhile isOctalDigit 1 with
      | [] => numberedReference mode digits
      | third =>
        let digits := digits ++ third
        let code := numberIn 8 digits
        if 0o377 < code then refuse (.octalTooLarge ('\\' :: digits)) (digits.length + 1)
        else return literal mode code
    else numberedReference mode digits

/-- Reads an escape outside of sets. -/
def escape (mode : PatternMode) (c : Char) : Step Pattern := do
  match c with
  | 'A' => return .anchor .textStart
  | 'Z' => return .anchor .textEnd
  | 'b' => return .anchor (.wordEdge mode.asciiOnly false)
  | 'B' => return .anchor (.wordEdge mode.asciiOnly true)
  | '0' => return literal mode (numberIn 8 (← takeWhile isOctalDigit 2))
  | _ =>
    if let some (name, negated) := classEscape? c then
      return .oneOf (.ofClass name negated) mode
    if let some code := controlEscape? c then return literal mode code
    if c.isDigit then digitEscape mode c
    else return literal mode (← letterEscape c)

/-- Reads the member of a set that starts with a token. -/
def setMember : PatternToken → Step SetPart
  | .plain c => return .single c.toNat
  | .escaped c => setEscape c
  | .dangling => return .single 92

/-- Reads the parts of a set that began at `origin`; `parts` are those read so far, the last one
first. -/
def setParts (origin : Nat) (parts : List SetPart) : Nat → Step (List SetPart)
  | 0 => return parts
  | fuel + 1 => do
    match ← take with
    | none => refuse .unterminatedSet ((← position) - origin)
    | some token =>
      if token = .plain ']' && !parts.isEmpty then return parts
      let first ← setMember token
      if ← skip '-' then
        match ← take with
        | none => refuse .unterminatedSet ((← position) - origin)
        | some (.plain ']') => return .single 45 :: first :: parts
        | some that =>
          let last ← setMember that
          match first, last with
          | .single low, .single high =>
            if high < low then
              refuse (.badRange token.text that.text) (token.text.length + 1 + that.text.length)
            else setParts origin (.range low high :: parts) fuel
          | _, _ =>
            refuse (.badRange token.text that.text) (token.text.length + 1 + that.text.length)
      else setParts origin (first :: parts) fuel

/-- Reads a set after its opening bracket. -/
def characterSet : Step CharacterSet := do
  let origin := (← position) - 1
  let negated ← skip '^'
  let parts ← setParts origin [] ((← remaining) + 1)
  return ⟨negated, parts.reverse.eraseDups⟩

/-- A count written in digits. -/
def countOf (digits : List Char) : Step Nat := fun state =>
  if maxIntegerDigits < digits.length then .error (.tooManyDigits digits.length)
  else
    let count := numberIn 10 digits
    if countLimit ≤ count then .error .countTooLarge else .ok (count, state)

/-- Reads the counts of a repetition after its opening brace; none if no repetition is written
there, and then nothing is taken. -/
def counts : Step (Option (Nat × Option Nat)) := do
  let origin ← get
  let low ← takeWhile Char.isDigit origin.tokens.length
  let high ← if ← skip ',' then takeWhile Char.isDigit origin.tokens.length else pure low
  if !(← skip '\x7d') then
    set origin
    return none
  let least ← if low.isEmpty then pure 0 else countOf low
  if high.isEmpty then return some (least, none)
  let most ← countOf high
  if most < least then refuse .reversedRepeat ((← position) - origin.position)
  return some (least, some most)

/-- A part of a sequence, and whether it is a group without a number, which can be repeated whatever
it holds. -/
structure Piece where
  /-- The patterns of the part, one after the other. -/
  items : List Pattern
  /-- The part is a group without a number. -/
  grouped : Bool

/-- The part that is one pattern. -/
def Piece.single (pattern : Pattern) : Piece := ⟨[pattern], false⟩

/-- Puts a repetition in place of the part before it. -/
def repeatLast (origin : Nat) (sign : Nat) (least : Nat) (most : Option Nat)
    (pieces : List Piece) : Step (List Piece) := do
  let back := (← position) - origin + sign
  match pieces with
  | [] => refuse .nothingToRepeat back
  | ⟨[.anchor _], false⟩ :: _ => refuse .nothingToRepeat back
  | ⟨[.repeated _ _ _ _], false⟩ :: _ => refuse .multipleRepeat back
  | ⟨items, _⟩ :: rest =>
    let body := Pattern.ofSequence items
    if ← skip '?' then return .single (.repeated least most .lazy body) :: rest
    if ← skip '+' then return .single (.repeated least most .possessive body) :: rest
    return .single (.repeated least most .greedy body) :: rest

/-- Reads mode letters that are turned on, `c` being the first; also gives the character after
them. -/
def lettersOn (on : List ModeLetter) (c : Char) : Nat → Step (List ModeLetter × Char)
  | 0 => return (on, c)
  | fuel + 1 => do
    match ModeLetter.ofChar? c with
    | none => return (on, c)
    | some .locale => refuse .localeMode 0
    | some letter =>
      let on := on ++ [letter]
      if letter.choosesScripts && on.any (fun l => l.choosesScripts && l != letter) then
        refuse .incompatibleModes 0
      match ← take with
      | none => refuse (.missing "-, : or )") 0
      | some token =>
        match token with
        | .plain d =>
          if d = ')' || d = '-' || d = ':' then return (on, d)
          if (ModeLetter.ofChar? d).isNone then
            refuse (if isLetter d then .unknownMode else .missing "-, : or )") 1
          lettersOn on d fuel
        | _ => refuse (.missing "-, : or )") token.text.length

/-- Reads mode letters that are turned off, up to the colon; `what` is said to be missing where no
letter stands. -/
def lettersOff (what : String) (off : List ModeLetter) : Nat → Step (List ModeLetter)
  | 0 => return off
  | fuel + 1 => do
    match ← take with
    | none => refuse (.missing what) 0
    | some token =>
      match token with
      | .plain c =>
        if c = ':' && !off.isEmpty then return off
        match ModeLetter.ofChar? c with
        | none => refuse (if isLetter c then .unknownMode else .missing what) 1
        | some letter =>
          if letter.choosesScripts then refuse .lastingMode 0
          lettersOff ":" (off ++ [letter]) fuel
      | _ => refuse (.missing what) token.text.length

/-- Reads the mode letters of a group, `c` being the first character of them: those turned on and
off, or none if they were for the whole pattern. -/
def groupModes (c : Char) : Step (Option (List ModeLetter × List ModeLetter)) := do
  let fuel := (← remaining) + 1
  let (on, terminator) ← if c = '-' then pure ([], '-') else lettersOn [] c fuel
  if terminator = ')' then
    modify fun state =>
      { state with
        mode := on.foldl (ModeLetter.set true) state.mode
        letters := state.letters ++ on }
    return none
  if on.contains .template then refuse (.wholeMode true) 1
  let off ← if terminator = '-' then lettersOff "flag" [] fuel else pure []
  if off.contains .template then refuse (.wholeMode false) 1
  if on.any off.contains then refuse .modeOnAndOff 1
  return some (on, off)

/-- Opens a group and gives its number. -/
def openGroup (name : Option (List Char)) : Step Nat := do
  let state ← get
  let index := state.widths.length + 1
  match name with
  | none => set { state with widths := state.widths ++ [none] }
  | some name =>
    match state.names.lookup name with
    | some earlier => refuse (.repeatedGroupName name index earlier) (name.length + 1)
    | none =>
      set { state with
        widths := state.widths ++ [none]
        names := state.names ++ [(name, index)] }
  return index

/-- Closes a group whose pattern is known. -/
def closeGroup (index : Nat) (body : Pattern) : Step Unit :=
  modify fun state => { state with widths := state.widths.set (index - 1) (some body.width) }

/-- Takes the end of a group that began at `origin`. -/
def groupEnd (origin : Nat) : Step Unit := do
  if !(← skip ')') then refuse .unterminatedGroup ((← position) - origin)

/-- Skips the rest of a comment in a group that began at `origin`. -/
def skipComment (origin : Nat) : Nat → Step Unit
  | 0 => return ()
  | fuel + 1 => do
    match ← peek with
    | none => refuse .unterminatedComment ((← position) - origin)
    | some token =>
      let _ ← take
      if token ≠ .plain ')' then skipComment origin fuel

/-- Skips the rest of a line. -/
def skipLine : Nat → Step Unit
  | 0 => return ()
  | fuel + 1 => do
    match ← take with
    | none => return ()
    | some token => if token ≠ .plain '\n' then skipLine fuel

/-- Reads the name of a group up to a terminator. -/
def groupName (terminator : Char) : Step (List Char) := do
  let name ← takeUntil terminator "group name"
  if isIdentifier name then return name
  else refuse (.badGroupName name) (name.length + 1)

/-- Reads the group that a conditional refers to. -/
def conditionGroup : Step Nat := do
  let name ← takeUntil ')' "group name"
  let index ←
    if isIdentifier name then
      match (← get).names.lookup name with
      | some index => pure index
      | none => refuse (.unknownGroupName name) (name.length + 1)
    else
      match readLooseInteger? (String.ofList name) with
      | some (.ofNat 0) => refuse .zeroGroup (name.length + 1)
      | some (.ofNat index) =>
        if 1073741823 ≤ index then refuse (.invalidReference index) (name.length + 1)
        else
          let origin := (← position) - name.length - 1
          modify fun state =>
            if (state.references.lookup index).isSome then state
            else { state with references := state.references ++ [(index, origin)] }
          pure index
      | _ => refuse (.badGroupName name) (name.length + 1)
  checkLookBehind index
  return index

/-- Reads a reference by name. -/
def namedReference (mode : PatternMode) : Step Pattern := do
  let name ← groupName ')'
  let state ← get
  match state.names.lookup name with
  | none => refuse (.unknownGroupName name) (name.length + 1)
  | some index =>
    if !isClosed state index then refuse .openGroup (name.length + 1)
    else
      checkLookBehind index
      referenceTo mode index

/-- Whether a token may not stand for itself. -/
def isBlankToken : PatternToken → Bool
  | .plain c => isAsciiBlank c
  | _ => false

mutual

/-- Reads choices up to the end of the pattern or of the group around them, and gives the items of
their pattern. At the top the mode of the whole pattern may be set before the first choice, and
counts from the second on. -/
def choices (top : Bool) (mode : PatternMode) (fuel : Nat) : Step (List Pattern) := do
  match fuel with
  | 0 => return []
  | fuel + 1 =>
    let first ← pieces top mode [] fuel
    if ← skip '|' then
      let whole := (← get).mode
      let mode := if top then whole else mode
      return Pattern.ofBranches (first :: (← choicesAfter top mode fuel))
    return first

/-- Reads the choices after the first. -/
def choicesAfter (top : Bool) (mode : PatternMode) (fuel : Nat) : Step (List (List Pattern)) := do
  match fuel with
  | 0 => return []
  | fuel + 1 =>
    let next ← pieces false mode [] fuel
    if ← skip '|' then
      let whole := (← get).mode
      let mode := if top then whole else mode
      return next :: (← choicesAfter top mode fuel)
    return [next]

/-- Reads the items of one choice; `done` holds the parts read so far, the last one first. -/
def pieces (first : Bool) (mode : PatternMode) (done : List Piece) (fuel : Nat) :
    Step (List Pattern) := do
  match fuel with
  | 0 => return []
  | fuel + 1 =>
    let finished := done.reverse.flatMap (·.items)
    let push := fun pattern => pieces first mode (.single pattern :: done) fuel
    match ← peek with
    | none => return finished
    | some token =>
      if token = .plain '|' || token = .plain ')' then return finished
      let _ ← take
      if mode.spaced && isBlankToken token then pieces first mode done fuel
      else if mode.spaced && token = .plain '#' then
        skipLine ((← remaining) + 1)
        pieces first mode done fuel
      else
        match token with
        | .dangling => return finished
        | .escaped c => push (← escape mode c)
        | .plain c =>
          let here ← position
          match c with
          | '[' => push (.oneOf (← characterSet) mode)
          | '.' => push (.anyCharacter mode.dotAll)
          | '^' => push (.anchor (.start mode.multiLine))
          | '$' => push (.anchor (if mode.multiLine then .lineEnd else .finalEnd))
          | '?' => pieces first mode (← repeatLast here 1 0 (some 1) done) fuel
          | '*' => pieces first mode (← repeatLast here 1 0 none done) fuel
          | '+' => pieces first mode (← repeatLast here 1 1 none done) fuel
          | '\x7b' =>
            if (← peek) = some (.plain '\x7d') then push (literal mode c.toNat)
            else
              match ← counts with
              | none => push (literal mode c.toNat)
              | some (least, most) =>
                pieces first mode (← repeatLast here 1 least most done) fuel
          | '(' =>
            match ← group (first && done.isEmpty) mode (here - 1) fuel with
            | some piece => pieces first mode (piece :: done) fuel
            | none =>
              let whole := (← get).mode
              pieces first (if first then whole else mode) done fuel
          | _ => push (literal mode c.toNat)

/-- Reads a group that began at `origin`, after its opening parenthesis; none for what only sets
modes or is a comment. -/
def group (first : Bool) (mode : PatternMode) (origin : Nat) (fuel : Nat) :
    Step (Option Piece) := do
  match fuel with
  | 0 => return none
  | fuel + 1 =>
    if !(← skip '?') then
      return some (.single (← numbered none mode origin fuel))
    match ← take with
    | none => refuse .unexpectedEnd 0
    | some token =>
      let unknown : Step (Option Piece) :=
        refuse (.unknownExtension token.text) (token.text.length + 1)
      match token with
      | .plain 'P' =>
        if ← skip '<' then
          let name ← groupName '>'
          return some (.single (← numbered (some name) mode origin fuel))
        else if ← skip '=' then
          return some (.single (← namedReference mode))
        else
          match ← take with
          | none => refuse .unexpectedEnd 0
          | some after =>
            refuse (.unknownExtension ('P' :: after.text)) (after.text.length + 2)
      | .plain ':' =>
        let items ← choices false mode fuel
        groupEnd origin
        return some ⟨items, true⟩
      | .plain '#' =>
        skipComment origin ((← remaining) + 1)
        return none
      | .plain '=' => return some (.single (.lookAhead false (← lookBody mode origin fuel)))
      | .plain '!' => return some (.single (.lookAhead true (← lookBody mode origin fuel)))
      | .plain '<' =>
        match ← take with
        | none => refuse .unexpectedEnd 0
        | some after =>
          if after ≠ .plain '=' && after ≠ .plain '!' then
            refuse (.unknownExtension ('<' :: after.text)) (after.text.length + 2)
          else
            let outer := (← get).lookBehindFrom
            modify fun state =>
              { state with lookBehindFrom := outer.getD (state.widths.length + 1) }
            let items ← choices false mode fuel
            modify fun state => { state with lookBehindFrom := outer }
            groupEnd origin
            return some (.single (.lookBehind (after = .plain '!') (.ofSequence items)))
      | .plain '(' =>
        let index ← conditionGroup
        let present ← pieces false mode [] fuel
        let absent ← if ← skip '|' then pieces false mode [] fuel else pure []
        if (← peek) = some (.plain '|') then refuse .thirdBranch 0
        groupEnd origin
        return some (.single (.conditional index (.ofSequence present) (.ofSequence absent)))
      | .plain '>' =>
        let items ← choices false mode fuel
        groupEnd origin
        return some (.single (.atomic (.ofSequence items)))
      | .plain c =>
        if c = '-' || (ModeLetter.ofChar? c).isSome then
          match ← groupModes c with
          | none =>
            if first then return none
            else refuse .lateModes ((← position) - origin)
          | some (on, off) =>
            let inner := off.foldl (ModeLetter.set false) (on.foldl (ModeLetter.set true) mode)
            let items ← choices false inner fuel
            groupEnd origin
            return some ⟨[.scoped (.ofSequence items)], true⟩
        else unknown
      | _ => unknown

/-- Reads the body and the end of a group with a number. -/
def numbered (name : Option (List Char)) (mode : PatternMode) (origin : Nat) (fuel : Nat) :
    Step Pattern := do
  match fuel with
  | 0 => return .empty
  | fuel + 1 =>
    let index ← openGroup name
    let body := Pattern.ofSequence (← choices false mode fuel)
    groupEnd origin
    closeGroup index body
    return .group index body

/-- Reads the body and the end of a look ahead. -/
def lookBody (mode : PatternMode) (origin : Nat) (fuel : Nat) : Step Pattern := do
  match fuel with
  | 0 => return .empty
  | fuel + 1 =>
    let items ← choices false mode fuel
    groupEnd origin
    return .ofSequence items

end

/-- Refuses what is left over at the end, modes that exclude each other, and references by number to
groups that are not there. -/
def finish : Step Unit := do
  let state ← get
  if state.letters.contains .asciiOnly && state.letters.contains .allScripts then
    throw .clashingModes
  if !state.tokens.isEmpty then refuse .unbalanced 0
  match state.references.find? (state.widths.length < ·.1) with
  | some (index, origin) => throw (.malformed (.invalidReference index) (some origin))
  | none => return ()

end PatternReader

/-- The first part of a pattern that cannot be matched: a look behind whose body has no single width,
so that it is not known where it starts, or a repetition in a template. -/
def Pattern.fault? (template : Bool) : Pattern → Option PatternFault
  | .empty | .never | .anchor _ | .oneOf _ _ | .anyCharacter _ | .reference _ _ _ => none
  | .sequence first second | .choice first second | .conditional _ first second =>
    (first.fault? template).or (second.fault? template)
  | .group _ body | .scoped body | .atomic body | .lookAhead _ body => body.fault? template
  | .repeated _ _ greed body =>
    if template then some (.repeatInTemplate greed) else body.fault? template
  | .lookBehind _ body =>
    if body.width.isFixed then body.fault? template else some .variableLookBehind

/-- The pattern that a text stands for. -/
def Pattern.read (text : String) : Except PatternError Pattern := do
  let tokens := PatternToken.ofText text.toList
  let start ← PatternReader.checkNext ⟨tokens, 0, .plain, [], [], [], none, []⟩
  let (items, state) ← (do
    let items ← PatternReader.choices true .plain (4 * tokens.length + 4)
    PatternReader.finish
    return items : PatternReader.Step (List Pattern)).run start
  let pattern := Pattern.ofSequence items
  match pattern.fault? (state.letters.contains .template) with
  | none => return pattern
  | some fault => throw (.malformed fault none)

end Intake
