import Intake.Pattern.Basic

/-!
# Matching a pattern

Matching is a search with continuations: a pattern tries the ways in which it matches, in order, and
gives each position it reaches to what follows, until that succeeds. Each try answers whether it
succeeded and what it remembers then, also after a failure: a possessive repetition whose body fails
goes on from where that body left off. A repetition stops when an iteration beyond the least count
has matched the empty text, so the search ends. Main statement: the empty pattern is found in every
text.
-/

namespace Intake

/-!
## What a match remembers

A match remembers where its latest step left off, and where the groups passed so far start and end.
These marks are numbered by turns: the start and the end of the first group, of the second, and so
on; those from a number on count for nothing. Main statement: a mark just set is read back.
-/

/-- What a match remembers; positions count characters from the start of the text. -/
structure MatchMemory where
  /-- Where the latest step left off. -/
  pointer : Nat
  /-- The starts and ends of groups by turns. -/
  marks : List (Option Nat)
  /-- How many of the marks count. -/
  live : Nat

namespace MatchMemory

/-- The memory of a match that starts at a position. -/
def start (position : Nat) : MatchMemory := ⟨position, [], 0⟩

/-- The memory with another position where the latest step left off. -/
def leftAt (memory : MatchMemory) (position : Nat) : MatchMemory :=
  { memory with pointer := position }

/-- Sets the mark of a number; marks skipped on the way are empty. -/
def setMark (memory : MatchMemory) (number position : Nat) : MatchMemory :=
  if number < memory.live then
    { memory with marks := memory.marks.set number (some position) }
  else
    let kept := memory.marks.take memory.live
    { memory with
      marks := kept ++ List.replicate (number - kept.length) none ++ [some position]
      live := number + 1 }

/-- The mark of a number, if it counts and is set. -/
def mark? (memory : MatchMemory) (number : Nat) : Option Nat :=
  if number < memory.live then (memory.marks[number]?).join else none

/-- Where a group starts and ends, its start coming first. -/
def span? (memory : MatchMemory) (group : Nat) : Option (Nat × Nat) :=
  match memory.mark? (2 * group - 2), memory.mark? (2 * group - 1) with
  | some first, some last => if first ≤ last then some (first, last) else none
  | _, _ => none

/-- Goes back to the number of marks that counted earlier, and to the marks themselves if `whole`
says so. -/
def rewind (memory : MatchMemory) (whole : Bool) (earlier : MatchMemory) : MatchMemory :=
  { memory with
    marks := if whole then earlier.marks else memory.marks
    live := earlier.live }

/-- Whether some pair of marks ends before it starts; the first of the marks has an even number. -/
def hasCrossedPair : List (Option Nat) → Bool
  | some first :: some last :: rest => last < first || hasCrossedPair rest
  | _ :: _ :: rest => hasCrossedPair rest
  | _ => false

/-- Whether some group ends before it starts. -/
def hasCrossedMarks (memory : MatchMemory) : Bool :=
  hasCrossedPair (memory.marks.take memory.live)

/-- A mark just set is read back. -/
theorem mark?_setMark (memory : MatchMemory) (number position : Nat)
    (h : memory.live ≤ memory.marks.length) :
    (memory.setMark number position).mark? number = some position := by
  unfold setMark
  split
  next hn =>
    have hl : number < memory.marks.length := Nat.lt_of_lt_of_le hn h
    simp [mark?, hn, hl]
  next hn =>
    have hk : (memory.marks.take memory.live).length = memory.live := by simp [h]
    have hl : (memory.marks.take memory.live ++
        List.replicate (number - memory.live) none).length = number := by
      simp only [List.length_append, hk, List.length_replicate]
      omega
    simp only [mark?, hk, Nat.lt_succ_self, if_pos]
    rw [List.getElem?_append_right (Nat.le_of_eq hl), hl]
    simp

end MatchMemory

/-! ## Matching a pattern -/

/-- A text whose characters are counted from zero. -/
abbrev PatternText := Array Char

/-- Whether a character at a place belongs to a word. -/
def isWordAt (asciiOnly : Bool) (c : Option Char) : Bool :=
  c.any fun c => ClassName.word.contains asciiOnly c

/-- Whether an anchor matches at a position. -/
def Anchor.holdsAt (text : PatternText) (position : Nat) : Anchor → Bool
  | .textStart => position == 0
  | .textEnd => position == text.size
  | .start everyLine =>
    position == 0 || (everyLine && text[position - 1]? == some '\n')
  | .lineEnd => position == text.size || text[position]? == some '\n'
  | .finalEnd =>
    position == text.size || (position + 1 == text.size && text[position]? == some '\n')
  | .wordEdge asciiOnly negated =>
    !text.isEmpty &&
      (isWordAt asciiOnly (if position = 0 then none else text[position - 1]?) !=
        isWordAt asciiOnly text[position]?) != negated

/-- What is tried from a position: whether it succeeds, and what is remembered then. -/
abbrev PatternStep := Nat → MatchMemory → Bool × MatchMemory

/-- The end of a match, which always succeeds. -/
def PatternStep.finish : PatternStep := fun position memory => (true, memory.leftAt position)

/-- What the next item asks of the next character, as far as that is told before it is tried. -/
inductive PatternLead where
  /-- It is one character, whatever the letter case of others. -/
  | exact (code : Nat)
  /-- It belongs to a set whose characters are not compared by small forms. -/
  | member (set : CharacterSet) (mode : PatternMode)
  /-- Nothing is told. -/
  | unknown

/-- Whether the next character is told not to fit. -/
def PatternLead.refuses (next : Option Char) : PatternLead → Bool
  | .exact code => !next.any fun c => c.toNat == code
  | .member set mode => !next.any fun c => set.contains mode c
  | .unknown => false

/-- What follows a pattern. -/
structure PatternNext where
  /-- What it asks of the next character. -/
  lead : PatternLead
  /-- What is tried. -/
  step : PatternStep

/-- The position after a text that stands between two positions, if that is what follows. -/
def skipText? (text : PatternText) (mode : PatternMode) (first last position : Nat) : Option Nat :=
  let same := fun offset =>
    match text[first + offset]?, text[position + offset]? with
    | some c, some d => mode.foldCode c.toNat == mode.foldCode d.toNat
    | _, _ => false
  if (List.range (last - first)).all same then some (position + (last - first)) else none

/-- How many characters from a position on pass a test, up to a limit. -/
def countWhile (text : PatternText) (test : Char → Bool) (position : Nat) : Nat → Nat
  | 0 => 0
  | limit + 1 =>
    match text[position]? with
    | some c => if test c then countWhile text test (position + 1) limit + 1 else 0
    | none => 0

namespace Pattern

/-- What a pattern asks of the next character, if `follow` is asked after it. -/
def leadBefore (follow : PatternLead) : Pattern → PatternLead
  | .empty => follow
  | .scoped body => body.leadBefore follow
  | .sequence first second => first.leadBefore (second.leadBefore follow)
  | .oneOf set mode =>
    if set.isCased mode then .unknown
    else
      match set.parts with
      | [.single code] => if set.negated then .unknown else .exact code
      | _ => .member set mode
  | _ => .unknown

/-- The test for the one character that a pattern matches, if it is of that kind. -/
def unitTest? : Pattern → Option (Char → Bool)
  | .oneOf set mode => some (set.contains mode)
  | .anyCharacter dotAll => some fun c => dotAll || c != '\n'
  | .scoped body => body.unitTest?
  | _ => none

/-- Whether the characters that a pattern of one character matches are taken one by one. -/
def isTakenSingly : Pattern → Bool
  | .oneOf set mode => set.isTakenSingly mode
  | .scoped body => body.isTakenSingly
  | _ => false

/-- A repetition whose body is one character. -/
structure UnitRepetition where
  /-- The test for the character. -/
  test : Char → Bool
  /-- Whether characters are taken one by one, each step being remembered. -/
  singly : Bool
  /-- The least count. -/
  least : Nat
  /-- The greatest count, if there is one. -/
  most : Option Nat

/-- The greatest count that the rest of a text allows. -/
def UnitRepetition.limit (unit : UnitRepetition) (text : PatternText) (position : Nat) : Nat :=
  match unit.most with
  | some most => min most (text.size - position)
  | none => text.size - position

/-- What is remembered after so many characters were taken. -/
def UnitRepetition.afterCount (unit : UnitRepetition) (memory : MatchMemory)
    (position count : Nat) : MatchMemory :=
  memory.leftAt (if unit.singly then position + count else position)

/-- Tries what follows after `least + extra` characters, then after fewer. -/
def tryDownward (text : PatternText) (least : Nat) (whole : Bool) (next : PatternNext)
    (origin : MatchMemory) (position : Nat) : Nat → MatchMemory → Bool × MatchMemory
  | extra, memory =>
    let here := position + least + extra
    let refused := match next.lead with
      | .exact code => (PatternLead.exact code).refuses text[here]?
      | _ => false
    let (found, memory) :=
      if refused then (false, memory)
      else
        match next.step here (memory.leftAt here) with
        | (true, memory) => (true, memory)
        | (false, memory) => (false, memory.rewind whole origin)
    if found then (true, memory)
    else
      match extra with
      | 0 => (false, memory)
      | extra + 1 => tryDownward text least whole next origin position extra memory

/-- Tries what follows after `count` characters, then after more, as long as they pass the test; the
fuel is at least the number of characters left. -/
def tryUpward (text : PatternText) (unit : UnitRepetition) (whole : Bool) (next : PatternStep)
    (origin : MatchMemory) (position : Nat) : Nat → Nat → MatchMemory → Bool × MatchMemory
  | 0, _, memory => (false, memory)
  | fuel + 1, count, memory =>
    if unit.most.any (· < count) then (false, memory)
    else
      let here := position + count
      match next here (memory.leftAt here) with
      | (true, memory) => (true, memory)
      | (false, memory) =>
        let memory := (memory.rewind whole origin).leftAt here
        if countWhile text unit.test here 1 = 0 then (false, memory)
        else
          tryUpward text unit whole next origin position fuel (count + 1)
            (unit.afterCount memory here 1)

/-- Tries a repetition of one character. -/
def tryUnits (text : PatternText) (whole : Bool) (unit : UnitRepetition) (greed : Greed)
    (next : PatternNext) : PatternStep := fun position memory =>
  if text.size - position < unit.least then (false, memory)
  else
    let counted := match greed with
      | .lazy => countWhile text unit.test position unit.least
      | _ => countWhile text unit.test position (unit.limit text position)
    let memory := unit.afterCount memory position counted
    if counted < unit.least then (false, memory)
    else
      match greed with
      | .greedy =>
        tryDownward text unit.least whole next memory position (counted - unit.least) memory
      | .lazy =>
        tryUpward text unit whole next.step memory position (text.size - position + 2) counted memory
      | .possessive => next.step (position + counted) memory

/-- Repeats `body`, which has matched `count` times; `last` is where the latest iteration beyond the
least count began, and `whole` says whether a repetition goes on around this one. The fuel is at
least the number of iterations that are left. -/
def tryRepeated (body : PatternStep → PatternStep) (least : Nat) (most : Option Nat)
    (isLazy whole : Bool) (next : PatternStep) : Nat → Nat → Option Nat → PatternStep
  | 0, _, _, position, memory => next position memory
  | fuel + 1, count, last, position, memory =>
    let again := fun last memory =>
      match body (tryRepeated body least most isLazy whole next fuel (count + 1) last) position
          memory with
      | (true, memory) => (true, memory)
      | (false, memory) => (false, memory.leftAt position)
    let origin := memory.leftAt position
    if count < least then again last origin
    else
      let mayGoOn := most.all (count < ·) && last != some position
      if isLazy then
        match next position origin with
        | (true, memory) => (true, memory)
        | (false, memory) =>
          let memory := (memory.rewind whole origin).leftAt position
          if mayGoOn then again (some position) memory else (false, memory)
      else
        match if mayGoOn then again (some position) origin else (false, origin) with
        | (true, memory) => (true, memory)
        | (false, memory) =>
          match next position (memory.rewind true origin) with
          | (true, memory) => (true, memory)
          | (false, memory) => (false, memory.leftAt position)

/-- Repeats `body` as often as possible, each time in the first way in which it matches; where it
leaves off at last is remembered, also if it fails there. -/
def repeatPossessive (body : PatternStep) (least : Nat) (most : Option Nat) :
    Nat → Nat → Option Nat → MatchMemory → Bool × MatchMemory
  | 0, _, _, memory => (true, memory)
  | fuel + 1, count, last, memory =>
    if count < least then
      match body memory.pointer memory with
      | (true, memory) => repeatPossessive body least most fuel (count + 1) last memory
      | (false, memory) => (false, memory)
    else if most.all (count < ·) && last != some memory.pointer then
      match body memory.pointer memory with
      | (true, reached) =>
        repeatPossessive body least most fuel (count + 1) (some memory.pointer) reached
      | (false, reached) => (true, reached.rewind true memory)
    else (true, memory)

/-- Tries the ways in which a pattern matches from a position; each position reached is given to
`next`. `whole` says whether a repetition of more than characters goes on around the pattern: then
what groups have kept is restored after a failure. -/
def tryAt (text : PatternText) : Pattern → Bool → PatternNext → PatternStep
  | .empty, _, next, position, memory => next.step position memory
  | .never, _, _, _, memory => (false, memory)
  | .oneOf set mode, _, next, position, memory =>
    match text[position]? with
    | some c => if set.contains mode c then next.step (position + 1) memory else (false, memory)
    | none => (false, memory)
  | .anyCharacter dotAll, _, next, position, memory =>
    match text[position]? with
    | some c => if dotAll || c != '\n' then next.step (position + 1) memory else (false, memory)
    | none => (false, memory)
  | .anchor a, _, next, position, memory =>
    if a.holdsAt text position then next.step position memory else (false, memory)
  | .sequence first second, whole, next, position, memory =>
    first.tryAt text whole ⟨second.leadBefore next.lead, second.tryAt text whole next⟩ position
      memory
  | .choice first others, whole, next, position, memory =>
    if (first.leadBefore .unknown).refuses text[position]? then
      others.tryAt text whole next position memory
    else
      match first.tryAt text whole ⟨.unknown, next.step⟩ position (memory.leftAt position) with
      | (true, memory) => (true, memory)
      | (false, reached) => others.tryAt text whole next position (reached.rewind whole memory)
  | .group index body, whole, next, position, memory =>
    body.tryAt text whole
      ⟨.unknown, fun reached memory => next.step reached (memory.setMark (2 * index - 1) reached)⟩
      position (memory.setMark (2 * index - 2) position)
  | .scoped body, whole, next, position, memory => body.tryAt text whole next position memory
  | .reference index _ mode, _, next, position, memory =>
    match (memory.span? index).bind fun (first, last) =>
        skipText? text mode first last position with
    | some reached => next.step reached memory
    | none => (false, memory)
  | .repeated least most greed body, whole, next, position, memory =>
    match body.unitTest? with
    | some test =>
      tryUnits text whole ⟨test, body.isTakenSingly, least, most⟩ greed next position memory
    | none =>
      let fuel := least + 2 * text.size + 4
      match greed with
      | .possessive =>
        match repeatPossessive (body.tryAt text whole ⟨.unknown, .finish⟩) least most fuel 0 none
            (memory.leftAt position) with
        | (true, memory) => next.step memory.pointer memory
        | (false, memory) => (false, memory.leftAt position)
      | _ =>
        tryRepeated (fun step => body.tryAt text true ⟨.unknown, step⟩) least most
          (greed == .lazy) whole next.step fuel 0 none position memory
  | .lookAhead negated body, whole, next, position, memory =>
    match body.tryAt text whole ⟨.unknown, .finish⟩ position (memory.leftAt position) with
    | (true, reached) => if negated then (false, reached) else next.step position reached
    | (false, reached) =>
      if negated then next.step position (reached.rewind whole memory) else (false, reached)
  | .lookBehind negated body, whole, next, position, memory =>
    if position < body.width.least then
      if negated then next.step position memory else (false, memory)
    else
      let origin := position - body.width.least
      match body.tryAt text whole ⟨.unknown, .finish⟩ origin (memory.leftAt origin) with
      | (true, reached) => if negated then (false, reached) else next.step position reached
      | (false, reached) =>
        if negated then next.step position (reached.rewind whole memory) else (false, reached)
  | .atomic body, whole, next, position, memory =>
    match body.tryAt text whole ⟨.unknown, .finish⟩ position (memory.leftAt position) with
    | (true, memory) => next.step memory.pointer memory
    | (false, memory) => (false, memory.leftAt position)
  | .conditional index present absent, whole, next, position, memory =>
    if (memory.span? index).isSome then
      let lead := match absent with
        | .empty => next.lead
        | _ => .unknown
      present.tryAt text whole ⟨lead, next.step⟩ position memory
    else absent.tryAt text whole next position memory

end Pattern

/-- What the search for a pattern in a text comes to. -/
inductive PatternSearch where
  /-- The pattern matches some part of the text. -/
  | found
  /-- The pattern matches no part of the text. -/
  | absent
  /-- The pattern matches, but a group ends before it starts. -/
  | crossed
  deriving DecidableEq

namespace Pattern

/-- Whether a pattern that is preceded by nothing starts with a character that is known, groups being
looked into. -/
def startsExactly (follow : Bool) : Pattern → Bool
  | .empty => follow
  | .group _ body | .scoped body => body.startsExactly follow
  | .sequence first second => first.startsExactly (second.startsExactly follow)
  | .oneOf set mode =>
    match set.parts with
    | [.single _] => !set.negated && !set.isCased mode
    | _ => false
  | _ => false

/-- Whether all choices start with a character that is known. -/
def areExactChoices : Pattern → Bool
  | .never => true
  | .choice first others =>
    (match first.leadBefore .unknown with
      | .exact _ => true
      | _ => false) && others.areExactChoices
  | _ => false

/-- Whether a pattern starts with a set that is known, groups being looked into. -/
def startsInSet : Pattern → Bool
  | .group _ body | .scoped body | .sequence body _ => body.startsInSet
  | .oneOf set mode =>
    match set.parts with
    | [.single _] => false
    | _ => !set.isCased mode
  | .choice first others => (Pattern.choice first others).areExactChoices
  | _ => false

/-- The last position from which a pattern is tried in a text of a given size: unless it is known how
matches start, the least width must be left. -/
def lastStart (pattern : Pattern) (size : Nat) : Nat :=
  if pattern.startsExactly false || pattern.startsInSet then size
  else size - (pattern.width.least - 1)

/-- Searches for a match from some position on, of which so many are left. -/
def searchFrom (pattern : Pattern) (text : PatternText) (position : Nat) : Nat → PatternSearch
  | 0 => .absent
  | left + 1 =>
    match pattern.tryAt text false ⟨.unknown, .finish⟩ position (.start position) with
    | (true, memory) => if memory.hasCrossedMarks then .crossed else .found
    | (false, _) => searchFrom pattern text (position + 1) left

/-- Searches for a match in a text. -/
def searchIn (pattern : Pattern) (text : String) : PatternSearch :=
  let characters := text.toList.toArray
  if characters.size < pattern.width.least then .absent
  else pattern.searchFrom characters 0 (pattern.lastStart characters.size + 1)

/-- The empty pattern is found in every text. -/
theorem searchIn_empty (text : String) : Pattern.empty.searchIn text = .found := by
  simp [searchIn, width, PatternWidth.zero, searchFrom, tryAt, PatternStep.finish,
    MatchMemory.start, MatchMemory.leftAt, MatchMemory.hasCrossedMarks,
    MatchMemory.hasCrossedPair]

end Pattern

end Intake
