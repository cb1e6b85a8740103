import Intake.Condition.Reader
import Intake.Proofs.Text.Parts

/-!
# The grammar of conditions

The phrases that a sequence of lexemes can make up, each with the condition it stands for. A
disjunction is made of conjunctions, a conjunction of negations, a negation of comparisons, and a
comparison of at most two operands. A chain of one connective stands for one node with all of its
items in order; parentheses stand for what they enclose. What the characters of a text make up is
covered as far as the grammar needs it: the tokens of a text end with the end, which stands nowhere
else, and their names are identifiers with dots between them. Splitting such a name at its dots gives
the identifiers back. What lexemes a text says does not depend on where it stands. Positions and what
lies between tokens are not covered here.
-/

namespace Intake

/-- The phrases of the grammar. -/
inductive Phrase where
  /-- Conjunctions with the sign of a disjunction between them: a whole condition. -/
  | disjunction
  /-- Negations with the sign of a conjunction between them. -/
  | conjunction
  /-- Signs of negation before a comparison. -/
  | negation
  /-- An operand, or two with a comparison between them. -/
  | comparison
  /-- A literal, a reference, or a condition in parentheses. -/
  | operand
  deriving DecidableEq

/-- An identifier: a letter or underscore, then letters, digits and underscores. -/
def IsIdentifier (cs : List Char) : Prop :=
  ∃ c rest, cs = c :: rest ∧ Token.startsName c = true ∧ ∀ d ∈ rest, Token.continuesName d = true

/-- Texts with dots between them. -/
def dotted (parts : List (List Char)) : List Char := ['.'].intercalate parts

/-- Identifiers with dots between them. -/
def IsDottedName (text : List Char) : Prop :=
  ∃ parts, parts ≠ [] ∧ (∀ part ∈ parts, IsIdentifier part) ∧ text = dotted parts

/-- What a name stands for that is a word of its own. -/
inductive IsWord : String → Value → Prop where
  /-- The word for the truth. -/
  | true : IsWord "true" (.bool Bool.true)
  /-- The word for its opposite. -/
  | false : IsWord "false" (.bool Bool.false)
  /-- The word for what is not there. -/
  | null : IsWord "null" .null

/-- Lexemes that make up a phrase, with the condition that the phrase stands for. -/
inductive Derives : Phrase → List Lexeme → Condition → Prop where
  /-- One conjunction is a disjunction. -/
  | oneConjunction {ts c} (h : Derives .conjunction ts c) : Derives .disjunction ts c
  /-- Several conjunctions make one node. -/
  | conjunctions (parts : List (List Lexeme × Condition)) (several : 2 ≤ parts.length)
      (h : ∀ part ∈ parts, Derives .conjunction part.1 part.2) :
      Derives .disjunction ([Lexeme.either].intercalate (parts.map (·.1)))
        (.disjunction (parts.map (·.2)))
  /-- One negation is a conjunction. -/
  | oneNegation {ts c} (h : Derives .negation ts c) : Derives .conjunction ts c
  /-- Several negations make one node. -/
  | negations (parts : List (List Lexeme × Condition)) (several : 2 ≤ parts.length)
      (h : ∀ part ∈ parts, Derives .negation part.1 part.2) :
      Derives .conjunction ([Lexeme.both].intercalate (parts.map (·.1)))
        (.conjunction (parts.map (·.2)))
  /-- A negation is negated. -/
  | negated {ts c} (h : Derives .negation ts c) :
      Derives .negation (.negated :: ts) (.negation c)
  /-- A comparison is a negation without a sign. -/
  | notNegated {ts c} (h : Derives .comparison ts c) : Derives .negation ts c
  /-- One operand is a comparison. -/
  | oneOperand {ts c} (h : Derives .operand ts c) : Derives .comparison ts c
  /-- Two operands are compared, and no more. -/
  | compared {ts us a b} (how : Comparison) (left : Derives .operand ts a)
      (right : Derives .operand us b) :
      Derives .comparison (ts ++ .comparison how :: us) (.comparison how a b)
  /-- A number stands for its value. -/
  | number {text v} (h : numberLiteral text = .ok v) : Derives .operand [.number text] (.literal v)
  /-- A quoted text stands for the text that it denotes. -/
  | quoted (text : List Char) :
      Derives .operand [.quoted text] (.literal (.text (quotedLiteral text)))
  /-- A word stands for its value. -/
  | word {name v} (h : IsWord name v) : Derives .operand [.name name.toList] (.literal v)
  /-- A root and at least one key with dots between them are a reference. -/
  | reference {root keys} (atRoot : root ∈ ["input", "config"]) (deeper : keys ≠ [])
      (h : ∀ key ∈ keys, IsIdentifier key.toList) :
      Derives .operand [.name (dotted ((root :: keys).map String.toList))]
        (.reference (root :: keys))
  /-- A condition in parentheses is an operand. -/
  | parenthesized {ts c} (h : Derives .disjunction ts c) :
      Derives .operand (.opening :: ts ++ [.closing]) c

/-- The lexemes of tokens. -/
def lexemes (tokens : List Token) : List Lexeme := tokens.map (·.lexeme)

/-- The lexemes of tokens before the end. -/
def sentence (tokens : List Token) : List Lexeme := (lexemes tokens).dropLast

@[simp]
theorem lexemes_append (tokens more : List Token) :
    lexemes (tokens ++ more) = lexemes tokens ++ lexemes more := List.map_append

@[simp]
theorem lexemes_cons (token : Token) (tokens : List Token) :
    lexemes (token :: tokens) = token.lexeme :: lexemes tokens := rfl

@[simp]
theorem lexemes_nil : lexemes [] = [] := rfl

/-- What is in texts or in the separator is all there is in the texts with separators. -/
theorem mem_intercalate {α : Type} {a : α} {link : List α} {parts : List (List α)}
    (h : a ∈ link.intercalate parts) : a ∈ link ∨ ∃ part ∈ parts, a ∈ part := by
  induction parts with
  | nil => simp [List.intercalate] at h
  | cons first others ih =>
    by_cases hn : others = []
    · subst hn
      exact .inr ⟨first, by simp, by simpa [List.intercalate] using h⟩
    · rw [List.intercalate_cons_of_ne_nil hn, List.mem_append, List.mem_append] at h
      rcases h with (h | h) | h
      · exact .inr ⟨first, by simp, h⟩
      · exact .inl h
      · rcases ih h with hl | ⟨part, hp, ha⟩
        · exact .inl hl
        · exact .inr ⟨part, by simp [hp], ha⟩

/-- The end of a condition is part of no phrase. -/
theorem finish_notMem_of_derives {phrase : Phrase} {ts : List Lexeme} {c : Condition}
    (h : Derives phrase ts c) : Lexeme.finish ∉ ts := by
  induction h with
  | oneConjunction _ ih => exact ih
  | oneNegation _ ih => exact ih
  | notNegated _ ih => exact ih
  | oneOperand _ ih => exact ih
  | conjunctions parts _ _ ih =>
    intro hm
    rcases mem_intercalate hm with hl | ⟨ts, ht, hf⟩
    · simp at hl
    · obtain ⟨part, hp, rfl⟩ := List.mem_map.mp ht
      exact ih part hp hf
  | negations parts _ _ ih =>
    intro hm
    rcases mem_intercalate hm with hl | ⟨ts, ht, hf⟩
    · simp at hl
    · obtain ⟨part, hp, rfl⟩ := List.mem_map.mp ht
      exact ih part hp hf
  | negated _ ih => simp [ih]
  | compared how _ _ ihl ihr => simp [ihl, ihr]
  | number _ => simp
  | quoted _ => simp
  | word _ => simp
  | reference _ _ _ => simp
  | parenthesized _ ih => simp [ih]

/-- A phrase has a first lexeme. -/
theorem ne_nil_of_derives {phrase : Phrase} {ts : List Lexeme} {c : Condition}
    (h : Derives phrase ts c) : ts ≠ [] := by
  have several {link : Lexeme} {parts : List (List Lexeme × Condition)}
      (h : 2 ≤ parts.length) : [link].intercalate (parts.map (·.1)) ≠ [] := by
    match parts, h with
    | a :: b :: rest, _ => simp [List.intercalate]
  induction h with
  | oneConjunction _ ih => exact ih
  | oneNegation _ ih => exact ih
  | notNegated _ ih => exact ih
  | oneOperand _ ih => exact ih
  | conjunctions parts hs _ _ => exact several hs
  | negations parts hs _ _ => exact several hs
  | negated _ _ => simp
  | compared how _ _ _ _ => simp
  | number _ => simp
  | quoted _ => simp
  | word _ => simp
  | reference _ _ _ => simp
  | parenthesized _ _ => simp

/-- No identifier holds a dot. -/
theorem IsIdentifier.dot_notMem {cs : List Char} (h : IsIdentifier cs) : '.' ∉ cs := by
  obtain ⟨c, rest, rfl, hc, hr⟩ := h
  intro hm
  rcases List.mem_cons.mp hm with hd | hd
  · rw [← hd] at hc
    exact absurd hc (by decide)
  · exact absurd (hr '.' hd) (by decide)

/-- The parts of a dotted name between its dots are the identifiers it is made of. -/
theorem splitParts_dotted {parts : List (List Char)} (hn : parts ≠ [])
    (h : ∀ part ∈ parts, IsIdentifier part) : splitParts '.' (dotted parts) = parts :=
  splitParts_intercalate hn fun part hp => (h part hp).dot_notMem

/-- A dotted name is its first part, and the others with a dot before each. -/
theorem dotted_cons (first : List Char) (others : List (List Char)) :
    dotted (first :: others) = first ++ others.flatMap ('.' :: ·) := by
  induction others generalizing first with
  | nil => simp [dotted]
  | cons other more ih =>
    have hm := ih other
    simp only [dotted] at hm ⊢
    rw [List.intercalate_cons_cons, hm]
    simp

namespace Token

/-- What a name goes on with after a part was begun: the rest of the part, then further parts with a
dot before each. -/
def IsNameRest (cs : List Char) : Prop :=
  ∃ (tail : List Char) (parts : List (List Char)),
    (∀ d ∈ tail, continuesName d = true) ∧ (∀ part ∈ parts, IsIdentifier part) ∧
      cs = tail ++ parts.flatMap ('.' :: ·)

/-- A part goes on with one more character. -/
theorem IsNameRest.cons {c : Char} {cs : List Char} (hc : continuesName c = true)
    (h : IsNameRest cs) : IsNameRest (c :: cs) := by
  obtain ⟨tail, parts, ht, hp, rfl⟩ := h
  refine ⟨c :: tail, parts, ?_, hp, rfl⟩
  intro d hd
  rcases List.mem_cons.mp hd with rfl | hd
  · exact hc
  · exact ht d hd

/-- A new part follows a dot. -/
theorem IsNameRest.dot {c : Char} {cs : List Char} (hc : startsName c = true)
    (h : IsNameRest cs) : IsNameRest ('.' :: c :: cs) := by
  obtain ⟨tail, parts, ht, hp, rfl⟩ := h
  refine ⟨[], (c :: tail) :: parts, by simp, ?_, by simp⟩
  intro part hm
  rcases List.mem_cons.mp hm with rfl | hm
  · exact ⟨c, tail, rfl, hc, ht⟩
  · exact hp part hm

/-- The characters that are counted for a name belong to one: with a part begun before, or to begin
one with the first of them. -/
theorem nameRest_of_nameCount (fresh : Bool) (cs : List Char) :
    (fresh = false → IsNameRest (cs.take (nameCount fresh cs))) ∧
      (fresh = true → nameCount fresh cs ≠ 0 →
        ∃ c rest, cs.take (nameCount fresh cs) = c :: rest ∧ startsName c = true ∧
          IsNameRest rest) := by
  induction cs generalizing fresh with
  | nil => exact ⟨fun _ => ⟨[], [], by simp, by simp, by simp [nameCount]⟩, by simp [nameCount]⟩
  | cons c rest ih =>
    have none : IsNameRest ((c :: rest).take 0) := ⟨[], [], by simp, by simp, by simp⟩
    rw [nameCount.eq_def]
    split
    · exact ⟨fun _ => by simpa using none, by simp⟩
    · rename_i tail he
      obtain ⟨rfl, rfl⟩ := List.cons.inj he
      cases rest with
      | nil => exact ⟨fun _ => none, by simp⟩
      | cons d more =>
        dsimp only
        split
        · rename_i hd
          rw [Bool.and_eq_true, Bool.not_eq_true'] at hd
          refine ⟨fun _ => ?_, fun hf => by simp [hf] at hd⟩
          have hnext : nameCount true (d :: more) ≠ 0 := by
            rw [nameCount.eq_def]
            split
            · rename_i hnil
              cases hnil
            · rename_i hdot
              rw [(List.cons.inj hdot).1] at hd
              exact absurd hd.2 (by decide)
            · rename_i hcons
              obtain ⟨rfl, rfl⟩ := List.cons.inj hcons
              rw [if_pos (by simpa using hd.2)]
              omega
          obtain ⟨e, more', ht, hs, hr⟩ := (ih true).2 rfl hnext
          rw [Nat.add_comm, List.take_succ_cons, ht]
          exact hr.dot hs
        · exact ⟨fun _ => none, by simp⟩
    · rename_i c' rest' _ he
      obtain ⟨rfl, rfl⟩ := List.cons.inj he
      by_cases hc : (if fresh = true then startsName c else continuesName c) = true
      · have hr := (ih false).1 rfl
        rw [if_pos hc, Nat.add_comm, List.take_succ_cons]
        constructor
        · intro hf
          rw [hf] at hc
          exact hr.cons (by simpa using hc)
        · intro hf _
          rw [hf] at hc
          exact ⟨c, _, rfl, by simpa using hc, hr⟩
      · rw [if_neg hc]
        exact ⟨fun _ => none, by simp⟩

/-- A name that starts a text is identifiers with dots between them. -/
theorem isDottedName_take_nameCount {cs : List Char} (h : nameCount true cs ≠ 0) :
    IsDottedName (cs.take (nameCount true cs)) := by
  obtain ⟨c, rest, he, hc, tail, parts, ht, hp, hr⟩ := (nameRest_of_nameCount true cs).2 rfl h
  refine ⟨(c :: tail) :: parts, by simp, ?_, by rw [he, hr, dotted_cons]; rfl⟩
  intro part hm
  rcases List.mem_cons.mp hm with rfl | hm
  · exact ⟨c, tail, rfl, hc, ht⟩
  · exact hp part hm

/-- A lexeme that a text can start with: not the end, and as a name a dotted one. -/
def IsInner (lexeme : Lexeme) : Prop :=
  lexeme ≠ .finish ∧ ∀ text, lexeme = .name text → IsDottedName text

/-- All signs are lexemes that a text can start with. -/
theorem isInner_of_sign? {cs : List Char} {lexeme : Lexeme} {n : Nat}
    (h : sign? cs = some (lexeme, n)) : IsInner lexeme := by
  obtain ⟨⟨start, sign⟩, hm, hs⟩ := List.exists_of_findSome?_eq_some h
  have he : sign = lexeme := by
    obtain ⟨_, _, hp⟩ := Option.map_eq_some_iff.mp hs
    exact congrArg Prod.fst hp
  subst he
  have hall : ∀ entry ∈ signs, entry.2.kind ≠ "end" ∧ entry.2.kind ≠ "name" := by decide
  have hk := hall _ hm
  constructor
  · intro hf
    exact hk.1 (by rw [hf]; rfl)
  · intro text hn
    exact absurd (by rw [hn]; rfl) hk.2

/-- What the first token of a text says is never the end, and its names are dotted ones. -/
theorem isInner_of_first? {c : Char} {rest : List Char} {lexeme : Lexeme} {more : Nat}
    (h : first? c rest = some (lexeme, more)) : IsInner lexeme := by
  unfold first? at h
  dsimp only at h
  split at h
  · obtain ⟨rfl, _⟩ := Prod.mk.inj (Option.some.inj h)
    exact ⟨by simp, by simp⟩
  · split at h
    · obtain ⟨_, _, hp⟩ := Option.map_eq_some_iff.mp h
      obtain ⟨rfl, _⟩ := Prod.mk.inj hp
      exact ⟨by simp, by simp⟩
    · split at h
      · rename_i hs
        obtain ⟨rfl, _⟩ := Prod.mk.inj (Option.some.inj h)
        exact isInner_of_sign? hs
      · split at h
        · rename_i hn
          obtain ⟨rfl, _⟩ := Prod.mk.inj (Option.some.inj h)
          have hd := isDottedName_take_nameCount hn
          unfold ofName
          split
          · exact ⟨by simp, by simp⟩
          · split
            · exact ⟨by simp, by simp⟩
            · split
              · exact ⟨by simp, by simp⟩
              · refine ⟨by simp, ?_⟩
                intro text ht
                cases ht
                exact hd
        · cases h

/-- The tokens of a text end with the end; what comes before are lexemes that a text can start
with. -/
theorem exists_of_scanFrom {position : Nat} {cs : List Char} {tokens : List Token}
    (h : scanFrom position cs = .ok tokens) :
    ∃ body last, tokens = body ++ [last] ∧ last.lexeme = .finish ∧
      ∀ lexeme ∈ lexemes body, IsInner lexeme := by
  induction hn : cs.length using Nat.strongRecOn generalizing position cs tokens with
  | ind n ih =>
    rw [scanFrom.eq_def] at h
    split at h
    · obtain rfl := Except.ok.inj h
      exact ⟨[], ⟨.finish, position⟩, rfl, rfl, by simp⟩
    · rename_i c rest
      split at h
      · exact ih rest.length (by simp [← hn]) h rfl
      · split at h
        · cases h
        · rename_i lexeme more hf
          cases hr : scanFrom (position + 1 + more) (rest.drop more) with
          | error stray => rw [hr] at h; cases h
          | ok others =>
            rw [hr] at h
            obtain rfl := Except.ok.inj h
            have hlt : (rest.drop more).length < n := by
              rw [← hn, List.length_drop, List.length_cons]
              omega
            obtain ⟨body, last, rfl, hl, hb⟩ := ih _ hlt hr rfl
            refine ⟨⟨lexeme, position⟩ :: body, last, rfl, hl, ?_⟩
            intro inner hm
            rcases List.mem_cons.mp hm with rfl | hm
            · exact isInner_of_first? hf
            · exact hb inner hm

/-- Characters say lexemes: blanks say nothing, and first tokens one lexeme each. -/
inductive Says : List Char → List Lexeme → Prop where
  /-- No characters say nothing. -/
  | nothing : Says [] []
  /-- A blank says nothing. -/
  | blank {c : Char} {rest : List Char} {ts : List Lexeme} (hblank : isBlank c = true)
    (h : Says rest ts) : Says (c :: rest) ts
  /-- A first token says its lexeme. -/
  | first {c : Char} {rest : List Char} {ts : List Lexeme} {lexeme : Lexeme} {n : Nat}
    (hblank : isBlank c = false) (hfirst : first? c rest = some (lexeme, n))
    (h : Says (rest.drop n) ts) : Says (c :: rest) (lexeme :: ts)

/-- The lexemes of tokens that are found are said. -/
theorem says_of_scanFrom {position : Nat} {cs : List Char} {body : List Token} {last : Token}
    (h : scanFrom position cs = .ok (body ++ [last])) : Says cs (lexemes body) := by
  fun_induction scanFrom position cs generalizing body with
  | case1 position =>
    cases body with
    | nil => exact .nothing
    | cons token others => simp at h
  | case2 position c rest hblank ih => exact .blank hblank (ih h)
  | case3 => cases h
  | case4 position c rest hblank lexeme n hfirst ih =>
    cases hothers : scanFrom (position + 1 + n) (rest.drop n) with
    | error stray => rw [hothers] at h; cases h
    | ok others =>
      obtain ⟨behind, last', rfl, -, -⟩ := exists_of_scanFrom hothers
      rw [hothers] at h
      have heq : (⟨lexeme, position⟩ :: behind) ++ [last'] = body ++ [last] := Except.ok.inj h
      obtain ⟨rfl, hlast⟩ := List.append_inj' heq rfl
      obtain rfl := List.singleton_inj.mp hlast
      exact .first (by simpa using hblank) hfirst (ih hothers)

/-- Lexemes that are said are found, wherever the text stands. -/
theorem Says.exists_scanFrom {cs : List Char} {ts : List Lexeme} (h : Says cs ts)
    (position : Nat) :
    ∃ body last, scanFrom position cs = .ok (body ++ [last]) ∧ lexemes body = ts := by
  induction h generalizing position with
  | nothing => exact ⟨[], ⟨.finish, position⟩, by rw [scanFrom]; rfl, rfl⟩
  | blank hblank _ ih =>
    rw [scanFrom, if_pos hblank]
    exact ih (position + 1)
  | @first c rest ts lexeme n hblank hfirst _ ih =>
    obtain ⟨body, last, hscan, rfl⟩ := ih (position + 1 + n)
    refine ⟨⟨lexeme, position⟩ :: body, last, ?_, rfl⟩
    rw [scanFrom, if_neg (by simp [hblank]), hfirst]
    dsimp only
    rw [hscan]
    rfl

end Token

end Intake
