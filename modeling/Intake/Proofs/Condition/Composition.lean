import Intake.Proofs.Condition.Language
import Intake.Proofs.Condition.Evaluation
import Intake.Proofs.Condition.Spelling

/-!
# Conditions inside conditions

Conditions in parentheses can be put together: what is read of each is a part of what is read of the
whole, and the whole is evaluated from its parts. No token runs over a closing parenthesis, so that the
tokens of a condition stay what they are inside parentheses, whatever it ends with. Main statement: a
condition in parentheses, its negation, and the conjunction and disjunction of two read as one expects.
Conditions without parentheses are not covered.
-/

namespace Intake

theorem IsDigits.closing_notMem {cs : List Char} (h : IsDigits cs) : ')' ∉ cs :=
  fun hm => absurd (h.2 ')' hm) (by decide)

theorem IsUnsigned.closing_notMem {cs : List Char} (h : IsUnsigned cs) : ')' ∉ cs := by
  obtain ⟨whole, fraction, exponent, hwhole, hfraction, hexponent, rfl⟩ := h
  have hf : ')' ∉ fraction := by
    rcases hfraction with rfl | ⟨digits, hdigits, rfl⟩
    · exact List.not_mem_nil
    · simpa using hdigits.closing_notMem
  have he : ')' ∉ exponent := by
    rcases hexponent with rfl | ⟨e, sign, digits, he, hsign, hdigits, rfl⟩
    · exact List.not_mem_nil
    · rcases he with rfl | rfl <;> rcases hsign with rfl | rfl | rfl <;>
        simpa using hdigits.closing_notMem
  rw [List.mem_append, List.mem_append, not_or, not_or]
  exact ⟨hwhole.closing_notMem, hf, he⟩

/-- No number holds a parenthesis. -/
theorem IsNumeral.closing_notMem {cs : List Char} (h : IsNumeral cs) : ')' ∉ cs := by
  rcases h with h | ⟨rest, h, rfl⟩
  · exact h.closing_notMem
  · simpa using h.closing_notMem

/-- No name holds a parenthesis. -/
theorem IsDottedName.closing_notMem {cs : List Char} (h : IsDottedName cs) : ')' ∉ cs := by
  obtain ⟨parts, -, hparts, rfl⟩ := h
  intro hm
  rcases mem_intercalate hm with hdot | ⟨part, hpart, hm⟩
  · exact absurd hdot (by decide)
  · obtain ⟨c, rest, rfl, hc, hrest⟩ := hparts part hpart
    rcases List.mem_cons.mp hm with rfl | hm
    · exact absurd hc (by decide)
    · exact absurd (hrest ')' hm) (by decide)

/-- What starts a text and does not hold a character starts it before that character. -/
theorem prefix_of_notMem {d : Char} {spelling cs more : List Char} (hd : d ∉ spelling)
    (h : spelling <+: cs ++ d :: more) : spelling <+: cs := by
  induction cs generalizing spelling with
  | nil =>
    cases spelling with
    | nil => exact List.prefix_rfl
    | cons c rest =>
      rw [(List.cons_prefix_cons.mp h).1] at hd
      exact absurd List.mem_cons_self hd
  | cons c cs ih =>
    cases spelling with
    | nil => exact List.nil_prefix
    | cons e rest =>
      obtain ⟨rfl, hrest⟩ := List.cons_prefix_cons.mp h
      exact List.cons_prefix_cons.mpr ⟨rfl, ih (List.not_mem_of_not_mem_cons hd) hrest⟩

namespace Token

variable {c : Char} {rest : List Char} {lexeme : Lexeme} {n : Nat}

/-- Where a text has a first token, nothing that spells a lexeme runs over a closing parenthesis
behind it. -/
theorem prefix_of_spells (hfirst : first? c rest = some (lexeme, n)) {spelling more : List Char}
    {other : Lexeme} (h : Spells spelling other) (hp : spelling <+: c :: rest ++ ')' :: more) :
    spelling <+: c :: rest := by
  rcases spells_cases h with hnumeral | ⟨quote, inside, hquote, hinside, rfl⟩ | hname | hsign
  · exact prefix_of_notMem hnumeral.closing_notMem hp
  · -- The first token is the text in these quotes, and what follows it makes no difference to it.
    obtain ⟨rfl, others, hothers⟩ := List.cons_prefix_cons.mp hp
    rw [first?_of_quote hquote] at hfirst
    obtain ⟨k, hk, -⟩ := Option.map_eq_some_iff.mp hfirst
    obtain ⟨closed, behind, rfl, hclosed, -⟩ := exists_quotedRest hk
    have hslash : quote ≠ '\\' := by
      rcases hquote with rfl | rfl <;> decide
    have hcount := quotedCount?_append hslash hinside others
    have hbehind : inside ++ others = closed ++ (behind ++ ')' :: more) := by
      simpa using hothers
    rw [hbehind, quotedCount?_append hslash hclosed] at hcount
    have hlength := Option.some.inj hcount
    exact List.prefix_of_prefix_length_le hp (List.prefix_append _ _) (by simp [← hlength])
  · exact prefix_of_notMem hname.closing_notMem hp
  · have hall : ∀ entry ∈ signs, ')' ∉ entry.1 ∨ entry.1 = [')'] := by decide
    rcases hall _ hsign with hclosing | rfl
    · exact prefix_of_notMem hclosing hp
    · rw [List.cons_append, List.cons_prefix_cons] at hp
      exact List.cons_prefix_cons.mpr ⟨hp.1, List.nil_prefix⟩

/-- A closing parenthesis behind a text leaves its first token as it is. -/
theorem first?_append_closing (h : first? c rest = some (lexeme, n)) (more : List Char) :
    first? c (rest ++ ')' :: more) = some (lexeme, n) := by
  obtain ⟨spelling, others, heq, hlength, hspells⟩ := spells_of_first? h
  have hlonger : c :: (rest ++ ')' :: more) = spelling ++ (others ++ ')' :: more) := by
    rw [← List.cons_append, heq, List.append_assoc]
  obtain ⟨found, k, hfound, hle⟩ := exists_first?_of_spells hspells hlonger
  obtain ⟨other, behind, hother, hlength', hspells'⟩ := spells_of_first? hfound
  have hprefix : other <+: c :: rest := prefix_of_spells h hspells' ⟨behind, hother.symm⟩
  obtain ⟨tail, htail⟩ := hprefix
  obtain ⟨_, _, hsame, hle'⟩ := exists_first?_of_spells hspells' htail.symm
  rw [h] at hsame
  obtain ⟨-, rfl⟩ := Prod.mk.inj (Option.some.inj hsame)
  obtain rfl : k = n := by omega
  have hspelling : other = spelling :=
    (List.append_inj (htail.trans heq) (hlength'.trans hlength.symm)).1
  subst hspelling
  rw [hfound, lexeme_eq_of_spells hspells' hspells]

/-- Behind a closing parenthesis everything is said as if nothing stood before it. -/
theorem Says.append_closing {cs more : List Char} {ts us : List Lexeme} (h : Says cs ts)
    (h' : Says more us) : Says (cs ++ ')' :: more) (ts ++ .closing :: us) := by
  induction h with
  | nothing => exact .first (by decide) rfl h'
  | blank hblank _ ih => exact .blank hblank ih
  | @first c rest ts lexeme n hblank hfirst _ ih =>
    rw [List.cons_append, List.cons_append]
    refine .first hblank (first?_append_closing hfirst more) ?_
    rwa [List.drop_append_of_le_length (le_length_of_first? hfirst)]

/-- A text in parentheses says what it says, in parentheses. -/
theorem Says.parenthesized {cs more : List Char} {ts us : List Lexeme} (h : Says cs ts)
    (h' : Says more us) :
    Says ('(' :: (cs ++ ')' :: more)) (.opening :: (ts ++ .closing :: us)) :=
  .first (by decide) rfl (h.append_closing h')

end Token

namespace Condition

open Token (Says)

/-- Conditions in parentheses can be negated and put together. -/
theorem derives_negation_of_parenthesized {ts : List Lexeme} {c : Condition}
    (h : Derives .disjunction ts c) : Derives .negation (.opening :: (ts ++ [.closing])) c :=
  .notNegated (.oneOperand (.parenthesized h))

variable {scope : Value}

/-- What comes of a condition in a scope is the opposite of what comes of its part. -/
structure Negates (scope : Value) (c part : Condition) : Prop where
  /-- It holds if the part does not. -/
  holds : c.evaluate scope = .ok (.bool true) ↔ part.holds scope = .ok false
  /-- It does not hold if the part does. -/
  refuted : c.evaluate scope = .ok (.bool false) ↔ part.holds scope = .ok true
  /-- It fails as the part fails. -/
  fails : ∀ u, c.evaluate scope = .error u ↔ part.holds scope = .error u

/-- What comes of a condition in a scope is what comes of two parts together, the second of which is
looked at only if the first decides nothing; `decides` is the answer of a part that decides. -/
structure Joins (decides : Bool) (scope : Value) (c first second : Condition) : Prop where
  /-- One part that decides is enough; a second one only if it is looked at. -/
  decided : c.evaluate scope = .ok (.bool decides) ↔
    first.holds scope = .ok decides ∨
      (first.holds scope = .ok (!decides) ∧ second.holds scope = .ok decides)
  /-- Both parts are looked at and decide nothing. -/
  undecided : c.evaluate scope = .ok (.bool !decides) ↔
    first.holds scope = .ok (!decides) ∧ second.holds scope = .ok (!decides)
  /-- It fails as the first part that is looked at and fails. -/
  fails : ∀ u, c.evaluate scope = .error u ↔
    first.holds scope = .error u ∨
      (first.holds scope = .ok (!decides) ∧ second.holds scope = .error u)

theorem negates_negation (scope : Value) (c : Condition) : Negates scope (.negation c) c := by
  have heval : (negation c).evaluate scope = (c.holds scope).map fun b => .bool !b := by
    rw [evaluate, holds]
    cases c.evaluate scope <;> rfl
  constructor <;> rw [heval] <;> rcases c.holds scope with u | (_ | _) <;> simp [Except.map]

/-- Two parts are joined where the second is looked at if the first does not decide. -/
theorem Joins.of_evaluate {decides : Bool} {c first second : Condition}
    (h : c.evaluate scope = (first.holds scope).bind fun b =>
      if b = decides then .ok (.bool decides) else (second.holds scope).map .bool) :
    Joins decides scope c first second := by
  constructor <;> rw [h] <;> cases decides <;> rcases first.holds scope with u | (_ | _) <;>
    rcases second.holds scope with u | (_ | _) <;> simp [Except.map, Except.bind]

theorem joins_conjunction (scope : Value) (a b : Condition) :
    Joins false scope (.conjunction [a, b]) a b := by
  refine .of_evaluate ?_
  rw [evaluate, allTruthy_cons, allTruthy_cons, allTruthy]
  rcases a.holds scope with u | (_ | _) <;> rcases b.holds scope with u | (_ | _) <;> rfl

theorem joins_disjunction (scope : Value) (a b : Condition) :
    Joins true scope (.disjunction [a, b]) a b := by
  refine .of_evaluate ?_
  rw [evaluate, anyTruthy_cons, anyTruthy_cons, anyTruthy]
  rcases a.holds scope with u | (_ | _) <;> rcases b.holds scope with u | (_ | _) <;> rfl

section

variable {text first second : String} {a b c : Condition}

/-- A condition in parentheses is the condition. -/
theorem read_parenthesized (h : read text = .ok c) : read ("(" ++ text ++ ")") = .ok c := by
  obtain ⟨ts, htext, hderives⟩ := (read_eq_ok_iff text c).mp h
  have hoperand := derives_negation_of_parenthesized hderives
  refine (read_eq_ok_iff _ c).mpr ⟨_, ?_, .oneConjunction (.oneNegation hoperand)⟩
  simpa using htext.parenthesized .nothing

/-- The word for negations negates a condition in parentheses. -/
theorem read_not (h : read text = .ok c) : read ("not (" ++ text ++ ")") = .ok (.negation c) := by
  obtain ⟨ts, htext, hderives⟩ := (read_eq_ok_iff text c).mp h
  have hoperand := derives_negation_of_parenthesized hderives
  refine (read_eq_ok_iff _ _).mpr ⟨_, ?_, .oneConjunction (.oneNegation (.negated hoperand))⟩
  have hword : Says ('n' :: 'o' :: 't' :: ' ' :: '(' :: (text.toList ++ [')']))
      (.negated :: .opening :: (ts ++ [.closing])) :=
    .first (by decide) rfl (.blank (by decide) (htext.parenthesized .nothing))
  simpa using hword

/-- The word for conjunctions joins two conditions in parentheses. -/
theorem read_and (ha : read first = .ok a) (hb : read second = .ok b) :
    read ("(" ++ first ++ ") and (" ++ second ++ ")") = .ok (.conjunction [a, b]) := by
  obtain ⟨ts, hfirst, hts⟩ := (read_eq_ok_iff first a).mp ha
  obtain ⟨us, hsecond, hus⟩ := (read_eq_ok_iff second b).mp hb
  refine (read_eq_ok_iff _ _).mpr ⟨_, ?_, .oneConjunction (.negations
    [(.opening :: (ts ++ [.closing]), a), (.opening :: (us ++ [.closing]), b)]
    (Nat.le_refl 2) ?_)⟩
  · have hlink : Says (' ' :: 'a' :: 'n' :: 'd' :: ' ' :: '(' :: (second.toList ++ [')']))
        (.both :: .opening :: (us ++ [.closing])) :=
      .blank (by decide) (.first (by decide) rfl
        (.blank (by decide) (hsecond.parenthesized .nothing)))
    simpa [List.intercalate] using hfirst.parenthesized hlink
  · simp [derives_negation_of_parenthesized hts, derives_negation_of_parenthesized hus]

/-- The word for disjunctions joins two conditions in parentheses. -/
theorem read_or (ha : read first = .ok a) (hb : read second = .ok b) :
    read ("(" ++ first ++ ") or (" ++ second ++ ")") = .ok (.disjunction [a, b]) := by
  obtain ⟨ts, hfirst, hts⟩ := (read_eq_ok_iff first a).mp ha
  obtain ⟨us, hsecond, hus⟩ := (read_eq_ok_iff second b).mp hb
  refine (read_eq_ok_iff _ _).mpr ⟨_, ?_, .conjunctions
    [(.opening :: (ts ++ [.closing]), a), (.opening :: (us ++ [.closing]), b)]
    (Nat.le_refl 2) ?_⟩
  · have hlink : Says (' ' :: 'o' :: 'r' :: ' ' :: '(' :: (second.toList ++ [')']))
        (.either :: .opening :: (us ++ [.closing])) :=
      .blank (by decide) (.first (by decide) rfl
        (.blank (by decide) (hsecond.parenthesized .nothing)))
    simpa [List.intercalate] using hfirst.parenthesized hlink
  · simp [Derives.oneNegation (derives_negation_of_parenthesized hts),
      Derives.oneNegation (derives_negation_of_parenthesized hus)]

end

/-- Conditions compose. Texts that are read as conditions can be put in parentheses, negated and joined,
whatever stands in them, and the results are read as the same conditions, negated and joined. In every
scope the composed conditions come to what the parts come to, from left to right as far as the answer
is open. -/
theorem read_compose {first second : String} {a b : Condition} (ha : read first = .ok a)
    (hb : read second = .ok b) :
    read ("(" ++ first ++ ")") = .ok a ∧
    (read ("not (" ++ first ++ ")") = .ok (.negation a) ∧
      ∀ scope, Negates scope (.negation a) a) ∧
    (read ("(" ++ first ++ ") and (" ++ second ++ ")") = .ok (.conjunction [a, b]) ∧
      ∀ scope, Joins false scope (.conjunction [a, b]) a b) ∧
    (read ("(" ++ first ++ ") or (" ++ second ++ ")") = .ok (.disjunction [a, b]) ∧
      ∀ scope, Joins true scope (.disjunction [a, b]) a b) := by
  refine ⟨read_parenthesized ha, ⟨read_not ha, ?_⟩, ⟨read_and ha hb, ?_⟩, read_or ha hb, ?_⟩
  · exact fun scope => negates_negation scope a
  · exact fun scope => joins_conjunction scope a b
  · exact fun scope => joins_disjunction scope a b

/-- A text in quotes may hold a closing parenthesis, at the end of a condition too. -/
theorem read_isNotParenthesis :
    read "config.b != ')'" =
      .ok (.comparison .unequal (.reference ["config", "b"]) (.literal (.text ")"))) := by
  have htext : Says "config.b != ')'".toList
      [.name "config.b".toList, .comparison .unequal, .quoted "')'".toList] :=
    .first (by decide) (n := 7) rfl (.blank (by decide) (.first (by decide) (n := 1) rfl
      (.blank (by decide) (.first (by decide) (n := 2) rfl .nothing))))
  have hreference : Derives .operand [.name "config.b".toList] (.reference ["config", "b"]) :=
    @Derives.reference "config" ["b"] (by decide) (by decide)
      (List.forall_mem_singleton.mpr ⟨'b', [], rfl, by decide, by simp⟩)
  exact (read_eq_ok_iff _ _).mpr ⟨_, htext,
    .oneConjunction (.oneNegation (.notNegated (.compared .unequal hreference (.quoted _))))⟩

/-- A condition is joined with its own negation. -/
theorem read_compose_isNotParenthesis :
    read "(config.b != ')') or (not (config.b != ')'))" =
      .ok (.disjunction
        [.comparison .unequal (.reference ["config", "b"]) (.literal (.text ")")),
          .negation
            (.comparison .unequal (.reference ["config", "b"]) (.literal (.text ")")))]) := by
  have hnegated := (read_compose read_isNotParenthesis read_isNotParenthesis).2.1.1
  have hjoined := (read_compose read_isNotParenthesis hnegated).2.2.2.1
  exact hjoined

end Condition

end Intake
