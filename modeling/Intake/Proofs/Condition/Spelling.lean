import Intake.Proofs.Condition.Grammar

/-!
# How lexemes are spelled

The lexical grammar of conditions: which characters spell a number, a quoted text, a name, a sign or a
word. Main statements: the first token of a text is spelled by the characters that it takes up, no
longer spelling starts there, and where there is no first token no spelling starts. So a spelling stands
for one lexeme. Blanks and positions are not covered here.
-/

namespace Intake

/-- Digits, at least one. -/
def IsDigits (cs : List Char) : Prop := cs ≠ [] ∧ ∀ c ∈ cs, isDecimalDigit c = true

/-- A point and digits, or nothing. -/
def IsFraction (cs : List Char) : Prop := cs = [] ∨ ∃ digits, IsDigits digits ∧ cs = '.' :: digits

/-- The letter of an exponent, a sign or none, and digits; or nothing. -/
def IsExponent (cs : List Char) : Prop :=
  cs = [] ∨ ∃ e sign digits, (e = 'e' ∨ e = 'E') ∧ (sign = [] ∨ sign = ['+'] ∨ sign = ['-']) ∧
    IsDigits digits ∧ cs = e :: (sign ++ digits)

/-- A number without a sign. -/
def IsUnsigned (cs : List Char) : Prop :=
  ∃ whole fraction exponent, IsDigits whole ∧ IsFraction fraction ∧ IsExponent exponent ∧
    cs = whole ++ (fraction ++ exponent)

theorem IsUnsigned.exists_digit {cs : List Char} (h : IsUnsigned cs) :
    ∃ digit rest, cs = digit :: rest ∧ isDecimalDigit digit = true := by
  obtain ⟨whole, fraction, exponent, ⟨hnil, hdigits⟩, -, -, rfl⟩ := h
  obtain ⟨digit, more, rfl⟩ := List.exists_cons_of_ne_nil hnil
  exact ⟨digit, _, rfl, hdigits digit List.mem_cons_self⟩

/-- A number, with a sign or without. -/
def IsNumeral (cs : List Char) : Prop := IsUnsigned cs ∨ ∃ rest, IsUnsigned rest ∧ cs = '-' :: rest

theorem IsNumeral.ne_nil {cs : List Char} (h : IsNumeral cs) : cs ≠ [] := by
  rcases h with h | ⟨rest, -, rfl⟩
  · obtain ⟨digit, more, rfl, -⟩ := h.exists_digit
    exact List.cons_ne_nil digit more
  · exact List.cons_ne_nil '-' rest

/-- A dotted name starts with a letter or an underscore. -/
theorem IsDottedName.exists_cons {cs : List Char} (h : IsDottedName cs) :
    ∃ c rest, cs = c :: rest ∧ Token.startsName c = true := by
  obtain ⟨parts, hn, hparts, rfl⟩ := h
  obtain ⟨first, others, rfl⟩ := List.exists_cons_of_ne_nil hn
  obtain ⟨c, tail, rfl, hc, -⟩ := hparts first List.mem_cons_self
  exact ⟨c, _, dotted_cons (c :: tail) others, hc⟩

/-- What comes after the opening quote of a quoted text: characters, backslashes each with a character
that is no line feed, and the closing quote. -/
inductive IsQuotedRest (quote : Char) : List Char → Prop where
  /-- The closing quote ends it. -/
  | close : IsQuotedRest quote [quote]
  /-- A character that is neither the quote nor a backslash stands for itself. -/
  | plain {c : Char} {rest : List Char} (hquote : c ≠ quote) (hslash : c ≠ '\\')
    (h : IsQuotedRest quote rest) : IsQuotedRest quote (c :: rest)
  /-- A backslash escapes a character. -/
  | escaped {c : Char} {rest : List Char} (hline : c ≠ '\n') (h : IsQuotedRest quote rest) :
    IsQuotedRest quote ('\\' :: c :: rest)

/-- A text in quotes. -/
def IsQuotedText (cs : List Char) : Prop :=
  ∃ quote rest, (quote = '"' ∨ quote = '\'') ∧ IsQuotedRest quote rest ∧ cs = quote :: rest

/-- The words for connectives. -/
def connectiveWords : List (List Char) := [['a', 'n', 'd'], ['o', 'r'], ['n', 'o', 't']]

/-- Characters spell a lexeme. -/
inductive Spells : List Char → Lexeme → Prop where
  /-- A number is spelled as it is. -/
  | number {text : List Char} (h : IsNumeral text) : Spells text (.number text)
  /-- A quoted text is spelled with its quotes. -/
  | quoted {text : List Char} (h : IsQuotedText text) : Spells text (.quoted text)
  /-- A name is identifiers with dots between them, but no word for a connective. -/
  | name {text : List Char} (h : IsDottedName text) (hword : text ∉ connectiveWords) :
    Spells text (.name text)
  /-- A comparison is spelled by its sign. -/
  | comparison (how : Comparison) : Spells how.sign.toList (.comparison how)
  /-- Equality has a longer sign. -/
  | strictlyEqual : Spells ['=', '=', '='] (.comparison .equal)
  /-- So has its opposite. -/
  | strictlyUnequal : Spells ['!', '=', '='] (.comparison .unequal)
  /-- An opening parenthesis. -/
  | opening : Spells ['('] .opening
  /-- A closing parenthesis. -/
  | closing : Spells [')'] .closing
  /-- The word for conjunctions. -/
  | bothWord : Spells ['a', 'n', 'd'] .both
  /-- The sign of conjunctions. -/
  | bothSign : Spells ['&', '&'] .both
  /-- The word for disjunctions. -/
  | eitherWord : Spells ['o', 'r'] .either
  /-- The sign of disjunctions. -/
  | eitherSign : Spells ['|', '|'] .either
  /-- The word for negations. -/
  | negatedWord : Spells ['n', 'o', 't'] .negated
  /-- The sign of negations. -/
  | negatedSign : Spells ['!'] .negated

namespace Token

theorem digitCount_append {digits : List Char} (h : ∀ c ∈ digits, isDecimalDigit c = true)
    (rest : List Char) : digitCount (digits ++ rest) = digits.length + digitCount rest := by
  rw [digitCount, List.takeWhile_append_of_pos h, List.length_append, digitCount]

theorem digitCount_cons_of_not {c : Char} (h : isDecimalDigit c = false) (rest : List Char) :
    digitCount (c :: rest) = 0 := by
  rw [digitCount, List.takeWhile_cons_of_neg (by simp [h]), List.length_nil]

/-- The digits that are counted are digits. -/
theorem exists_digits {cs : List Char} (h : digitCount cs ≠ 0) :
    ∃ digits rest, cs = digits ++ rest ∧ IsDigits digits ∧ digits.length = digitCount cs := by
  refine ⟨cs.takeWhile isDecimalDigit, cs.dropWhile isDecimalDigit, by simp, ⟨?_, ?_⟩, rfl⟩
  · exact fun hnil => h (congrArg List.length hnil)
  · exact List.all_eq_true.mp List.all_takeWhile

/-- The fraction that is counted is one. -/
theorem exists_fraction (cs : List Char) :
    ∃ fraction rest, cs = fraction ++ rest ∧ IsFraction fraction ∧
      fraction.length = fractionCount cs := by
  unfold fractionCount
  split
  · rename_i rest
    split
    · exact ⟨[], _, rfl, .inl rfl, rfl⟩
    · rename_i hne
      obtain ⟨digits, tail, rfl, hdigits, hlength⟩ := exists_digits hne
      exact ⟨'.' :: digits, tail, rfl, .inr ⟨digits, hdigits, rfl⟩, by
        rw [List.length_cons, hlength, Nat.add_comm]⟩
  · exact ⟨[], cs, rfl, .inl rfl, rfl⟩

/-- The exponent that is counted is one. -/
theorem exists_exponent (cs : List Char) :
    ∃ exponent rest, cs = exponent ++ rest ∧ IsExponent exponent ∧
      exponent.length = exponentCount cs := by
  have signed {e : Char} {sign tail : List Char} (he : e = 'e' ∨ e = 'E')
      (hsign : sign = [] ∨ sign = ['+'] ∨ sign = ['-']) (hne : digitCount tail ≠ 0) :
      ∃ exponent rest, e :: (sign ++ tail) = exponent ++ rest ∧ IsExponent exponent ∧
        exponent.length = 1 + sign.length + digitCount tail := by
    obtain ⟨digits, rest, rfl, hdigits, hlength⟩ := exists_digits hne
    refine ⟨e :: (sign ++ digits), rest, by simp, .inr ⟨e, sign, digits, he, hsign, hdigits, rfl⟩, ?_⟩
    rw [List.length_cons, List.length_append, hlength]
    omega
  have none (cs : List Char) : ∃ exponent rest, cs = exponent ++ rest ∧ IsExponent exponent ∧
      exponent.length = 0 := ⟨[], cs, rfl, .inl rfl, rfl⟩
  unfold exponentCount
  split
  · split
    · rename_i he
      split
      · split
        · exact none _
        · rename_i hne
          exact signed he (.inr (.inl rfl)) hne
      · split
        · exact none _
        · rename_i hne
          exact signed he (.inr (.inr rfl)) hne
      · split
        · exact none _
        · rename_i hne
          exact signed he (.inl rfl) hne
    · exact none _
  · exact none _

/-- The number without a sign that is counted is one. -/
theorem exists_unsigned {cs : List Char} (h : unsignedCount cs ≠ 0) :
    ∃ number rest, cs = number ++ rest ∧ IsUnsigned number ∧
      number.length = unsignedCount cs := by
  unfold unsignedCount at h ⊢
  dsimp only at h ⊢
  split at h
  · exact absurd rfl h
  · rename_i hne
    rw [if_neg hne]
    obtain ⟨whole, rest, rfl, hwhole, hw⟩ := exists_digits hne
    rw [← hw, List.drop_left]
    obtain ⟨fraction, rest, rfl, hfraction, hf⟩ := exists_fraction rest
    rw [← hf, ← List.append_assoc, ← List.length_append, List.drop_left]
    obtain ⟨exponent, rest, rfl, hexponent, he⟩ := exists_exponent rest
    exact ⟨whole ++ (fraction ++ exponent), rest, by simp,
      ⟨whole, fraction, exponent, hwhole, hfraction, hexponent, rfl⟩, by simp [← he, Nat.add_assoc]⟩

/-- The number that is counted is one. -/
theorem exists_numeral {cs : List Char} (h : numberCount cs ≠ 0) :
    ∃ number rest, cs = number ++ rest ∧ IsNumeral number ∧ number.length = numberCount cs := by
  unfold numberCount at h ⊢
  split at h
  · split at h
    · exact absurd rfl h
    · rename_i rest hne
      obtain ⟨number, rest, rfl, hnumber, hlength⟩ := exists_unsigned hne
      refine ⟨'-' :: number, rest, rfl, .inr ⟨number, hnumber, rfl⟩, ?_⟩
      rw [if_neg hne, List.length_cons, hlength, Nat.add_comm]
  · obtain ⟨number, rest, rfl, hnumber, hlength⟩ := exists_unsigned h
    exact ⟨number, rest, rfl, .inl hnumber, hlength⟩

/-- Where nothing but a fraction can follow, all of it is counted, and the digits after it. -/
theorem fractionCount_append {fraction : List Char} (h : IsFraction fraction) (hne : fraction ≠ [])
    (rest : List Char) :
    fractionCount (fraction ++ rest) = fraction.length + digitCount rest := by
  rcases h with rfl | ⟨digits, ⟨hnil, hdigits⟩, rfl⟩
  · exact absurd rfl hne
  · have hpos := List.length_pos_iff.mpr hnil
    rw [List.cons_append, fractionCount, digitCount_append hdigits, if_neg (by omega),
      List.length_cons]
    omega

/-- All of an exponent is counted, and the digits after it. -/
theorem exponentCount_append {exponent : List Char} (h : IsExponent exponent) (hne : exponent ≠ [])
    (rest : List Char) :
    exponentCount (exponent ++ rest) = exponent.length + digitCount rest := by
  rcases h with rfl | ⟨e, sign, digits, he, hsign, ⟨hnil, hdigits⟩, rfl⟩
  · exact absurd rfl hne
  · have hpos := List.length_pos_iff.mpr hnil
    have hcount := digitCount_append hdigits rest
    rcases hsign with rfl | rfl | rfl
    · -- A digit is no sign, so that the digits are counted from the first character on.
      have hsign (c : Char) (hc : isDecimalDigit c = false) (tail : List Char) :
          digits ++ rest = c :: tail → False := by
        intro heq
        obtain ⟨digit, more, rfl⟩ := List.exists_cons_of_ne_nil hnil
        rw [(List.cons.inj heq).1] at hdigits
        exact absurd (hdigits c List.mem_cons_self) (by simp [hc])
      rw [List.nil_append, List.cons_append, exponentCount, if_pos he, hcount, if_neg (by omega),
        List.length_cons]
      · omega
      · exact hsign '+' (by decide)
      · exact hsign '-' (by decide)
    all_goals
      rw [List.cons_append, List.append_assoc, List.singleton_append, exponentCount, if_pos he]
      rw [hcount, if_neg (by omega), List.length_cons, List.length_append, List.length_singleton]
      omega

/-- Neither a digit nor a point starts an exponent. -/
theorem counts_of_exponent {exponent : List Char} (h : IsExponent exponent) (hne : exponent ≠ [])
    (rest : List Char) :
    digitCount (exponent ++ rest) = 0 ∧ fractionCount (exponent ++ rest) = 0 := by
  rcases h with rfl | ⟨e, sign, digits, rfl | rfl, _, _, rfl⟩
  · exact absurd rfl hne
  · exact ⟨digitCount_cons_of_not (by decide) _, rfl⟩
  · exact ⟨digitCount_cons_of_not (by decide) _, rfl⟩

/-- No digit starts a fraction. -/
theorem digitCount_of_fraction {fraction : List Char} (h : IsFraction fraction)
    (hne : fraction ≠ []) (rest : List Char) : digitCount (fraction ++ rest) = 0 := by
  rcases h with rfl | ⟨digits, _, rfl⟩
  · exact absurd rfl hne
  · exact digitCount_cons_of_not (by decide) _

/-- The digits that start a text are all counted for a number. -/
theorem digitCount_le_unsignedCount (cs : List Char) : digitCount cs ≤ unsignedCount cs := by
  unfold unsignedCount
  dsimp only
  split <;> omega

/-- After the digits of a number a fraction and an exponent are counted. -/
theorem unsignedCount_append {whole rest : List Char} (h : IsDigits whole)
    (hstop : digitCount rest = 0) :
    unsignedCount (whole ++ rest) =
      whole.length + (fractionCount rest + exponentCount (rest.drop (fractionCount rest))) := by
  have hpos : whole.length ≠ 0 := mt List.length_eq_zero_iff.mp h.1
  have hcount : digitCount (whole ++ rest) = whole.length := by
    rw [digitCount_append h.2, hstop, Nat.add_zero]
  unfold unsignedCount
  simp only [hcount, if_neg hpos, List.drop_left, ← List.drop_drop]
  omega

/-- All of a number without a sign is counted, and perhaps more. -/
theorem length_le_unsignedCount {number : List Char} (h : IsUnsigned number) (rest : List Char) :
    number.length ≤ unsignedCount (number ++ rest) := by
  obtain ⟨whole, fraction, exponent, hwhole, hfraction, hexponent, rfl⟩ := h
  rw [List.append_assoc, List.length_append, List.length_append]
  -- What follows the digits, and what follows the fraction, tells where the counting stops.
  by_cases he : exponent = []
  · subst he
    by_cases hf : fraction = []
    · subst hf
      have hle := digitCount_le_unsignedCount (whole ++ rest)
      rw [digitCount_append hwhole.2] at hle
      exact Nat.le_trans (Nat.le_add_right _ _) hle
    · have hstop := digitCount_of_fraction hfraction hf rest
      have hcount := fractionCount_append hfraction hf rest
      rw [List.append_nil, unsignedCount_append hwhole hstop, hcount, List.length_nil]
      omega
  · obtain ⟨hstop, hpoint⟩ := counts_of_exponent hexponent he rest
    have hcount := exponentCount_append hexponent he rest
    by_cases hf : fraction = []
    · subst hf
      rw [List.nil_append, unsignedCount_append hwhole hstop, hpoint, List.drop_zero, hcount,
        List.length_nil]
      omega
    · have hstop' := digitCount_of_fraction hfraction hf (exponent ++ rest)
      have hcount' := fractionCount_append hfraction hf (exponent ++ rest)
      rw [List.append_assoc, unsignedCount_append hwhole hstop', hcount', hstop, Nat.add_zero,
        List.drop_left, hcount]
      omega

theorem numberCount_of_ne {c : Char} (h : c ≠ '-') (rest : List Char) :
    numberCount (c :: rest) = unsignedCount (c :: rest) := by
  rw [numberCount]
  exact fun _ heq => h (List.cons.inj heq).1

/-- A character that is neither a digit nor a sign starts no number. -/
theorem numberCount_of_not {c : Char} (hsign : c ≠ '-') (hdigit : isDecimalDigit c = false)
    (rest : List Char) : numberCount (c :: rest) = 0 := by
  rw [numberCount_of_ne hsign, unsignedCount]
  exact if_pos (digitCount_cons_of_not hdigit rest)

/-- All of a number is counted, and perhaps more. -/
theorem length_le_numberCount {number : List Char} (h : IsNumeral number) (rest : List Char) :
    number.length ≤ numberCount (number ++ rest) := by
  rcases h with h | ⟨unsigned, h, rfl⟩
  · have hle := length_le_unsignedCount h rest
    obtain ⟨digit, more, rfl, hdigit⟩ := h.exists_digit
    have hsign : digit ≠ '-' := by
      rintro rfl
      exact absurd hdigit (by decide)
    rwa [List.cons_append, numberCount_of_ne hsign]
  · have hle := length_le_unsignedCount h rest
    obtain ⟨digit, more, rfl, -⟩ := h.exists_digit
    rw [List.length_cons] at hle
    rw [List.cons_append, numberCount, List.length_cons, List.length_cons, if_neg (by omega)]
    omega

/-- The rest of a quoted text that is counted is one. -/
theorem exists_quotedRest {quote : Char} {cs : List Char} {n : Nat}
    (h : quotedCount? quote cs = some n) :
    ∃ inside rest, cs = inside ++ rest ∧ IsQuotedRest quote inside ∧ inside.length = n := by
  fun_induction quotedCount? quote cs generalizing n with
  | case1 => cases h
  | case2 => cases h
  | case3 c rest hline ih =>
    obtain ⟨k, hk, rfl⟩ := Option.map_eq_some_iff.mp h
    obtain ⟨inside, rest, rfl, hinside, rfl⟩ := ih hk
    exact ⟨'\\' :: c :: inside, rest, rfl, .escaped hline hinside, by simp only [List.length_cons]; omega⟩
  | case4 => cases h
  | case5 rest _ =>
    cases h
    exact ⟨[quote], rest, rfl, .close, rfl⟩
  | case6 c rest hslash hquote ih =>
    obtain ⟨k, hk, rfl⟩ := Option.map_eq_some_iff.mp h
    obtain ⟨inside, rest, rfl, hinside, rfl⟩ := ih hk
    exact ⟨c :: inside, rest, rfl, .plain hquote hslash hinside, by
      rw [List.length_cons, Nat.add_comm]⟩

/-- The rest of a quoted text is counted, and no more. -/
theorem quotedCount?_append {quote : Char} (hquote : quote ≠ '\\') {inside : List Char}
    (h : IsQuotedRest quote inside) (rest : List Char) :
    quotedCount? quote (inside ++ rest) = some inside.length := by
  induction h with
  | close => rw [List.singleton_append, quotedCount?, if_pos rfl, List.length_singleton]; exact hquote
  | @plain c inside hc hslash _ ih =>
    rw [List.cons_append, quotedCount?, if_neg hc, ih, Option.map_some, List.length_cons, Nat.add_comm]
    exact hslash
  | @escaped c inside hline _ ih =>
    rw [List.cons_append, List.cons_append, quotedCount?, if_neg hline, ih, Option.map_some,
      List.length_cons, List.length_cons, Nat.add_comm]

/-- A sign that is found stands at the start of the text. -/
theorem exists_sign {cs : List Char} {lexeme : Lexeme} {n : Nat} (h : sign? cs = some (lexeme, n)) :
    ∃ sign rest, cs = sign ++ rest ∧ (sign, lexeme) ∈ signs ∧ sign.length = n := by
  obtain ⟨⟨sign, meaning⟩, hm, hs⟩ := List.exists_of_findSome?_eq_some h
  obtain ⟨rest, hrest, hp⟩ := Option.map_eq_some_iff.mp hs
  obtain ⟨rfl, rfl⟩ := Prod.mk.inj hp
  exact ⟨sign, rest, (append_of_afterStart? hrest).symm, hm, rfl⟩

theorem afterStart?_append (start rest : List Char) :
    afterStart? start (start ++ rest) = some rest := by
  induction start with
  | nil => rfl
  | cons c start ih => rw [List.cons_append, afterStart?, if_pos rfl, ih]

/-- Where longer signs stand before shorter ones, no sign that starts a text is longer than the first
one that is found. -/
theorem exists_findSome?_sign {table : List (List Char × Lexeme)}
    (hsorted : table.Pairwise fun a b => b.1.length ≤ a.1.length) {sign : List Char}
    {lexeme : Lexeme} (hm : (sign, lexeme) ∈ table) (rest : List Char) :
    ∃ found n, (table.findSome? fun (start, meaning) =>
        (afterStart? start (sign ++ rest)).map fun _ => (meaning, start.length)) = some (found, n) ∧
      sign.length ≤ n := by
  induction table with
  | nil => cases hm
  | cons entry others ih =>
    obtain ⟨hfirst, hothers⟩ := List.pairwise_cons.mp hsorted
    obtain ⟨start, meaning⟩ := entry
    cases hentry : afterStart? start (sign ++ rest) with
    | some after =>
      refine ⟨meaning, start.length, by simp [hentry], ?_⟩
      rcases List.mem_cons.mp hm with heq | hm
      · exact Nat.le_of_eq (congrArg List.length (Prod.mk.inj heq).1)
      · exact hfirst _ hm
    | none =>
      have hne : (sign, lexeme) ∈ others := by
        rcases List.mem_cons.mp hm with heq | hm
        · rw [(Prod.mk.inj heq).1, afterStart?_append] at hentry
          cases hentry
        · exact hm
      simpa [List.findSome?_cons, hentry] using ih hothers hne

/-- A sign that starts a text is found, or a longer one. -/
theorem exists_sign?_eq {sign : List Char} {lexeme : Lexeme} (hm : (sign, lexeme) ∈ signs)
    (rest : List Char) : ∃ found n, sign? (sign ++ rest) = some (found, n) ∧ sign.length ≤ n :=
  exists_findSome?_sign (by decide) hm rest

theorem nameCount_of_ne {c : Char} (h : c ≠ '.') (fresh : Bool) (rest : List Char) :
    nameCount fresh (c :: rest) =
      if if fresh then startsName c else continuesName c then 1 + nameCount false rest else 0 := by
  rw [nameCount]
  exact h

/-- All of what a part of a name goes on with is counted. -/
theorem nameCount_of_continues {tail : List Char} (h : ∀ d ∈ tail, continuesName d = true)
    (rest : List Char) : nameCount false (tail ++ rest) = tail.length + nameCount false rest := by
  induction tail with
  | nil => rw [List.nil_append, List.length_nil, Nat.zero_add]
  | cons c tail ih =>
    obtain ⟨hc, htail⟩ := List.forall_mem_cons.mp h
    have hdot : c ≠ '.' := by
      rintro rfl
      exact absurd hc (by decide)
    rw [List.cons_append, nameCount_of_ne hdot, if_neg Bool.false_ne_true, if_pos hc, ih htail,
      List.length_cons]
    omega

/-- All of an identifier is counted, and what goes on with the name. -/
theorem nameCount_of_identifier {part : List Char} (h : IsIdentifier part) (rest : List Char) :
    nameCount true (part ++ rest) = part.length + nameCount false rest := by
  obtain ⟨c, tail, rfl, hc, htail⟩ := h
  have hdot : c ≠ '.' := by
    rintro rfl
    exact absurd hc (by decide)
  rw [List.cons_append, nameCount_of_ne hdot, if_pos rfl, if_pos hc, nameCount_of_continues htail,
    List.length_cons]
  omega

/-- All parts of a name after the first are counted. -/
theorem nameCount_of_parts {parts : List (List Char)} (h : ∀ part ∈ parts, IsIdentifier part)
    (rest : List Char) :
    nameCount false (parts.flatMap ('.' :: ·) ++ rest) =
      (parts.flatMap ('.' :: ·)).length + nameCount false rest := by
  induction parts with
  | nil => rw [List.flatMap_nil, List.nil_append, List.length_nil, Nat.zero_add]
  | cons part parts ih =>
    obtain ⟨hpart, hparts⟩ := List.forall_mem_cons.mp h
    have hcount := nameCount_of_identifier hpart (parts.flatMap ('.' :: ·) ++ rest)
    obtain ⟨c, tail, rfl, hc, -⟩ := hpart
    rw [List.flatMap_cons, List.append_assoc, List.cons_append, List.cons_append, nameCount,
      if_pos (by simpa using hc), ← List.cons_append, hcount, ih hparts, List.length_append,
      List.length_cons (a := '.')]
    omega

/-- All of a name is counted, and what goes on with it. -/
theorem nameCount_append {name : List Char} (h : IsDottedName name) (rest : List Char) :
    nameCount true (name ++ rest) = name.length + nameCount false rest := by
  obtain ⟨parts, hn, hparts, rfl⟩ := h
  obtain ⟨first, others, rfl⟩ := List.exists_cons_of_ne_nil hn
  obtain ⟨hfirst, hothers⟩ := List.forall_mem_cons.mp hparts
  rw [dotted_cons, List.append_assoc, nameCount_of_identifier hfirst, nameCount_of_parts hothers,
    List.length_append, Nat.add_assoc]

theorem nameCount_le (fresh : Bool) (cs : List Char) : nameCount fresh cs ≤ cs.length := by
  fun_induction nameCount fresh cs with
  | case2 => simp only [List.length_cons] at *; omega
  | case5 => simp only [List.length_cons] at *; omega
  | _ => exact Nat.zero_le _

/-- A name says what it spells. -/
theorem spells_ofName {text : List Char} (h : IsDottedName text) : Spells text (ofName text) := by
  unfold ofName
  split
  · rename_i hand
    exact hand ▸ .bothWord
  · split
    · rename_i hor
      exact hor ▸ .eitherWord
    · split
      · rename_i hnot
        exact hnot ▸ .negatedWord
      · rename_i hand hor hnot
        exact .name h (by simp [connectiveWords, hand, hor, hnot])

/-- The table of signs says what they spell. -/
theorem spells_of_mem_signs {sign : List Char} {lexeme : Lexeme} (h : (sign, lexeme) ∈ signs) :
    Spells sign lexeme := by
  simp only [signs, List.mem_cons, Prod.mk.injEq, List.not_mem_nil, or_false] at h
  rcases h with ⟨rfl, rfl⟩ | ⟨rfl, rfl⟩ | ⟨rfl, rfl⟩ | ⟨rfl, rfl⟩ | ⟨rfl, rfl⟩ | ⟨rfl, rfl⟩ |
    ⟨rfl, rfl⟩ | ⟨rfl, rfl⟩ | ⟨rfl, rfl⟩ | ⟨rfl, rfl⟩ | ⟨rfl, rfl⟩ | ⟨rfl, rfl⟩ | ⟨rfl, rfl⟩
  · exact .strictlyEqual
  · exact .strictlyUnequal
  · exact .comparison .equal
  · exact .comparison .unequal
  · exact .comparison .atMost
  · exact .comparison .atLeast
  · exact .bothSign
  · exact .eitherSign
  · exact .comparison .less
  · exact .comparison .greater
  · exact .negatedSign
  · exact .opening
  · exact .closing

/-- What spells a lexeme is a number, a quoted text, a name or word, or a sign of the table. -/
theorem spells_cases {spelling : List Char} {lexeme : Lexeme} (h : Spells spelling lexeme) :
    IsNumeral spelling ∨ IsQuotedText spelling ∨ IsDottedName spelling ∨
      (spelling, lexeme) ∈ signs := by
  have word (c : Char) (rest : List Char) (hc : startsName c = true)
      (hrest : rest.all continuesName = true) : IsDottedName (c :: rest) :=
    ⟨[c :: rest], List.cons_ne_nil _ _,
      List.forall_mem_singleton.mpr ⟨c, rest, rfl, hc, List.all_eq_true.mp hrest⟩,
      (List.intercalate_singleton).symm⟩
  cases h with
  | number h => exact .inl h
  | quoted h => exact .inr (.inl h)
  | name h _ => exact .inr (.inr (.inl h))
  | bothWord => exact .inr (.inr (.inl (word 'a' ['n', 'd'] rfl rfl)))
  | eitherWord => exact .inr (.inr (.inl (word 'o' ['r'] rfl rfl)))
  | negatedWord => exact .inr (.inr (.inl (word 'n' ['o', 't'] rfl rfl)))
  | comparison how => exact .inr (.inr (.inr (by cases how <;> decide)))
  | _ => exact .inr (.inr (.inr (by decide)))

/-- A name starts with a letter of ASCII or an underscore. -/
theorem toNat_of_startsName {c : Char} (h : startsName c = true) :
    ((65 ≤ c.toNat ∧ c.toNat ≤ 90) ∨ (97 ≤ c.toNat ∧ c.toNat ≤ 122)) ∨ c = '_' := by
  unfold startsName Char.isAlpha Char.isUpper Char.isLower at h
  simpa [UInt32.le_iff_toNat_le] using h

/-- What a name starts with is neither a digit nor the sign of a number nor a quote. -/
theorem not_of_startsName {c : Char} (h : startsName c = true) :
    isDecimalDigit c = false ∧ c ≠ '-' ∧ ¬ (c = '"' ∨ c = '\'') := by
  refine ⟨?_, ?_, ?_⟩
  · rw [← Bool.not_eq_true]
    intro hdigit
    have hrange := toNat_of_isDecimalDigit hdigit
    rcases toNat_of_startsName h with hletter | rfl
    · omega
    · exact absurd hdigit (by decide)
  · rintro rfl
    exact absurd h (by decide)
  · rintro (rfl | rfl) <;> exact absurd h (by decide)

/-- What a sign starts with starts nothing else. -/
theorem not_of_mem_signs {c : Char} {rest : List Char} {lexeme : Lexeme}
    (h : (c :: rest, lexeme) ∈ signs) :
    isDecimalDigit c = false ∧ c ≠ '-' ∧ ¬ (c = '"' ∨ c = '\'') ∧ startsName c = false := by
  have hall : ∀ entry ∈ signs, (entry.1.head?.map fun c => isDecimalDigit c || c == '-' ||
      (c == '"' || c == '\'') || startsName c) = some false := by decide
  simpa [not_or, and_assoc] using hall _ h

section

variable {c : Char} {rest : List Char}

/-- Nothing is spelled without characters. -/
theorem ne_nil_of_spells {spelling : List Char} {lexeme : Lexeme} (h : Spells spelling lexeme) :
    spelling ≠ [] := by
  rcases spells_cases h with hnumeral | ⟨quote, inside, -, -, rfl⟩ | hname | hsign
  · exact hnumeral.ne_nil
  · exact List.cons_ne_nil quote inside
  · obtain ⟨c, rest, rfl, -⟩ := hname.exists_cons
    exact List.cons_ne_nil c rest
  · rintro rfl
    simp [signs] at hsign

theorem first?_of_number (h : numberCount (c :: rest) ≠ 0) :
    first? c rest =
      some (.number ((c :: rest).take (numberCount (c :: rest))), numberCount (c :: rest) - 1) := by
  unfold first?
  exact if_pos h

theorem first?_of_quote (h : c = '"' ∨ c = '\'') :
    first? c rest =
      (quotedCount? c rest).map fun n => (.quoted ((c :: rest).take (n + 1)), n) := by
  have hnumber : numberCount (c :: rest) = 0 := by
    rcases h with rfl | rfl <;> exact numberCount_of_not (by decide) (by decide) rest
  unfold first?
  dsimp only
  rw [if_neg (not_not_intro hnumber), if_pos h]

theorem first?_of_sign (hnumber : numberCount (c :: rest) = 0) (hquote : ¬ (c = '"' ∨ c = '\''))
    {lexeme : Lexeme} {n : Nat} (h : sign? (c :: rest) = some (lexeme, n)) :
    first? c rest = some (lexeme, n - 1) := by
  unfold first?
  dsimp only
  rw [if_neg (not_not_intro hnumber), if_neg hquote, h]

theorem first?_of_name (hnumber : numberCount (c :: rest) = 0) (hquote : ¬ (c = '"' ∨ c = '\''))
    (hsign : sign? (c :: rest) = none) (h : nameCount true (c :: rest) ≠ 0) :
    first? c rest = some (ofName ((c :: rest).take (nameCount true (c :: rest))),
      nameCount true (c :: rest) - 1) := by
  unfold first?
  dsimp only
  rw [if_neg (not_not_intro hnumber), if_neg hquote, hsign]
  exact if_pos h

/-- No sign starts like a name. -/
theorem sign?_of_startsName (h : startsName c = true) : sign? (c :: rest) = none := by
  rw [Option.eq_none_iff_forall_ne_some]
  rintro ⟨lexeme, n⟩ hsome
  obtain ⟨sign, others, heq, hm, -⟩ := exists_sign hsome
  cases sign with
  | nil => exact absurd hm (by simp [signs])
  | cons d sign =>
    rw [(List.cons.inj heq).1, (not_of_mem_signs hm).2.2.2] at h
    cases h

/-- The first token of a text is spelled by the characters that it takes up. -/
theorem spells_of_first? {lexeme : Lexeme} {more : Nat} (h : first? c rest = some (lexeme, more)) :
    ∃ spelling others, c :: rest = spelling ++ others ∧ spelling.length = more + 1 ∧
      Spells spelling lexeme := by
  by_cases hnumber : numberCount (c :: rest) = 0
  · by_cases hquote : c = '"' ∨ c = '\''
    · rw [first?_of_quote hquote] at h
      obtain ⟨n, hn, hp⟩ := Option.map_eq_some_iff.mp h
      obtain ⟨rfl, rfl⟩ := Prod.mk.inj hp
      obtain ⟨inside, others, rfl, hinside, rfl⟩ := exists_quotedRest hn
      refine ⟨c :: inside, others, rfl, rfl, ?_⟩
      rw [List.take_succ_cons, List.take_left]
      exact .quoted ⟨c, inside, hquote, hinside, rfl⟩
    · cases hsign : sign? (c :: rest) with
      | some found =>
        obtain ⟨meaning, n⟩ := found
        rw [first?_of_sign hnumber hquote hsign] at h
        obtain ⟨rfl, rfl⟩ := Prod.mk.inj (Option.some.inj h)
        obtain ⟨sign, others, heq, hm, rfl⟩ := exists_sign hsign
        have hspelled := spells_of_mem_signs hm
        have hpos := List.length_pos_iff.mpr (ne_nil_of_spells hspelled)
        exact ⟨sign, others, heq, by omega, hspelled⟩
      | none =>
        by_cases hname : nameCount true (c :: rest) = 0
        · unfold first? at h
          simp [hnumber, hquote, hsign, hname] at h
        · rw [first?_of_name hnumber hquote hsign hname] at h
          obtain ⟨rfl, rfl⟩ := Prod.mk.inj (Option.some.inj h)
          refine ⟨_, _, (List.take_append_drop (nameCount true (c :: rest)) (c :: rest)).symm, ?_,
            spells_ofName (isDottedName_take_nameCount hname)⟩
          rw [List.length_take, Nat.min_eq_left (nameCount_le true (c :: rest))]
          omega
  · rw [first?_of_number hnumber] at h
    obtain ⟨rfl, rfl⟩ := Prod.mk.inj (Option.some.inj h)
    obtain ⟨number, others, heq, hspelled, hlength⟩ := exists_numeral hnumber
    refine ⟨number, others, heq, by omega, ?_⟩
    rw [← hlength, heq, List.take_left]
    exact .number hspelled

/-- The first token ends within the text. -/
theorem le_length_of_first? {lexeme : Lexeme} {more : Nat}
    (h : first? c rest = some (lexeme, more)) : more ≤ rest.length := by
  obtain ⟨spelling, others, heq, hlength, -⟩ := spells_of_first? h
  have hparts := congrArg List.length heq
  rw [List.length_append, List.length_cons] at hparts
  omega

/-- A spelling that starts a text is the first token or is part of it. -/
theorem exists_first?_of_spells {spelling others : List Char} {lexeme : Lexeme}
    (h : Spells spelling lexeme) (heq : c :: rest = spelling ++ others) :
    ∃ found more, first? c rest = some (found, more) ∧ spelling.length ≤ more + 1 := by
  rcases spells_cases h with hnumeral | ⟨quote, inside, hquote, hinside, rfl⟩ | hname | hsign
  · have hle := length_le_numberCount hnumeral others
    rw [← heq] at hle
    have hpos : 0 < spelling.length := List.length_pos_iff.mpr hnumeral.ne_nil
    exact ⟨_, _, first?_of_number (by omega), by omega⟩
  · obtain ⟨rfl, rfl⟩ := List.cons.inj heq
    have hslash : c ≠ '\\' := by
      rcases hquote with rfl | rfl <;> decide
    have hcount : quotedCount? c (inside.append others) = some inside.length :=
      quotedCount?_append hslash hinside others
    exact ⟨_, inside.length, by rw [first?_of_quote hquote, hcount]; rfl, Nat.le_refl _⟩
  · have hcount := nameCount_append hname others
    rw [← heq] at hcount
    obtain ⟨d, tail, rfl, hd⟩ := hname.exists_cons
    obtain ⟨rfl, -⟩ := List.cons.inj heq
    obtain ⟨hdigit, hminus, hquote⟩ := not_of_startsName hd
    rw [List.length_cons] at hcount ⊢
    exact ⟨_, _, first?_of_name (numberCount_of_not hminus hdigit rest) hquote
      (sign?_of_startsName hd) (by omega), by omega⟩
  · cases spelling with
    | nil => exact absurd hsign (by simp [signs])
    | cons d sign =>
      obtain ⟨found, n, hfound, hle⟩ := exists_sign?_eq hsign others
      rw [← heq] at hfound
      obtain ⟨rfl, -⟩ := List.cons.inj heq
      obtain ⟨hdigit, hminus, hquote, -⟩ := not_of_mem_signs hsign
      exact ⟨found, n - 1, first?_of_sign (numberCount_of_not hminus hdigit rest) hquote hfound,
        by omega⟩

/-- A spelling by itself is its own first token. -/
theorem first?_of_spells {lexeme : Lexeme} (h : Spells (c :: rest) lexeme) :
    first? c rest = some (lexeme, rest.length) := by
  generalize hspelling : c :: rest = spelling at h
  cases h with
  | number hnumeral =>
    subst hspelling
    have hle := length_le_numberCount hnumeral []
    rw [List.append_nil, List.length_cons] at hle
    have hne : numberCount (c :: rest) ≠ 0 := by omega
    obtain ⟨number, others, heq, -, hlength⟩ := exists_numeral hne
    have hall : numberCount (c :: rest) = (c :: rest).length := by
      have hparts := congrArg List.length heq
      rw [List.length_append] at hparts
      rw [List.length_cons] at hparts ⊢
      omega
    rw [first?_of_number hne, hall, List.take_length, List.length_cons, Nat.add_sub_cancel]
  | quoted hquoted =>
    obtain ⟨quote, inside, hquote, hinside, rfl⟩ := hquoted
    obtain ⟨rfl, rfl⟩ := List.cons.inj hspelling
    have hslash : c ≠ '\\' := by
      rcases hquote with rfl | rfl <;> decide
    have hcount := quotedCount?_append hslash hinside []
    rw [List.append_nil] at hcount
    rw [first?_of_quote hquote, hcount, Option.map_some, ← List.length_cons (a := c),
      List.take_length]
  | name hname hword =>
    subst hspelling
    have hcount := nameCount_append hname []
    rw [List.append_nil, nameCount, Nat.add_zero, List.length_cons] at hcount
    obtain ⟨d, tail, heq, hd⟩ := hname.exists_cons
    obtain ⟨rfl, -⟩ := List.cons.inj heq
    obtain ⟨hdigit, hminus, hquote⟩ := not_of_startsName hd
    have hplain : ofName (c :: rest) = .name (c :: rest) := by
      simp only [connectiveWords, List.mem_cons, List.not_mem_nil, or_false, not_or] at hword
      rw [ofName, if_neg hword.1, if_neg hword.2.1, if_neg hword.2.2]
    rw [first?_of_name (numberCount_of_not hminus hdigit rest) hquote (sign?_of_startsName hd)
      (by omega), hcount, ← List.length_cons (a := c), List.take_length, hplain, List.length_cons,
      Nat.add_sub_cancel]
  | comparison how => cases how <;> cases hspelling <;> rfl
  | _ => cases hspelling; rfl

/-- A spelling stands for one lexeme. -/
theorem lexeme_eq_of_spells {spelling : List Char} {lexeme other : Lexeme}
    (h : Spells spelling lexeme) (h' : Spells spelling other) : lexeme = other := by
  obtain ⟨c, rest, rfl⟩ := List.exists_cons_of_ne_nil (ne_nil_of_spells h)
  have heq := (first?_of_spells h).symm.trans (first?_of_spells h')
  exact (Prod.mk.inj (Option.some.inj heq)).1

end

end Token

end Intake
