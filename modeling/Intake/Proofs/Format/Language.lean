import Intake.Format.Basic
import Intake.Proofs.Text.Language

/-!
# The languages of structural formats

Each structural format has a language, told here by concatenation, choice and repetition. Where a
version or a time of day has digits behind a first one, the class of these is a parameter. Main
statements: the text of a format, without a line end that may follow it, is a word of its language for
digits of all scripts.
-/

namespace Intake.Format

open scoped Computability

section Definitions

variable (digit : Char → Bool)

/-- Hexadecimal digits in groups of 8, 4, 4, 4 and 12. -/
def uuidLanguage : Language Char :=
  joined '-' ([8, 4, 4, 4, 12].map (oneOf isHexDigit ^ ·))

/-- Runs of small letters and digits with hyphens between them. -/
def slugLanguage : Language Char :=
  separated '-' (oneOf isSlugCharacter * (oneOf isSlugCharacter)∗)

/-- A number sign with three or six hexadecimal digits. -/
def colorLanguage : Language Char :=
  just '#' * (oneOf isHexDigit ^ 3 + oneOf isHexDigit ^ 6)

/-- Groups of four digits, and at the end maybe two or three digits filled up to four characters. -/
def base64Language : Language Char :=
  (oneOf isBase64Digit ^ 4)∗ *
    (1 + oneOf isBase64Digit ^ 2 * (just '=' * just '=') + oneOf isBase64Digit ^ 3 * just '=')

/-- Three segments with dots between them, of which the last may be empty. -/
def tokenLanguage : Language Char :=
  let digits := (oneOf isBase64UrlDigit)∗
  joined '.' [oneOf isBase64UrlDigit * digits, oneOf isBase64UrlDigit * digits, digits]

/-- Zero, or a number that does not start with zero. -/
def numberLanguage : Language Char :=
  just '0' + oneOf (fun c => c.isDigit && c != '0') * (oneOf digit)∗

/-- A number, or a word of digits, letters and hyphens with a letter or a hyphen in it. -/
def preReleaseLanguage : Language Char :=
  numberLanguage digit +
    (oneOf digit)∗ * (oneOf (fun c => c.isAlpha || c == '-') * (oneOf isLabelCharacter)∗)

/-- A word of digits, letters and hyphens. -/
def buildLanguage : Language Char :=
  oneOf isLabelCharacter * (oneOf isLabelCharacter)∗

/-- Three numbers with dots between them. -/
def coreLanguage : Language Char :=
  joined '.' [numberLanguage digit, numberLanguage digit, numberLanguage digit]

/-- A core, maybe a hyphen and words of a pre-release, and maybe a plus sign and words of a build. -/
def versionLanguage : Language Char :=
  coreLanguage digit * (1 + just '-' * separated '.' (preReleaseLanguage digit)) *
    (1 + just '+' * separated '.' buildLanguage)

/-- A letter, a digit or one of the other signs that stand between the dots of a mailbox. -/
def isAtomCharacter (c : Char) : Bool :=
  c.isAlphanum || c == '_' || c == '\'' || c == '+' || c == '-'

/-- Atoms with dots between them, and no quote at the end. -/
def mailboxLanguage : Language Char :=
  {w | w ∈ separated '.' (oneOf isAtomCharacter * (oneOf isAtomCharacter)∗) ∧
    w.getLast? ≠ some '\''}

/-- A letter or digit, and then letters, digits and hyphens. -/
def labelLanguage : Language Char :=
  oneOf Char.isAlphanum * (oneOf isLabelCharacter)∗

/-- Labels with dots between them, and behind another dot two letters or more. -/
def domainLanguage : Language Char :=
  separated '.' labelLanguage *
    (just '.' * (oneOf Char.isAlpha * (oneOf Char.isAlpha * (oneOf Char.isAlpha)∗)))

/-- A mailbox, an at sign and a domain. -/
def mailLanguage : Language Char :=
  joined '@' [mailboxLanguage, domainLanguage]

/-- A number from 0 to 23 in one or two digits. -/
def hourLanguage : Language Char :=
  oneOf digit + oneOf (fun c => c == '0' || c == '1') * oneOf digit +
    just '2' * oneOf fun c => decide ('0' ≤ c ∧ c ≤ '3')

/-- A number from 00 to 59 in two digits. -/
def sixtiethLanguage : Language Char :=
  oneOf (fun c => decide ('0' ≤ c ∧ c ≤ '5')) * oneOf digit

/-- An hour, a minute and maybe a second, with colons between them. -/
def clockLanguage : Language Char :=
  joined ':' [hourLanguage digit, sixtiethLanguage digit] +
    joined ':' [hourLanguage digit, sixtiethLanguage digit, sixtiethLanguage digit]

end Definitions

variable {cs : List Char}

theorem isUuid_iff : isUuid cs = true ↔ cs ∈ uuidLanguage := by
  have hover (l : Language Char) (hl : l ∈ [8, 4, 4, 4, 12].map (oneOf isHexDigit ^ ·)) :
      Over (· ≠ '-') l := by
    obtain ⟨n, -, rfl⟩ := List.mem_map.mp hl
    exact (Over.oneOf_ne (by decide)).pow n
  -- The groups have their sizes, and hold hexadecimal digits only.
  have hgroups (groups : List (List Char)) (sizes : List Nat) :
      List.Forall₂ (fun group size => group ∈ oneOf isHexDigit ^ size) groups sizes ↔
        groups.map List.length = sizes ∧ ∀ group ∈ groups, ∀ c ∈ group, isHexDigit c = true := by
    induction groups generalizing sizes with
    | nil => cases sizes <;> simp
    | cons group rest ih =>
      cases sizes with
      | nil => simp
      | cons size sizes =>
        rw [List.forall₂_cons, ih, mem_oneOf_pow_iff, List.map_cons, List.cons.injEq,
          List.forall_mem_cons]
        exact and_and_and_comm
  rw [uuidLanguage, mem_joined_iff (by simp) hover, List.forall₂_map_right_iff, hgroups]
  simp [isUuid]

theorem isSlug_iff : isSlug cs = true ↔ cs ∈ slugLanguage := by
  have hrun : Over (· ≠ '-') (oneOf isSlugCharacter) := .oneOf_ne (by decide)
  rw [slugLanguage, mem_separated_iff (hrun.mul hrun.kstar)]
  simp only [isSlug, List.all_eq_true, mem_oneOf_mul_kstar_iff, Bool.and_eq_true,
    Bool.not_eq_true', List.isEmpty_eq_false_iff]

theorem isHexColor_iff : isHexColor cs = true ↔ cs ∈ colorLanguage := by
  have hdigits (digits : List Char) : isHexColor ('#' :: digits) = true ↔
      digits ∈ oneOf isHexDigit ^ 3 + oneOf isHexDigit ^ 6 := by
    rw [Language.mem_add, mem_oneOf_pow_iff, mem_oneOf_pow_iff, ← or_and_right]
    simp [isHexColor]
  rw [colorLanguage, mem_just_mul_iff]
  constructor
  · intro h
    unfold isHexColor at h
    split at h
    · exact ⟨_, rfl, (hdigits _).mp h⟩
    · cases h
  · rintro ⟨digits, rfl, h⟩
    exact (hdigits digits).mpr h

theorem isToken_iff : isToken cs = true ↔ cs ∈ tokenLanguage := by
  have hdigit : Over (· ≠ '.') (oneOf isBase64UrlDigit) := .oneOf_ne (by decide)
  rw [tokenLanguage, mem_joined_triple_iff (hdigit.mul hdigit.kstar) (hdigit.mul hdigit.kstar)
    hdigit.kstar]
  simp only [mem_oneOf_mul_kstar_iff, mem_oneOf_kstar_iff]
  constructor
  · intro h
    unfold isToken at h
    split at h
    · rename_i head payload signature hparts
      simp only [Bool.and_eq_true, Bool.not_eq_true', List.isEmpty_eq_false_iff,
        List.all_eq_true] at h
      obtain ⟨⟨⟨⟨hhead, hpayload⟩, hheads⟩, hpayloads⟩, hsignatures⟩ := h
      exact ⟨head, payload, signature, hparts, ⟨hhead, hheads⟩, ⟨hpayload, hpayloads⟩, hsignatures⟩
    · cases h
  · rintro ⟨head, payload, signature, hparts, ⟨hhead, hheads⟩, ⟨hpayload, hpayloads⟩, hsignatures⟩
    simp only [isToken, hparts, Bool.and_eq_true, Bool.not_eq_true', List.isEmpty_eq_false_iff,
      List.all_eq_true]
    exact ⟨⟨⟨⟨hhead, hpayload⟩, hheads⟩, hpayloads⟩, hsignatures⟩

/-- Four digits in front of a text leave it a text in base 64 or none. -/
theorem isBase64_append {group : List Char} (h : group ∈ oneOf isBase64Digit ^ 4)
    (rest : List Char) : isBase64 (group ++ rest) = isBase64 rest := by
  obtain ⟨hlength, hdigits⟩ := mem_oneOf_pow_iff.mp h
  match group, hlength with
  | [a, b, c, d], _ =>
    simp only [List.forall_mem_cons, List.not_mem_nil, false_imp_iff, implies_true,
      and_true] at hdigits
    obtain ⟨ha, hb, hc, hd⟩ := hdigits
    have hsign : d ≠ '=' := by
      rintro rfl
      exact absurd hd (by decide)
    simp only [List.cons_append, List.nil_append]
    rw [isBase64]
    · simp [ha, hb, hc, hd]
    · exact fun _ h => absurd h hsign
    · exact fun h => absurd h hsign

theorem isBase64_iff : isBase64 cs = true ↔ cs ∈ base64Language := by
  constructor
  · intro h
    fun_induction isBase64 cs with
    | case1 => exact ⟨[], Language.nil_mem_kstar _, [], .inl (.inl rfl), rfl⟩
    | case2 a b =>
      have hdigits : [a, b] ∈ oneOf isBase64Digit ^ 2 :=
        mem_oneOf_pow_iff.mpr ⟨rfl, by simpa using h⟩
      exact ⟨[], Language.nil_mem_kstar _, _,
        .inl (.inr (Language.append_mem_mul hdigits ⟨['='], rfl, ['='], rfl, rfl⟩)), rfl⟩
    | case3 a b c =>
      have hdigits : [a, b, c] ∈ oneOf isBase64Digit ^ 3 :=
        mem_oneOf_pow_iff.mpr ⟨rfl, by simpa [and_assoc] using h⟩
      exact ⟨[], Language.nil_mem_kstar _, _, .inr (Language.append_mem_mul hdigits rfl), rfl⟩
    | case4 a b c d rest _ _ ih =>
      simp only [Bool.and_eq_true] at h
      obtain ⟨⟨⟨⟨ha, hb⟩, hc⟩, hd⟩, hrest⟩ := h
      obtain ⟨groups, hgroups, last, hlast, rfl⟩ := ih hrest
      have hgroup : [a, b, c, d] ∈ oneOf isBase64Digit ^ 4 :=
        mem_oneOf_pow_iff.mpr ⟨rfl, by simp [ha, hb, hc, hd]⟩
      have hall : [a, b, c, d] ++ groups ∈ (oneOf isBase64Digit ^ 4)∗ := by
        rw [← Language.one_add_self_mul_kstar_eq_kstar]
        exact .inr (Language.append_mem_mul hgroup hgroups)
      exact ⟨_, hall, last, hlast, rfl⟩
    | case5 => cases h
  · rintro ⟨_, ⟨groups, rfl, hgroups⟩, last, hlast, rfl⟩
    dsimp only
    induction groups with
    | nil =>
      rcases hlast with (rfl | ⟨digits, hdigits, _, ⟨_, rfl, _, rfl, rfl⟩, rfl⟩) |
        ⟨digits, hdigits, _, rfl, rfl⟩
      · rfl
      · obtain ⟨hlength, hall⟩ := mem_oneOf_pow_iff.mp hdigits
        match digits, hlength with
        | [a, b], _ => simpa [isBase64] using hall
      · obtain ⟨hlength, hall⟩ := mem_oneOf_pow_iff.mp hdigits
        match digits, hlength with
        | [a, b, c], _ =>
          have hsign : c ≠ '=' := by
            rintro rfl
            exact absurd (hall '=' (by simp)) (by decide)
          simpa [isBase64, hsign, and_assoc] using hall
    | cons group rest ih =>
      obtain ⟨hgroup, hrest⟩ := List.forall_mem_cons.mp hgroups
      rw [List.flatten_cons, List.append_assoc, isBase64_append hgroup]
      exact ih hrest

/-- Letters stand in ASCII. -/
theorem toNat_of_isAlpha {c : Char} (h : c.isAlpha = true) :
    65 ≤ c.toNat ∧ c.toNat ≤ 90 ∨ 97 ≤ c.toNat ∧ c.toNat ≤ 122 := by
  rcases Bool.or_eq_true_iff.mp h with hupper | hlower
  · exact .inl (of_decide_eq_true hupper)
  · obtain ⟨hfirst, hlast⟩ := Bool.and_eq_true_iff.mp hlower
    exact .inr ⟨of_decide_eq_true hfirst, of_decide_eq_true hlast⟩

/-- Letters and digits stand in ASCII. -/
theorem toNat_of_isAlphanum {c : Char} (h : c.isAlphanum = true) :
    (65 ≤ c.toNat ∧ c.toNat ≤ 90 ∨ 97 ≤ c.toNat ∧ c.toNat ≤ 122) ∨ 48 ≤ c.toNat ∧ c.toNat ≤ 57 := by
  rcases Bool.or_eq_true_iff.mp h with hletter | hdigit
  · exact .inl (toNat_of_isAlpha hletter)
  · obtain ⟨hfirst, hlast⟩ := Bool.and_eq_true_iff.mp hdigit
    exact .inr ⟨of_decide_eq_true hfirst, of_decide_eq_true hlast⟩

/-- A letter or a hyphen is no digit of any script. -/
theorem not_isDecimalDigit_of_letter {c : Char} (h : (c.isAlpha || c == '-') = true) :
    isDecimalDigit c = false := by
  rw [← Bool.not_eq_true]
  intro hdigit
  have hrange := toNat_of_isDecimalDigit hdigit
  rw [Bool.or_eq_true, beq_iff_eq] at h
  rcases h with hletter | rfl
  · have hletters := toNat_of_isAlpha hletter
    omega
  · exact absurd hdigit (by decide)

section Versions

theorem isVersionNumber_iff : isVersionNumber cs = true ↔ cs ∈ numberLanguage isDecimalDigit := by
  rw [numberLanguage, Language.mem_add, mem_just_iff, mem_oneOf_mul_iff]
  unfold isVersionNumber
  split
  · simp
  · rename_i c rest hzero
    simp only [mem_oneOf_kstar_iff, Bool.and_eq_true, List.all_eq_true]
    constructor
    · rintro ⟨hc, hrest⟩
      exact .inr ⟨c, rest, rfl, hc, hrest⟩
    · rintro (heq | ⟨_, _, heq, hc, hrest⟩)
      · cases heq
        exact absurd rfl (hzero rfl)
      · cases heq
        exact ⟨hc, hrest⟩
  · simp

theorem isPreReleaseWord_iff :
    isPreReleaseWord cs = true ↔ cs ∈ preReleaseLanguage isDecimalDigit := by
  rw [preReleaseLanguage, Language.mem_add, ← isVersionNumber_iff, isPreReleaseWord, Bool.or_eq_true]
  refine or_congr_right ?_
  rw [Language.mem_mul]
  constructor
  · intro h
    split at h
    · cases h
    · rename_i c rest hdrop
      obtain ⟨hc, hrest⟩ := Bool.and_eq_true_iff.mp h
      refine ⟨cs.takeWhile isDecimalDigit, ?_, cs.dropWhile isDecimalDigit, ?_,
        List.takeWhile_append_dropWhile⟩
      · exact mem_oneOf_kstar_iff.mpr (List.all_eq_true.mp List.all_takeWhile)
      · rw [hdrop]
        exact mem_oneOf_mul_iff.mpr ⟨c, rest, rfl, hc,
          mem_oneOf_kstar_iff.mpr (List.all_eq_true.mp hrest)⟩
  · rintro ⟨digits, hdigits, _, hword, rfl⟩
    obtain ⟨c, rest, rfl, hc, hrest⟩ := mem_oneOf_mul_iff.mp hword
    have hstop : ¬ isDecimalDigit c = true := by simp [not_isDecimalDigit_of_letter hc]
    rw [List.dropWhile_append_of_pos (mem_oneOf_kstar_iff.mp hdigits),
      List.dropWhile_cons_of_neg hstop]
    exact Bool.and_eq_true_iff.mpr ⟨hc, List.all_eq_true.mpr (mem_oneOf_kstar_iff.mp hrest)⟩

theorem isBuildWord_iff : isBuildWord cs = true ↔ cs ∈ buildLanguage := by
  rw [buildLanguage, mem_oneOf_mul_kstar_iff]
  simp [isBuildWord]

variable {c : Char}

/-- Numbers hold nothing but digits. -/
theorem over_numberLanguage (hascii : c.isDigit = false) (hdigit : isDecimalDigit c = false) :
    Over (· ≠ c) (numberLanguage isDecimalDigit) := by
  have hzero : '0' ≠ c := by
    rintro rfl
    exact absurd hascii (by decide)
  have hfirst : (c.isDigit && c != '0') = false := by rw [hascii, Bool.false_and]
  exact .add (.just hzero) ((Over.oneOf_ne hfirst).mul (Over.oneOf_ne hdigit).kstar)

/-- Words of a pre-release hold nothing but digits, letters and hyphens. -/
theorem over_preReleaseLanguage (hlabel : isLabelCharacter c = false)
    (hdigit : isDecimalDigit c = false) :
    Over (· ≠ c) (preReleaseLanguage isDecimalDigit) := by
  obtain ⟨hletter, hhyphen⟩ := Bool.or_eq_false_iff.mp hlabel
  obtain ⟨halpha, hascii⟩ := Bool.or_eq_false_iff.mp hletter
  have hfirst : (c.isAlpha || c == '-') = false := by rw [halpha, hhyphen, Bool.or_false]
  exact .add (over_numberLanguage hascii hdigit)
    ((Over.oneOf_ne hdigit).kstar.mul ((Over.oneOf_ne hfirst).mul (Over.oneOf_ne hlabel).kstar))

/-- Numbers with dots between them hold nothing but digits and dots. -/
theorem over_coreLanguage (hdot : '.' ≠ c) (hascii : c.isDigit = false)
    (hdigit : isDecimalDigit c = false) : Over (· ≠ c) (coreLanguage isDecimalDigit) := by
  have hnumber := over_numberLanguage hascii hdigit
  refine Over.joined (p := (· ≠ c)) hdot fun l hl => ?_
  rwa [List.eq_of_mem_replicate (n := 3) hl]

theorem isVersionCore_iff : isVersionCore cs = true ↔ cs ∈ coreLanguage isDecimalDigit := by
  have hnumber := over_numberLanguage (c := '.') (by decide) (by decide)
  rw [coreLanguage, mem_joined_triple_iff hnumber hnumber hnumber]
  simp only [← isVersionNumber_iff]
  constructor
  · intro h
    unfold isVersionCore at h
    split at h
    · rename_i major minor patch hparts
      simp only [Bool.and_eq_true] at h
      exact ⟨major, minor, patch, hparts, h.1.1, h.1.2, h.2⟩
    · cases h
  · rintro ⟨major, minor, patch, hparts, hmajor, hminor, hpatch⟩
    simp [isVersionCore, hparts, hmajor, hminor, hpatch]

theorem isVersion_iff : isVersion cs = true ↔ cs ∈ versionLanguage isDecimalDigit := by
  have hrelease : Over (· ≠ '+') (coreLanguage isDecimalDigit *
      (1 + just '-' * separated '.' (preReleaseLanguage isDecimalDigit))) :=
    (over_coreLanguage (by decide) (by decide) (by decide)).mul (.add .one
      ((Over.just (by decide)).mul
        (.separated (by decide) (over_preReleaseLanguage (by decide) (by decide)))))
  have hbuild : Over (· ≠ '.') buildLanguage :=
    (Over.oneOf_ne (by decide)).mul (Over.oneOf_ne (by decide)).kstar
  rw [versionLanguage, mem_mul_optional_iff hrelease,
    mem_mul_optional_iff (over_coreLanguage (by decide) (by decide) (by decide)),
    ← isVersionCore_iff]
  simp only [mem_separated_iff (over_preReleaseLanguage (c := '.') (by decide) (by decide)),
    mem_separated_iff hbuild, ← isPreReleaseWord_iff, ← isBuildWord_iff]
  simp [isVersion, Option.all_eq_true]

end Versions

section Mail

/-- Two dots stand in a row behind a part if the next one starts with a dot, or further on. -/
theorem hasDoubleDot_append {part : List Char} (h : '.' ∉ part) (rest : List Char) :
    hasDoubleDot (part ++ '.' :: rest) = (rest.head? == some '.' || hasDoubleDot rest) := by
  induction part with
  | nil =>
    rw [List.nil_append, hasDoubleDot.eq_def]
    cases rest with
    | nil => rfl
    | cons c rest => by_cases hc : c = '.' <;> simp [hc]
  | cons c tail ih =>
    obtain ⟨hc, htail⟩ := not_or.mp (mt List.mem_cons.mpr h)
    rw [List.cons_append, hasDoubleDot, ih htail]
    exact fun _ heq _ => hc heq.symm

/-- No two dots stand in a row where there are none. -/
theorem hasDoubleDot_of_notMem (h : '.' ∉ cs) : hasDoubleDot cs = false := by
  induction cs with
  | nil => rfl
  | cons c rest ih =>
    obtain ⟨hc, hrest⟩ := not_or.mp (mt List.mem_cons.mpr h)
    rw [hasDoubleDot, ih hrest]
    exact fun _ heq _ => hc heq.symm

/-- Something stands between all dots of a text, in front of them and behind them, exactly if the text
is not empty, does not start or end with a dot, and has no two dots in a row. -/
theorem filled_iff : (∀ part ∈ splitParts '.' cs, part ≠ []) ↔
    cs ≠ [] ∧ cs.head? ≠ some '.' ∧ hasDoubleDot cs = false ∧ cs.getLast? ≠ some '.' := by
  induction hparts : splitParts '.' cs generalizing cs with
  | nil => exact absurd hparts (splitParts_ne_nil '.' cs)
  | cons part parts ih =>
    obtain ⟨hpart, ⟨rfl, rfl⟩ | ⟨rest, rfl, hrest⟩⟩ := splitParts_eq_cons_iff.mp hparts
    · have hhead : cs.head? ≠ some '.' := fun h => hpart (List.mem_of_mem_head? h)
      have hlast : cs.getLast? ≠ some '.' := fun h => hpart (List.mem_of_mem_getLast? h)
      simp [hhead, hlast, hasDoubleDot_of_notMem hpart]
    · rw [List.forall_mem_cons, ih hrest, hasDoubleDot_append hpart]
      have hhead : (part ++ '.' :: rest).head? ≠ some '.' ↔ part ≠ [] := by
        cases part with
        | nil => simp
        | cons c tail => simpa [eq_comm] using (not_or.mp (mt List.mem_cons.mpr hpart)).1
      have hlast : (part ++ '.' :: rest).getLast? ≠ some '.' ↔
          rest ≠ [] ∧ rest.getLast? ≠ some '.' := by
        cases rest with
        | nil => simp
        | cons c tail => simp [List.getLast?_append, List.getLast?_cons_cons]
      rw [hhead, hlast, Bool.or_eq_false_iff, beq_eq_false_iff_ne]
      constructor
      · rintro ⟨hpart, hne, hhead, hdots, hlast⟩
        exact ⟨by simp, hpart, ⟨hhead, hdots⟩, hne, hlast⟩
      · rintro ⟨-, hpart, ⟨hhead, hdots⟩, hne, hlast⟩
        exact ⟨hpart, hne, hhead, hdots, hlast⟩

theorem isMailbox_iff : isMailbox cs = true ↔ cs ∈ mailboxLanguage := by
  have hatom : Over (· ≠ '.') (oneOf isAtomCharacter) := .oneOf_ne (by decide)
  have hcharacter (c : Char) : isMailCharacter c = true ↔ (c ≠ '.' → isAtomCharacter c = true) := by
    simp only [isMailCharacter, isAtomCharacter, Bool.or_eq_true, beq_iff_eq]
    tauto
  have hwords : cs ∈ separated '.' (oneOf isAtomCharacter * (oneOf isAtomCharacter)∗) ↔
      (∀ part ∈ splitParts '.' cs, part ≠ []) ∧ ∀ c ∈ cs, isMailCharacter c = true := by
    simp only [mem_separated_iff (hatom.mul hatom.kstar), mem_oneOf_mul_kstar_iff, hcharacter,
      ← forall_mem_splitParts_iff, forall_and]
  rw [filled_iff] at hwords
  change _ ↔ cs ∈ separated _ _ ∧ cs.getLast? ≠ some '\''
  rw [hwords, isMailbox, Bool.and_eq_true, Bool.and_eq_true, Bool.and_eq_true, List.all_eq_true,
    bne_iff_ne, Bool.not_eq_true']
  cases hlast : cs.getLast? with
  | none => simp [List.getLast?_eq_none_iff.mp hlast]
  | some c =>
    have hne : cs ≠ [] := by
      rintro rfl
      cases hlast
    simp only [ne_eq, hne, not_false_eq_true, Option.some.injEq, true_and, Bool.and_eq_true,
      bne_iff_ne]
    constructor
    · rintro ⟨⟨⟨hall, hhead⟩, hdots⟩, hdot, hquote⟩
      exact ⟨⟨⟨hhead, hdots, hdot⟩, hall⟩, hquote⟩
    · rintro ⟨⟨⟨hhead, hdots, hdot⟩, hall⟩, hquote⟩
      exact ⟨⟨⟨hall, hhead⟩, hdots⟩, hdot, hquote⟩

theorem isDomainLabel_iff : isDomainLabel cs = true ↔ cs ∈ labelLanguage := by
  rw [labelLanguage, mem_oneOf_mul_iff]
  cases cs with
  | nil => simp [isDomainLabel]
  | cons c rest => simp [isDomainLabel, mem_oneOf_kstar_iff]

theorem isDomain_iff : isDomain cs = true ↔ cs ∈ domainLanguage := by
  have hlabel : Over (· ≠ '.') labelLanguage :=
    (Over.oneOf_ne (by decide)).mul (Over.oneOf_ne (by decide)).kstar
  have htop (top : List Char) :
      top ∈ oneOf Char.isAlpha * (oneOf Char.isAlpha * (oneOf Char.isAlpha)∗) ↔
        2 ≤ top.length ∧ ∀ c ∈ top, c.isAlpha = true := by
    rw [mem_oneOf_mul_iff]
    match top with
    | [] => simp
    | [c] => simp [mem_oneOf_mul_iff]
    | c :: d :: rest => simp [mem_oneOf_mul_iff, mem_oneOf_kstar_iff]
  -- The parts in front of the last one are labels, and there is one at least.
  have hfront (front : List Char) : front ∈ separated '.' labelLanguage ↔
      ∀ part ∈ (splitParts '.' front).reverse, isDomainLabel part = true := by
    simp only [mem_separated_iff hlabel, isDomainLabel_iff, List.mem_reverse]
  rw [domainLanguage, Language.mem_mul]
  constructor
  · intro h
    unfold isDomain at h
    split at h
    · rename_i top label labels hparts
      simp only [Bool.and_eq_true, decide_eq_true_iff, List.all_eq_true] at h
      obtain ⟨⟨hlength, hletters⟩, hlabels⟩ := h
      rw [List.reverse_eq_iff, List.reverse_cons] at hparts
      obtain ⟨-, front, rfl, hlabeled⟩ := (splitParts_eq_concat_iff (by simp)).mp hparts
      refine ⟨front, (hfront front).mpr ?_, '.' :: top, ?_, rfl⟩
      · rwa [hlabeled, List.reverse_reverse]
      · exact mem_just_mul_iff.mpr ⟨top, rfl, (htop top).mpr ⟨hlength, hletters⟩⟩
    · cases h
  · rintro ⟨front, hlabels, _, hlast, rfl⟩
    obtain ⟨top, rfl, hword⟩ := mem_just_mul_iff.mp hlast
    obtain ⟨hlength, hletters⟩ := (htop top).mp hword
    have hdot : '.' ∉ top := fun hm => absurd (hletters '.' hm) (by decide)
    have hparts : (splitParts '.' (front ++ '.' :: top)).reverse =
        top :: (splitParts '.' front).reverse := by
      rw [splitParts_append, splitParts_of_notMem hdot, List.reverse_append]
      rfl
    rw [hfront] at hlabels
    rw [isDomain, hparts]
    cases hreverse : (splitParts '.' front).reverse with
    | nil => exact absurd (List.reverse_eq_nil_iff.mp hreverse) (splitParts_ne_nil '.' front)
    | cons label labels =>
      rw [hreverse] at hlabels
      simp only [Bool.and_eq_true, decide_eq_true_iff, List.all_eq_true]
      exact ⟨⟨hlength, hletters⟩, hlabels⟩

theorem isMailAddress_iff : isMailAddress cs = true ↔ cs ∈ mailLanguage := by
  have hmailbox : Over (· ≠ '@') mailboxLanguage := by
    have hatom : Over (· ≠ '@') (oneOf isAtomCharacter) := .oneOf_ne (by decide)
    exact fun w hw => (hatom.mul hatom.kstar).separated (by decide) w hw.1
  have hdomain : Over (· ≠ '@') domainLanguage := by
    have hletter : Over (· ≠ '@') (oneOf Char.isAlpha) := .oneOf_ne (by decide)
    have hlabel : Over (· ≠ '@') labelLanguage :=
      (Over.oneOf_ne (by decide)).mul (Over.oneOf_ne (by decide)).kstar
    exact (hlabel.separated (by decide)).mul
      ((Over.just (by decide)).mul (hletter.mul (hletter.mul hletter.kstar)))
  rw [mailLanguage, mem_joined_pair_iff hmailbox hdomain]
  simp only [← isMailbox_iff, ← isDomain_iff]
  constructor
  · intro h
    unfold isMailAddress at h
    split at h
    · rename_i mailbox domain hparts
      exact ⟨mailbox, domain, hparts, Bool.and_eq_true_iff.mp h⟩
    · cases h
  · rintro ⟨mailbox, domain, hparts, hmailbox, hdomain⟩
    simp [isMailAddress, hparts, hmailbox, hdomain]

end Mail

section Clock

theorem isHour_iff : isHour cs = true ↔ cs ∈ hourLanguage isDecimalDigit := by
  rw [hourLanguage, Language.mem_add, Language.mem_add, mem_oneOf_iff, mem_oneOf_mul_iff,
    mem_just_mul_iff]
  simp only [mem_oneOf_iff]
  obtain _ | ⟨t, _ | ⟨d, _ | ⟨_, _⟩⟩⟩ := cs
  · simp [isHour]
  · simp [isHour]
  · simp [isHour, and_assoc]
  · simp [isHour]

theorem isSixtieth_iff : isSixtieth cs = true ↔ cs ∈ sixtiethLanguage isDecimalDigit := by
  rw [sixtiethLanguage, mem_oneOf_mul_iff]
  simp only [mem_oneOf_iff]
  obtain _ | ⟨t, _ | ⟨d, _ | ⟨_, _⟩⟩⟩ := cs <;> simp [isSixtieth]

theorem isClockTime_iff : isClockTime cs = true ↔ cs ∈ clockLanguage isDecimalDigit := by
  have hdigit : Over (· ≠ ':') (oneOf isDecimalDigit) := .oneOf_ne (by decide)
  have hhour : Over (· ≠ ':') (hourLanguage isDecimalDigit) :=
    .add (.add hdigit ((Over.oneOf_ne (by decide)).mul hdigit))
      ((Over.just (by decide)).mul (.oneOf_ne (by decide)))
  have hsixtieth : Over (· ≠ ':') (sixtiethLanguage isDecimalDigit) :=
    (Over.oneOf_ne (by decide)).mul hdigit
  rw [clockLanguage, Language.mem_add, mem_joined_pair_iff hhour hsixtieth,
    mem_joined_triple_iff hhour hsixtieth hsixtieth]
  simp only [← isHour_iff, ← isSixtieth_iff]
  constructor
  · intro h
    unfold isClockTime at h
    split at h
    · rename_i hour minute hparts
      exact .inl ⟨hour, minute, hparts, Bool.and_eq_true_iff.mp h⟩
    · rename_i hour minute second hparts
      simp only [Bool.and_eq_true, and_assoc] at h
      exact .inr ⟨hour, minute, second, hparts, h⟩
    · cases h
  · rintro (⟨hour, minute, hparts, hhour, hminute⟩ | ⟨hour, minute, second, hparts, h⟩)
    · simp [isClockTime, hparts, hhour, hminute]
    · simp [isClockTime, hparts, h]

end Clock

end Intake.Format
