import Intake.Proofs.Format.Language
import Intake.Proofs.Validation.Rule

/-!
# Which texts structural checks accept

A structural check allows one line end behind a text, and digits of all scripts where a version or a
time of day has digits behind a first one. Main statement: apart from these it accepts exactly the
words of its language, which are made of visible ASCII characters. It accepts nothing but these words
exactly as far as no text that it accepts has a line end or a digit of another script in it. Formats of
URLs and of network addresses are not covered here.
-/

namespace Intake

open scoped Computability

/-- What a structural check asks of a text. -/
inductive TextShape where
  /-- An address of mail. -/
  | mail
  /-- A universally unique identifier. -/
  | uuid
  /-- Bytes in base 64. -/
  | base64
  /-- A signed token. -/
  | token
  /-- A slug. -/
  | slug
  /-- A colour by its hexadecimal digits. -/
  | color
  /-- A semantic version. -/
  | version
  /-- A time of day. -/
  | clock

/-- A visible character of ASCII. -/
def IsVisible (c : Char) : Prop := 33 ≤ c.toNat ∧ c.toNat ≤ 126

instance : DecidablePred IsVisible := fun _ => instDecidableAnd

/-- Neither a line end nor a digit of another script. -/
def IsPlain (c : Char) : Prop := c ≠ '\n' ∧ (isDecimalDigit c = true → c.isDigit = true)

namespace TextShape

/-- The check of a text accepts it. -/
def Accepts (shape : TextShape) (s : String) : Prop :=
  match shape with
  | .mail => TextFormat.email.accepts s = true
  | .uuid => TextFormat.uuid.accepts s = true
  | .base64 => TextFormat.base64.accepts s = true
  | .token => TextFormat.jwt.accepts s = true
  | .slug => TextFormat.slug.accepts s = true
  | .color => TextFormat.hexColor.accepts s = true
  | .version => TextFormat.semver.accepts s = true
  | .clock => ∀ site, Passes (LeafRule.time.run site (.text s))

/-- The language of a shape for a class of digits. -/
def language (digit : Char → Bool) : TextShape → Language Char
  | .mail => Format.mailLanguage
  | .uuid => Format.uuidLanguage
  | .base64 => Format.base64Language
  | .token => Format.tokenLanguage
  | .slug => Format.slugLanguage
  | .color => Format.colorLanguage
  | .version => Format.versionLanguage digit
  | .clock => Format.clockLanguage digit

/-- A text is accepted exactly if it is a word of the language for digits of all scripts once a line
end behind it is left out. -/
theorem accepts_iff (shape : TextShape) (s : String) :
    shape.Accepts s ↔ dropFinalNewline s.toList ∈ shape.language isDecimalDigit := by
  cases shape with
  | mail => exact Format.isMailAddress_iff
  | uuid => exact Format.isUuid_iff
  | base64 => exact Format.isBase64_iff
  | token => exact Format.isToken_iff
  | slug => exact Format.isSlug_iff
  | color => exact Format.isHexColor_iff
  | version => exact Format.isVersion_iff
  | clock =>
    have hcheck (site : Site) :
        Passes (LeafRule.time.run site (.text s)) ↔ isClockTimeText s = true := by
      cases h : isClockTimeText s <;>
        simp [LeafRule.run, Value.text?, h, Outcome.accept, Outcome.reject]
    refine Iff.trans ?_ Format.isClockTime_iff
    simp only [Accepts, hcheck]
    exact ⟨fun h => h ⟨⟨"", .time, false, none, false, none, none⟩, .standard, []⟩, fun h _ => h⟩

end TextShape

section Classes

variable {c : Char}

theorem isVisible_of_isAlphanum (h : c.isAlphanum = true) : IsVisible c := by
  have hrange := Format.toNat_of_isAlphanum h
  unfold IsVisible
  omega

theorem isVisible_of_isAlpha (h : c.isAlpha = true) : IsVisible c :=
  isVisible_of_isAlphanum (Bool.or_eq_true_iff.mpr (.inl h))

theorem isVisible_of_isDigit (h : c.isDigit = true) : IsVisible c :=
  isVisible_of_isAlphanum (Bool.or_eq_true_iff.mpr (.inr h))

/-- One more visible character keeps a class visible. -/
theorem isVisible_of_or_beq {accepted : Bool} {sign : Char} (hsign : IsVisible sign)
    (haccepted : accepted = true → IsVisible c) (h : (accepted || c == sign) = true) : IsVisible c := by
  rcases Bool.or_eq_true_iff.mp h with h | h
  · exact haccepted h
  · rwa [beq_iff_eq.mp h]

/-- The characters between two visible ones are visible. -/
theorem isVisible_of_between {first last : Char} (hfirst : IsVisible first) (hlast : IsVisible last)
    (h : first ≤ c ∧ c ≤ last) : IsVisible c :=
  ⟨Nat.le_trans hfirst.1 h.1, Nat.le_trans h.2 hlast.2⟩

theorem isVisible_of_isHexDigit (h : isHexDigit c = true) : IsVisible c := by
  unfold isHexDigit hexValue? at h
  split_ifs at h with hdigit hsmall hbig
  · exact isVisible_of_isDigit hdigit
  · exact isVisible_of_between (by decide) (by decide) hsmall
  · exact isVisible_of_between (by decide) (by decide) hbig
  · cases h

theorem isVisible_of_isSlugCharacter (h : Format.isSlugCharacter c = true) : IsVisible c := by
  rcases Bool.or_eq_true_iff.mp h with h | h
  · exact isVisible_of_isAlpha (Bool.or_eq_true_iff.mpr (.inr h))
  · exact isVisible_of_isDigit h

theorem isVisible_of_isLabelCharacter (h : Format.isLabelCharacter c = true) : IsVisible c :=
  isVisible_of_or_beq (by decide) isVisible_of_isAlphanum h

theorem isVisible_of_isBase64Digit (h : Format.isBase64Digit c = true) : IsVisible c :=
  isVisible_of_or_beq (by decide) (isVisible_of_or_beq (by decide) isVisible_of_isAlphanum) h

theorem isVisible_of_isBase64UrlDigit (h : Format.isBase64UrlDigit c = true) : IsVisible c :=
  isVisible_of_or_beq (by decide) (isVisible_of_or_beq (by decide) isVisible_of_isAlphanum) h

theorem isVisible_of_isAtomCharacter (h : Format.isAtomCharacter c = true) : IsVisible c :=
  isVisible_of_or_beq (by decide) (isVisible_of_or_beq (by decide) (isVisible_of_or_beq (by decide)
    (isVisible_of_or_beq (by decide) isVisible_of_isAlphanum))) h

/-- A visible character is neither a line end nor a digit of another script. -/
theorem IsVisible.isPlain (h : IsVisible c) : IsPlain c := by
  refine ⟨?_, fun hdigit => ?_⟩
  · rintro rfl
    exact absurd h (by decide)
  · have hrange := toNat_of_isDecimalDigit hdigit
    have hlast := h.2
    have hascii : 48 ≤ c.toNat ∧ c.toNat ≤ 57 := by omega
    simpa [Char.isDigit, UInt32.le_iff_toNat_le] using hascii

/-- A digit of ASCII is a decimal digit. -/
theorem isDecimalDigit_of_isDigit (h : c.isDigit = true) : isDecimalDigit c = true := by
  have hrange : 48 ≤ c.toNat ∧ c.toNat ≤ 57 := by
    simpa [Char.isDigit, UInt32.le_iff_toNat_le] using h
  have hfirst : (48 ≤ c.toNat && c.toNat < 48 + 10) = true := by
    rw [Bool.and_eq_true, decide_eq_true_iff, decide_eq_true_iff]
    omega
  rw [isDecimalDigit, digitValue?, Option.isSome_map, List.find?_isSome]
  exact ⟨48, by decide, hfirst⟩

end Classes

section Languages

open Format

/-- Runs of visible characters are visible. -/
theorem over_isVisible_run {p : Char → Bool} (h : ∀ c, p c = true → IsVisible c) :
    Over IsVisible (oneOf p * (oneOf p)∗) :=
  (Over.oneOf h).mul (Over.oneOf h).kstar

theorem over_isVisible_uuidLanguage : Over IsVisible uuidLanguage := by
  refine .joined (by decide) fun l hl => ?_
  obtain ⟨n, -, rfl⟩ := List.mem_map.mp hl
  exact (Over.oneOf fun _ => isVisible_of_isHexDigit).pow n

theorem over_isVisible_slugLanguage : Over IsVisible slugLanguage :=
  .separated (by decide) (over_isVisible_run fun _ => isVisible_of_isSlugCharacter)

theorem over_isVisible_colorLanguage : Over IsVisible colorLanguage := by
  have hdigit : Over IsVisible (oneOf isHexDigit) := .oneOf fun _ => isVisible_of_isHexDigit
  exact (Over.just (by decide)).mul ((hdigit.pow 3).add (hdigit.pow 6))

theorem over_isVisible_base64Language : Over IsVisible base64Language := by
  have hdigit : Over IsVisible (oneOf isBase64Digit) := .oneOf fun _ => isVisible_of_isBase64Digit
  have hsign : Over IsVisible (just '=') := .just (by decide)
  exact (hdigit.pow 4).kstar.mul
    ((Over.one.add ((hdigit.pow 2).mul (hsign.mul hsign))).add ((hdigit.pow 3).mul hsign))

theorem over_isVisible_tokenLanguage : Over IsVisible tokenLanguage := by
  have hdigit : Over IsVisible (oneOf isBase64UrlDigit) :=
    .oneOf fun _ => isVisible_of_isBase64UrlDigit
  have hfilled := hdigit.mul hdigit.kstar
  exact .joined (by decide) (by simp [hfilled, hdigit.kstar])

theorem over_isVisible_mailLanguage : Over IsVisible mailLanguage := by
  have hmailbox : Over IsVisible mailboxLanguage := fun w hw =>
    Over.separated (by decide) (over_isVisible_run fun _ => isVisible_of_isAtomCharacter) w hw.1
  have hlabel : Over IsVisible labelLanguage :=
    (Over.oneOf fun _ => isVisible_of_isAlphanum).mul
      (Over.oneOf fun _ => isVisible_of_isLabelCharacter).kstar
  have htop : Over IsVisible (oneOf Char.isAlpha) := .oneOf fun _ => isVisible_of_isAlpha
  have hdomain : Over IsVisible domainLanguage :=
    (Over.separated (by decide) hlabel).mul
      ((Over.just (by decide)).mul (htop.mul (htop.mul htop.kstar)))
  exact .joined (by decide) (by simp [hmailbox, hdomain])

theorem over_isVisible_versionLanguage : Over IsVisible (versionLanguage Char.isDigit) := by
  have hdigit : Over IsVisible (oneOf Char.isDigit) := .oneOf fun _ => isVisible_of_isDigit
  have hlabel : Over IsVisible (oneOf isLabelCharacter) :=
    .oneOf fun _ => isVisible_of_isLabelCharacter
  have hnumber : Over IsVisible (numberLanguage Char.isDigit) :=
    (Over.just (by decide)).add
      ((Over.oneOf fun _ h => isVisible_of_isDigit (Bool.and_eq_true_iff.mp h).1).mul hdigit.kstar)
  have hcore : Over IsVisible (coreLanguage Char.isDigit) :=
    .joined (by decide) (by simp [hnumber])
  have hword : Over IsVisible (preReleaseLanguage Char.isDigit) :=
    hnumber.add (hdigit.kstar.mul
      ((Over.oneOf fun _ => isVisible_of_or_beq (by decide) isVisible_of_isAlpha).mul hlabel.kstar))
  exact (hcore.mul (Over.one.add ((Over.just (by decide)).mul (.separated (by decide) hword)))).mul
    (Over.one.add ((Over.just (by decide)).mul (.separated (by decide) (hlabel.mul hlabel.kstar))))

theorem over_isVisible_clockLanguage : Over IsVisible (clockLanguage Char.isDigit) := by
  have hdigit : Over IsVisible (oneOf Char.isDigit) := .oneOf fun _ => isVisible_of_isDigit
  have hupTo (last : Char) (hlast : IsVisible last) :
      Over IsVisible (oneOf fun c => decide ('0' ≤ c ∧ c ≤ last)) :=
    .oneOf fun _ h => isVisible_of_between (by decide) hlast (of_decide_eq_true h)
  have htens : Over IsVisible (oneOf fun c => c == '0' || c == '1') :=
    .oneOf fun _ => isVisible_of_or_beq (by decide) fun h => beq_iff_eq.mp h ▸ by decide
  have hhour : Over IsVisible (hourLanguage Char.isDigit) :=
    (hdigit.add (htens.mul hdigit)).add ((Over.just (by decide)).mul (hupTo '3' (by decide)))
  have hsixtieth : Over IsVisible (sixtiethLanguage Char.isDigit) :=
    (hupTo '5' (by decide)).mul hdigit
  exact (Over.joined (by decide) (by simp [hhour, hsixtieth])).add
    (.joined (by decide) (by simp [hhour, hsixtieth]))

/-- All words of a shape are made of visible characters of ASCII. -/
theorem TextShape.over_isVisible (shape : TextShape) :
    Over IsVisible (shape.language Char.isDigit) := by
  cases shape with
  | mail => exact over_isVisible_mailLanguage
  | uuid => exact over_isVisible_uuidLanguage
  | base64 => exact over_isVisible_base64Language
  | token => exact over_isVisible_tokenLanguage
  | slug => exact over_isVisible_slugLanguage
  | color => exact over_isVisible_colorLanguage
  | version => exact over_isVisible_versionLanguage
  | clock => exact over_isVisible_clockLanguage

/-- Where a text is plain, digits of all scripts are those of ASCII. -/
theorem agreeOver_digit : AgreeOver IsPlain (oneOf isDecimalDigit) (oneOf Char.isDigit) :=
  .oneOf fun _ hplain => Bool.eq_iff_iff.mpr ⟨hplain.2, isDecimalDigit_of_isDigit⟩

theorem agreeOver_numberLanguage :
    AgreeOver IsPlain (numberLanguage isDecimalDigit) (numberLanguage Char.isDigit) :=
  (AgreeOver.refl _).add ((AgreeOver.refl _).mul agreeOver_digit.kstar)

theorem agreeOver_versionLanguage :
    AgreeOver IsPlain (versionLanguage isDecimalDigit) (versionLanguage Char.isDigit) := by
  have hnumber := agreeOver_numberLanguage
  have hcore : AgreeOver IsPlain (coreLanguage isDecimalDigit) (coreLanguage Char.isDigit) :=
    .joined (.cons hnumber (.cons hnumber (.cons hnumber .nil)))
  have hword : AgreeOver IsPlain (preReleaseLanguage isDecimalDigit)
      (preReleaseLanguage Char.isDigit) :=
    hnumber.add (agreeOver_digit.kstar.mul (.refl _))
  exact (hcore.mul ((AgreeOver.refl 1).add ((AgreeOver.refl _).mul (.separated hword)))).mul (.refl _)

theorem agreeOver_clockLanguage :
    AgreeOver IsPlain (clockLanguage isDecimalDigit) (clockLanguage Char.isDigit) := by
  have hhour : AgreeOver IsPlain (hourLanguage isDecimalDigit) (hourLanguage Char.isDigit) :=
    (agreeOver_digit.add ((AgreeOver.refl _).mul agreeOver_digit)).add (.refl _)
  have hsixtieth : AgreeOver IsPlain (sixtiethLanguage isDecimalDigit)
      (sixtiethLanguage Char.isDigit) :=
    (AgreeOver.refl _).mul agreeOver_digit
  exact (AgreeOver.joined (.cons hhour (.cons hsixtieth .nil))).add
    (.joined (.cons hhour (.cons hsixtieth (.cons hsixtieth .nil))))

/-- Among plain texts the class of digits makes no difference. -/
theorem TextShape.agreeOver_language (shape : TextShape) :
    AgreeOver IsPlain (shape.language isDecimalDigit) (shape.language Char.isDigit) := by
  cases shape with
  | version => exact agreeOver_versionLanguage
  | clock => exact agreeOver_clockLanguage
  | _ => exact .refl _

end Languages

namespace TextShape

/-- A word of the language for digits of ASCII is a text that is accepted and is plain. -/
theorem mem_language_iff (shape : TextShape) (s : String) :
    s.toList ∈ shape.language Char.isDigit ↔ shape.Accepts s ∧ ∀ c ∈ s.toList, IsPlain c := by
  -- A plain text has no line end to leave out, and no digits on which the languages differ.
  have hplain (h : ∀ c ∈ s.toList, IsPlain c) :
      shape.Accepts s ↔ s.toList ∈ shape.language Char.isDigit := by
    have hline : '\n' ∉ s.toList := fun hm => (h _ hm).1 rfl
    rw [accepts_iff, dropFinalNewline_of_notMem hline]
    exact shape.agreeOver_language s.toList h
  constructor
  · intro hword
    have h (c : Char) (hc : c ∈ s.toList) : IsPlain c := (shape.over_isVisible _ hword c hc).isPlain
    exact ⟨(hplain h).mpr hword, h⟩
  · exact fun ⟨haccepts, h⟩ => (hplain h).mp haccepts

/-- A structural check accepts the words of its language for digits of all scripts with or without a
line end behind them, where all words of the language for digits of ASCII are made of visible
characters. It accepts exactly the words of the latter as far as no text that it accepts has a line end
or a digit of another script in it. -/
theorem accepts_exactly_iff (shape : TextShape) (s : String) :
    (shape.Accepts s ↔ dropFinalNewline s.toList ∈ shape.language isDecimalDigit) ∧
    (s.toList ∈ shape.language Char.isDigit → ∀ c ∈ s.toList, IsVisible c) ∧
    ((shape.Accepts s ↔ s.toList ∈ shape.language Char.isDigit) ↔
      (shape.Accepts s → ∀ c ∈ s.toList, IsPlain c)) := by
  refine ⟨shape.accepts_iff s, shape.over_isVisible s.toList, ?_⟩
  rw [mem_language_iff]
  tauto

/-- A slug with a line end behind it is accepted, and so are a version and a time of day in which a
digit of another script stands. -/
theorem not_accepts_exactly :
    ¬ (Accepts .slug "a\n" ↔ "a\n".toList ∈ language Char.isDigit .slug) ∧
    ¬ (Accepts .version "1.0.1١" ↔ "1.0.1١".toList ∈ language Char.isDigit .version) ∧
    ¬ (Accepts .clock "1١:00" ↔ "1١:00".toList ∈ language Char.isDigit .clock) := by
  refine ⟨fun h => ?_, fun h => ?_, fun h => ?_⟩
  · have hword := h.mp (show TextFormat.slug.accepts "a\n" = true by decide)
    exact absurd (over_isVisible .slug _ hword '\n' (by decide)) (by decide)
  · have hword := h.mp (show TextFormat.semver.accepts "1.0.1١" = true by decide)
    exact absurd (over_isVisible .version _ hword '١' (by decide)) (by decide)
  · have haccepts : Accepts .clock "1١:00" :=
      (accepts_iff .clock _).mpr (Format.isClockTime_iff.mp (by decide))
    exact absurd (over_isVisible .clock _ (h.mp haccepts) '١' (by decide)) (by decide)

end TextShape

end Intake
