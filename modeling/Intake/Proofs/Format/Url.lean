import Intake.Proofs.Format.Language
import Intake.Proofs.Text.Parts
import Intake.Proofs.Validation.Acceptance
import Mathlib

/-!
# Absolute URLs

A text is an absolute URL if it holds no blank, starts with a scheme and a colon, and names a host
after two slashes, or else a path. Controls in front of the scheme are passed over when the parts
are told, but not when the two slashes are looked for. Main statement: what is read as a URL is one,
its scheme is told in small letters whatever the case it is written in, and a field passes it if a
listed protocol names this scheme. Which authorities have a fault is not covered.
-/

namespace Intake

/-- A text is divided at the first of some marks. -/
structure DividedAt (marks : List Char) (cs part tail : List Char) : Prop where
  /-- The parts are all there is. -/
  whole : cs = part ++ tail
  /-- The first one holds no mark. -/
  plain : ∀ c ∈ part, c ∉ marks
  /-- What is behind it starts with a mark. -/
  marked : ∀ c ∈ tail.head?, c ∈ marks

/-- A character is none of some marks. -/
def isUnmarked (marks : List Char) (c : Char) : Bool := !marks.contains c

/-- A text is divided in one way. -/
theorem dividedAt_iff {marks cs part tail : List Char} :
    DividedAt marks cs part tail ↔
      cs.takeWhile (isUnmarked marks) = part ∧ cs.dropWhile (isUnmarked marks) = tail := by
  constructor
  · rintro ⟨rfl, hplain, hmarked⟩
    have hpart : ∀ c ∈ part, isUnmarked marks c = true := by simpa [isUnmarked] using hplain
    have htail : tail.takeWhile (isUnmarked marks) = [] ∧
        tail.dropWhile (isUnmarked marks) = tail := by
      cases tail with
      | nil => exact ⟨rfl, rfl⟩
      | cons c rest =>
        have hc : c ∈ marks := hmarked c rfl
        simp [isUnmarked, hc]
    rw [List.takeWhile_append_of_pos hpart, List.dropWhile_append_of_pos hpart, htail.1, htail.2,
      List.append_nil]
    exact ⟨rfl, rfl⟩
  · rintro ⟨rfl, rfl⟩
    refine ⟨List.takeWhile_append_dropWhile.symm, fun c hc => ?_, fun c hc => ?_⟩
    · simpa [isUnmarked] using List.all_eq_true.mp List.all_takeWhile c hc
    · have hhead := List.head?_dropWhile_not (isUnmarked marks) cs
      rw [hc] at hhead
      simpa [isUnmarked] using hhead

namespace Format

/-- A scheme: a letter, and letters, digits and the marks `+`, `-` and `.` behind it. -/
def IsScheme (cs : List Char) : Prop :=
  ∃ c rest, cs = c :: rest ∧ c.isAlpha = true ∧
    ∀ d ∈ rest, d.isAlphanum = true ∨ d ∈ ['+', '-', '.']

theorem isSchemeCharacter_iff (c : Char) :
    Uri.isSchemeCharacter c = true ↔ c.isAlphanum = true ∨ c ∈ ['+', '-', '.'] := by
  simp [Uri.isSchemeCharacter, or_assoc]

/-- A scheme is made of the characters of schemes, a letter first. -/
theorem isScheme_cons_iff (c : Char) (rest : List Char) :
    IsScheme (c :: rest) ↔ (c.isAlpha && (c :: rest).all Uri.isSchemeCharacter) = true := by
  simp only [Bool.and_eq_true, List.all_eq_true, List.forall_mem_cons, isSchemeCharacter_iff]
  constructor
  · rintro ⟨_, _, heq, hc, hrest⟩
    cases heq
    exact ⟨hc, .inl (by simp [Char.isAlphanum, hc]), hrest⟩
  · rintro ⟨hc, -, hrest⟩
    exact ⟨c, rest, rfl, hc, hrest⟩

/-- The characters of schemes are the same in small letters. -/
theorem isSchemeCharacter_toLower (c : Char) :
    Uri.isSchemeCharacter c.toLower = Uri.isSchemeCharacter c := by
  by_cases hc : c.isAlpha = true
  · have hlower := Char.isAlpha_toLower_eq_isAlpha c
    simp [Uri.isSchemeCharacter, Char.isAlphanum, hlower, hc]
  · have hupper : ¬ c.isUpper = true := fun h => hc (by simp [Char.isAlpha, h])
    rw [Char.toLower_eq_of_not_isUpper hupper]

/-- Letter case does not make a scheme. -/
theorem isScheme_iff_of_map_toLower {cs ds : List Char}
    (h : cs.map Char.toLower = ds.map Char.toLower) : IsScheme cs ↔ IsScheme ds := by
  have hsmall (cs : List Char) : IsScheme cs ↔ IsScheme (cs.map Char.toLower) := by
    cases cs with
    | nil => rfl
    | cons c rest =>
      rw [List.map_cons, isScheme_cons_iff, isScheme_cons_iff, ← List.map_cons, List.all_map,
        Char.isAlpha_toLower_eq_isAlpha]
      simp only [Function.comp_def, isSchemeCharacter_toLower]
  rw [hsmall cs, hsmall ds, h]

/-- No scheme holds a colon. -/
theorem IsScheme.colon_notMem {cs : List Char} (h : IsScheme cs) : ':' ∉ cs := by
  obtain ⟨c, rest, rfl, hc, hrest⟩ := h
  intro hm
  rcases List.mem_cons.mp hm with rfl | hm
  · cases hc
  · exact absurd (hrest ':' hm) (by decide)

/-- A scheme and a colon are taken off a text. -/
theorem splitScheme?_eq_some_iff {cs scheme rest : List Char} :
    Uri.splitScheme? cs = some (scheme, rest) ↔
      ∃ written, cs = written ++ ':' :: rest ∧ IsScheme written ∧
        written.map Char.toLower = scheme := by
  unfold Uri.splitScheme?
  constructor
  · intro h
    rcases splitFirst_cases ':' cs with ⟨-, hnone⟩ | ⟨before, after, rfl, -, hsome⟩
    · rw [hnone] at h
      cases h
    · rw [hsome] at h
      cases before with
      | nil => cases h
      | cons c others =>
        dsimp only at h
        split at h
        · next hscheme =>
          cases h
          exact ⟨c :: others, rfl, (isScheme_cons_iff c others).mpr hscheme, rfl⟩
        · cases h
  · rintro ⟨written, rfl, hscheme, rfl⟩
    rw [splitFirst_append_cons hscheme.colon_notMem]
    obtain ⟨c, others, rfl, -⟩ := id hscheme
    dsimp only
    rw [if_pos ((isScheme_cons_iff c others).mp hscheme)]

/-- The characters of schemes lie between the space and the controls behind the last letter. -/
theorem toNat_of_isSchemeCharacter {c : Char} (h : Uri.isSchemeCharacter c = true) :
    32 < c.toNat ∧ c.toNat < 127 := by
  rcases (isSchemeCharacter_iff c).mp h with h | h
  · have hrange := toNat_of_isAlphanum h
    omega
  · simp only [List.mem_cons, List.not_mem_nil, or_false] at h
    rcases h with rfl | rfl | rfl <;> decide

/-- The characters of a scheme are those of schemes. -/
theorem IsScheme.forall_mem {cs : List Char} (h : IsScheme cs) :
    ∀ c ∈ cs, Uri.isSchemeCharacter c = true := by
  obtain ⟨c, rest, rfl, -⟩ := id h
  exact List.all_eq_true.mp (Bool.and_eq_true_iff.mp ((isScheme_cons_iff c rest).mp h)).2

/-- No scheme holds a blank. -/
theorem IsScheme.not_isBlank {cs : List Char} (h : IsScheme cs) : ∀ c ∈ cs, isBlank c = false := by
  intro c hc
  have hrange := toNat_of_isSchemeCharacter (h.forall_mem c hc)
  simp [isBlank]
  omega

/-- A text without blanks loses nothing but the controls at its start. -/
theorem clean_of_blank_free {cs : List Char} (h : ∀ c ∈ cs, isBlank c = false) :
    Uri.clean cs = cs.dropWhile (· ≤ ' ') := by
  refine List.filter_eq_self.mpr fun c hc => ?_
  have hblank := h c ((List.dropWhile_sublist _).mem hc)
  have htab : c ≠ '\t' := by rintro rfl; cases hblank
  have hreturn : c ≠ '\r' := by rintro rfl; cases hblank
  have hline : c ≠ '\n' := by rintro rfl; cases hblank
  simp [htab, hreturn, hline]

/-- Controls in front of a scheme are passed over. -/
theorem clean_append {controls written rest : List Char}
    (hblank : ∀ c ∈ controls ++ (written ++ ':' :: rest), isBlank c = false)
    (hcontrols : ∀ c ∈ controls, c ≤ ' ') (hscheme : IsScheme written) :
    Uri.clean (controls ++ (written ++ ':' :: rest)) = written ++ ':' :: rest := by
  rw [clean_of_blank_free hblank, List.dropWhile_append_of_pos (by simpa using hcontrols)]
  obtain ⟨c, others, rfl, -⟩ := id hscheme
  have hc := (toNat_of_isSchemeCharacter (hscheme.forall_mem c List.mem_cons_self)).1
  rw [List.cons_append, List.dropWhile_cons_of_neg]
  simpa [Char.le_def, UInt32.le_iff_toNat_le] using hc

/-- The path in front of a query and a fragment. -/
def pathOf (rest : List Char) : List Char := (splitFirst '?' (splitFirst '#' rest).1).1

/-- What follows a scheme leads somewhere: its authority has no fault, and there is a host if one is
needed, and a path otherwise. -/
structure LeadsOn (needsHost : Prop) (rest : List Char) : Prop where
  /-- The authority has no fault. -/
  faultless : Uri.authorityFault? (Uri.splitAuthority rest).1 = none
  /-- A host is there if it is needed. -/
  host : needsHost → hostOf (Uri.splitAuthority rest).1 ≠ []
  /-- A path is there if no host is needed. -/
  path : ¬ needsHost → pathOf (Uri.splitAuthority rest).2 ≠ []

/-- An authority without a fault leads on to a host or to a path. -/
theorem leadsOn_iff_ite {needsHost : Prop} [Decidable needsHost] {rest : List Char}
    (hfault : Uri.authorityFault? (Uri.splitAuthority rest).1 = none) :
    LeadsOn needsHost rest ↔
      if needsHost then hostOf (Uri.splitAuthority rest).1 ≠ []
      else pathOf (Uri.splitAuthority rest).2 ≠ [] := by
  split
  · next hneeds =>
    exact ⟨fun h => h.host hneeds, fun h => ⟨hfault, fun _ => h, absurd hneeds⟩⟩
  · next hfree =>
    exact ⟨fun h => h.path hfree, fun h => ⟨hfault, fun hneeds => absurd hneeds hfree, fun _ => h⟩⟩

/-- A text that names no scheme is read as no URL. -/
theorem urlScheme?_of_no_scheme {cs : List Char}
    (hsplit : Uri.splitScheme? (Uri.clean cs) = none) : urlScheme? cs = none := by
  unfold urlScheme? Uri.read
  rw [hsplit]
  cases hfault : Uri.authorityFault? (Uri.splitAuthority (Uri.clean cs)).1 <;> simp [hfault]

/-- A text without blanks that names a scheme is read as a URL if what follows leads on. -/
theorem urlScheme?_of_splitScheme? {cs scheme rest : List Char}
    (hblank : ∀ c ∈ cs, isBlank c = false)
    (hsplit : Uri.splitScheme? (Uri.clean cs) = some (scheme, rest)) (found : List Char) :
    urlScheme? cs = some found ↔
      LeadsOn ((cs.drop (scheme.length + 1)).take 2 = ['/', '/']) rest ∧ scheme = found := by
  have hscheme : scheme ≠ [] := by
    obtain ⟨written, -, ⟨c, others, rfl, -⟩, rfl⟩ := splitScheme?_eq_some_iff.mp hsplit
    exact List.cons_ne_nil _ _
  have hany : cs.any isBlank = false := by simpa using hblank
  unfold urlScheme? Uri.read
  rw [hany, hsplit]
  dsimp only [Option.getD]
  cases hfault : Uri.authorityFault? (Uri.splitAuthority rest).1 with
  | some fault =>
    have hfaulty : ¬ LeadsOn ((cs.drop (scheme.length + 1)).take 2 = ['/', '/']) rest := by
      rintro ⟨hnone, -⟩
      rw [hfault] at hnone
      cases hnone
    simp [hfaulty]
  | none =>
    rw [leadsOn_iff_ite hfault]
    simp [hscheme, pathOf]

/-- A text is read as a URL if it has no blank, names a scheme and leads somewhere. -/
theorem urlScheme?_eq_some_iff_clean {cs scheme : List Char} :
    urlScheme? cs = some scheme ↔ (∀ c ∈ cs, isBlank c = false) ∧ ∃ rest,
      Uri.splitScheme? (Uri.clean cs) = some (scheme, rest) ∧
        LeadsOn ((cs.drop (scheme.length + 1)).take 2 = ['/', '/']) rest := by
  constructor
  · intro h
    have hblank : ∀ c ∈ cs, isBlank c = false := by simpa using blank_free_of_urlScheme? h
    cases hsplit : Uri.splitScheme? (Uri.clean cs) with
    | none =>
      rw [urlScheme?_of_no_scheme hsplit] at h
      cases h
    | some found =>
      obtain ⟨s, rest⟩ := found
      obtain ⟨hleads, rfl⟩ := (urlScheme?_of_splitScheme? hblank hsplit scheme).mp h
      exact ⟨hblank, rest, rfl, hleads⟩
  · rintro ⟨hblank, rest, hsplit, hleads⟩
    exact (urlScheme?_of_splitScheme? hblank hsplit scheme).mpr ⟨hleads, rfl⟩

/-- Two slashes stand where they are looked for if no control stands in front of the scheme and they
follow it. -/
theorem take_drop_eq_slashes_iff {controls written : List Char}
    (hcontrols : ∀ c ∈ controls, c ≤ ' ') (hscheme : IsScheme written) (rest : List Char) :
    ((controls ++ (written ++ ':' :: rest)).drop (written.length + 1)).take 2 = ['/', '/'] ↔
      controls = [] ∧ rest.take 2 = ['/', '/'] := by
  cases hlength : controls.length with
  | zero =>
    have hnil := List.length_eq_zero_iff.mp hlength
    rw [hnil, List.nil_append, List.drop_length_add_append, List.drop_succ_cons, List.drop_zero,
      and_iff_right rfl]
  | succ k =>
    have hne : controls ≠ [] := by
      rintro rfl
      cases hlength
    -- What stands there is still part of the scheme, or the colon.
    have hslash : '/' ∉ controls ++ (written ++ [':']) := by
      simp only [List.mem_append, List.mem_singleton]
      rintro (hm | hm | hm)
      · exact absurd (hcontrols '/' hm) (by decide)
      · exact absurd (hscheme.forall_mem '/' hm) (by decide)
      · cases hm
    constructor
    · intro h
      have hplace : (controls ++ (written ++ ':' :: rest))[written.length + 1]? = some '/' := by
        have hhead := congrArg List.head? h
        rwa [List.head?_take, if_neg (by decide), List.head?_drop] at hhead
      have hmem : '/' ∈ controls ++ (written ++ [':']) := by
        have hsplit : controls ++ (written ++ ':' :: rest) =
            controls ++ (written ++ [':']) ++ rest := by simp
        rw [hsplit, List.getElem?_append_left (by simp; omega)] at hplace
        exact List.mem_of_getElem? hplace
      exact absurd hmem hslash
    · rintro ⟨hnil, -⟩
      exact absurd hnil hne

/-- A text that starts with controls and a scheme is read as a URL if it has no blank and leads
somewhere, to a host if it shows two slashes where they are looked for. -/
theorem urlScheme?_append_iff {controls written rest scheme : List Char}
    (hcontrols : ∀ c ∈ controls, c ≤ ' ') (hscheme : IsScheme written) :
    urlScheme? (controls ++ (written ++ ':' :: rest)) = some scheme ↔
      (∀ c ∈ controls ++ (written ++ ':' :: rest), isBlank c = false) ∧
        written.map Char.toLower = scheme ∧
        LeadsOn (controls = [] ∧ rest.take 2 = ['/', '/']) rest := by
  rw [urlScheme?_eq_some_iff_clean]
  refine and_congr_right fun hblank => ?_
  have hsplit : Uri.splitScheme? (Uri.clean (controls ++ (written ++ ':' :: rest))) =
      some (written.map Char.toLower, rest) := by
    rw [clean_append hblank hcontrols hscheme]
    exact splitScheme?_eq_some_iff.mpr ⟨written, rfl, hscheme, rfl⟩
  rw [hsplit]
  have hslashes := take_drop_eq_slashes_iff hcontrols hscheme rest
  constructor
  · rintro ⟨_, heq, h⟩
    cases heq
    rw [List.length_map, hslashes] at h
    exact ⟨rfl, h⟩
  · rintro ⟨rfl, h⟩
    refine ⟨rest, rfl, ?_⟩
    rwa [List.length_map, hslashes]

/-- What is read as a URL starts with controls and a scheme. -/
theorem exists_of_urlScheme? {cs scheme : List Char} (h : urlScheme? cs = some scheme) :
    ∃ controls written rest, cs = controls ++ (written ++ ':' :: rest) ∧
      (∀ c ∈ controls, c ≤ ' ') ∧ IsScheme written := by
  obtain ⟨hblank, rest, hsplit, -⟩ := urlScheme?_eq_some_iff_clean.mp h
  obtain ⟨written, hclean, hscheme, -⟩ := splitScheme?_eq_some_iff.mp hsplit
  rw [clean_of_blank_free hblank] at hclean
  refine ⟨cs.takeWhile (· ≤ ' '), written, rest, ?_, fun c hc => ?_, hscheme⟩
  · rw [← hclean, List.takeWhile_append_dropWhile]
  · simpa using List.all_eq_true.mp List.all_takeWhile c hc

/-- After two slashes a host is named, in an authority without a fault. -/
def NamesHost (rest : List Char) : Prop :=
  ∃ place authority tail, rest = '/' :: '/' :: place ∧
    DividedAt ['/', '?', '#'] place authority tail ∧ Uri.authorityFault? authority = none ∧
    hostOf authority ≠ []

/-- A path is named that does not start with two slashes. -/
def NamesPath (rest : List Char) : Prop :=
  ∃ path tail, DividedAt ['?', '#'] rest path tail ∧ path ≠ [] ∧ ¬ ['/', '/'] <+: path

/-- A path reaches up to a query or a fragment. -/
theorem pathOf_eq (rest : List Char) : pathOf rest = rest.takeWhile (isUnmarked ['?', '#']) := by
  rw [pathOf, splitFirst_fst, splitFirst_fst, List.takeWhile_takeWhile]
  congr 1
  funext c
  by_cases hmark : c = '?' <;> by_cases hsign : c = '#' <;> simp [isUnmarked, hmark, hsign]

/-- What follows a scheme leads on if it names a host after two slashes, or a path. -/
theorem leadsOn_iff (rest : List Char) :
    LeadsOn (rest.take 2 = ['/', '/']) rest ↔ NamesHost rest ∨ NamesPath rest := by
  by_cases hslashes : rest.take 2 = ['/', '/']
  · obtain ⟨place, rfl⟩ : ∃ place, rest = '/' :: '/' :: place :=
      ⟨rest.drop 2, by rw [← List.take_append_drop 2 rest, hslashes]; rfl⟩
    have hmarks : (fun c => !Uri.endsAuthority c) = isUnmarked ['/', '?', '#'] := by
      funext c
      rw [Bool.eq_iff_iff]
      simp [Uri.endsAuthority, isUnmarked, and_assoc]
    have hauthority : (Uri.splitAuthority ('/' :: '/' :: place)).1 =
        place.takeWhile (isUnmarked ['/', '?', '#']) := by
      rw [Uri.splitAuthority, hmarks]
    constructor
    · rintro ⟨hfault, hhost, -⟩
      rw [hauthority] at hfault hhost
      exact .inl ⟨place, _, _, rfl, dividedAt_iff.mpr ⟨rfl, rfl⟩, hfault, hhost rfl⟩
    · rintro (⟨_, authority, tail, heq, hdivided, hfault, hhost⟩ |
        ⟨path, tail, hdivided, -, hplain⟩)
      · cases heq
        rw [← (dividedAt_iff.mp hdivided).1, ← hauthority] at hfault hhost
        exact ⟨hfault, fun _ => hhost, absurd rfl⟩
      · have hpath := (dividedAt_iff.mp hdivided).1
        refine absurd ⟨(path.drop 2), ?_⟩ hplain
        rw [← hpath]
        simp [isUnmarked]
  · have hplain : Uri.splitAuthority rest = ([], rest) := by
      unfold Uri.splitAuthority
      split
      · exact absurd rfl hslashes
      · rfl
    have hprefix (path tail : List Char) (hrest : rest = path ++ tail) : ¬ ['/', '/'] <+: path := by
      rintro ⟨more, rfl⟩
      rw [hrest] at hslashes
      exact hslashes rfl
    constructor
    · rintro ⟨-, -, hpath⟩
      have hne := hpath hslashes
      rw [hplain, pathOf_eq] at hne
      have hdivided : DividedAt ['?', '#'] rest _ _ := dividedAt_iff.mpr ⟨rfl, rfl⟩
      exact .inr ⟨_, _, hdivided, hne, hprefix _ _ hdivided.whole⟩
    · rintro (⟨place, _, _, rfl, -⟩ | ⟨path, tail, hdivided, hne, -⟩)
      · exact absurd rfl hslashes
      · refine ⟨by rw [hplain]; rfl, fun h => absurd h hslashes, fun _ => ?_⟩
        rwa [hplain, pathOf_eq, (dividedAt_iff.mp hdivided).1]

/-- A text is a URL behind some controls: it holds no blank and goes on with a scheme, whatever the
case of its letters, and a colon. If there are no controls in front, a host or a path is named
behind the colon. -/
structure IsUrlBehind (controls cs scheme : List Char) : Prop where
  /-- No character is blank. -/
  blankFree : ∀ c ∈ cs, isBlank c = false
  /-- The scheme is one. -/
  named : IsScheme scheme
  /-- It is given in small letters. -/
  small : ∀ c ∈ scheme, c.isUpper = false
  /-- The text goes on with it and a colon. -/
  parts : ∃ written rest, cs = controls ++ (written ++ ':' :: rest) ∧
    written.map Char.toLower = scheme ∧ (controls = [] → NamesHost rest ∨ NamesPath rest)

/-- What is read as a URL is one, maybe behind controls. -/
theorem exists_isUrlBehind {cs scheme : List Char} (h : urlScheme? cs = some scheme) :
    ∃ controls, (∀ c ∈ controls, c < ' ') ∧ IsUrlBehind controls cs scheme := by
  obtain ⟨controls, written, rest, rfl, hcontrols, hscheme⟩ := exists_of_urlScheme? h
  obtain ⟨hblank, rfl, hleads⟩ := (urlScheme?_append_iff hcontrols hscheme).mp h
  refine ⟨controls, fun c hc => ?_, hblank, ?_, ?_, written, rest, rfl, rfl, ?_⟩
  · refine lt_of_le_of_ne (hcontrols c hc) ?_
    rintro rfl
    have hspace := hblank ' ' (List.mem_append_left _ hc)
    cases hspace
  · refine (isScheme_iff_of_map_toLower ?_).mp hscheme
    simp
  · intro c hc
    obtain ⟨d, -, rfl⟩ := List.mem_map.mp hc
    exact Char.isUpper_toLower_eq_false d
  · rintro rfl
    rw [and_iff_right rfl] at hleads
    exact (leadsOn_iff rest).mp hleads

/-- A URL without controls in front starts behind the space. -/
theorem IsUrlBehind.lt_head {cs scheme : List Char} (h : IsUrlBehind [] cs scheme) :
    ∀ c ∈ cs.head?, ' ' < c := by
  obtain ⟨written, rest, rfl, rfl, -⟩ := h.parts
  have hscheme : IsScheme written := (isScheme_iff_of_map_toLower (by simp)).mpr h.named
  obtain ⟨c, others, rfl, -⟩ := id hscheme
  intro d hd
  obtain rfl : c = d := Option.some.inj hd
  exact (toNat_of_isSchemeCharacter (hscheme.forall_mem c List.mem_cons_self)).1

/-- A URL without controls in front is read as one. -/
theorem urlScheme?_of_isUrlBehind {cs scheme : List Char} (h : IsUrlBehind [] cs scheme) :
    urlScheme? cs = some scheme := by
  obtain ⟨written, rest, rfl, rfl, hnames⟩ := h.parts
  have hscheme : IsScheme written := (isScheme_iff_of_map_toLower (by simp)).mpr h.named
  refine (urlScheme?_append_iff (by simp) hscheme).mpr ⟨h.blankFree, rfl, ?_⟩
  rw [and_iff_right rfl]
  exact (leadsOn_iff rest).mpr (hnames rfl)

/-- The letter case of the scheme changes nothing. -/
theorem urlScheme?_congr {controls written other rest : List Char}
    (hcontrols : ∀ c ∈ controls, c ≤ ' ') (hscheme : IsScheme written)
    (hcase : other.map Char.toLower = written.map Char.toLower) :
    urlScheme? (controls ++ (other ++ ':' :: rest)) =
      urlScheme? (controls ++ (written ++ ':' :: rest)) := by
  have hother := (isScheme_iff_of_map_toLower hcase).mpr hscheme
  have hblank : (∀ c ∈ controls ++ (other ++ ':' :: rest), isBlank c = false) ↔
      ∀ c ∈ controls ++ (written ++ ':' :: rest), isBlank c = false := by
    simp only [List.forall_mem_append, iff_true_intro hother.not_isBlank,
      iff_true_intro hscheme.not_isBlank]
  ext1 scheme
  rw [urlScheme?_append_iff hcontrols hother, urlScheme?_append_iff hcontrols hscheme, hblank,
    hcase]

end Format

/-- A listed protocol names a scheme if it is the scheme in small letters, colons at its end apart.
-/
theorem protocolName_eq_iff {scheme : String} (hcolon : ':' ∉ scheme.toList) (listed : String) :
    Compile.protocolName listed = scheme ↔
      ∃ n, (lowerText listed).toList = scheme.toList ++ List.replicate n ':' := by
  unfold Compile.protocolName
  rw [← String.toList_inj, String.toList_ofList]
  generalize (lowerText listed).toList = cs
  constructor
  · intro h
    have hcolons : (cs.reverse.takeWhile (· == ':')).reverse =
        List.replicate (cs.reverse.takeWhile (· == ':')).length ':' := by
      refine List.eq_replicate_iff.mpr ⟨List.length_reverse, fun c hc => ?_⟩
      exact beq_iff_eq.mp (List.all_eq_true.mp List.all_takeWhile c (List.mem_reverse.mp hc))
    refine ⟨(cs.reverse.takeWhile (· == ':')).length, ?_⟩
    rw [← h, ← hcolons, ← List.reverse_append, List.takeWhile_append_dropWhile,
      List.reverse_reverse]
  · rintro ⟨n, rfl⟩
    have hkept : scheme.toList.reverse.dropWhile (· == ':') = scheme.toList.reverse := by
      cases hreverse : scheme.toList.reverse with
      | nil => rfl
      | cons c rest =>
        have hc : c ≠ ':' := by
          rintro rfl
          exact hcolon (List.mem_reverse.mp (hreverse ▸ List.mem_cons_self))
        exact List.dropWhile_cons_of_neg (by simpa using hc)
    rw [List.reverse_append, List.reverse_replicate, List.dropWhile_append_of_pos (by simp), hkept,
      List.reverse_reverse]

/-- A field for URLs in listed protocols passes an absolute URL that has what is asked of texts
exactly if a protocol names its scheme. -/
theorem Definition.passes_url_iff {d : Definition} {label : String} {check : Check}
    {listed : List String} (hk : d.kind = .url) (hlisted : d.attributes.protocols = some listed)
    (hc : d.compile label = .ok check) (options : Options) (path : DataPath) {s scheme : String}
    (hscheme : urlScheme? s = some scheme) :
    Passes (check.run options path (.text s)) ↔
      (d.attributes.AdmitsText s ∧ d.attributes.AdmitsMember (.text s)) ∧
        ∃ protocol ∈ listed, ∃ n,
          (lowerText protocol).toList = scheme.toList ++ List.replicate n ':' := by
  have hcolon : ':' ∉ scheme.toList := by
    obtain ⟨found, hfound, rfl⟩ := Option.map_eq_some_iff.mp hscheme
    obtain ⟨controls, -, hurl⟩ := Format.exists_isUrlBehind hfound
    rw [String.toList_ofList]
    exact hurl.named.colon_notMem
  obtain ⟨a, items, properties⟩ := d
  have hkind : a.kind = .url := hk
  have hlist : a.protocols = some listed := hlisted
  have hnames : a.AdmitsUrl s ↔ ∃ protocol ∈ listed, ∃ n,
      (lowerText protocol).toList = scheme.toList ++ List.replicate n ':' := by
    simp only [FieldAttributes.AdmitsUrl, hscheme, hlist, Option.some.injEq, exists_eq_left',
      Option.mem_some_iff, forall_eq', List.mem_map, protocolName_eq_iff hcolon]
  have hwhole : a.AdmitsWhole (.text s) ↔ a.AdmitsText s ∧ a.AdmitsUrl s := by
    simp [FieldAttributes.AdmitsWhole, hkind]
  rw [passes_iff_admits _ hc, Definition.Admits, ← hnames, hwhole]
  simp only [hkind, reduceCtorEq, false_implies, and_true]
  exact and_right_comm

/-- A text is read as a URL as its characters are. -/
theorem urlScheme?_eq_some_iff (s scheme : String) :
    urlScheme? s = some scheme ↔ Format.urlScheme? s.toList = some scheme.toList := by
  rw [urlScheme?, Option.map_eq_some_iff]
  constructor
  · rintro ⟨found, hfound, rfl⟩
    rw [hfound, String.toList_ofList]
  · intro h
    exact ⟨_, h, String.ofList_toList⟩

/-- What is read as an absolute URL is one from its start on exactly if no control stands in front
of it, and each such URL is read. In any case it holds no blank, and its scheme is one in small
letters and stands, in some case of its letters, behind controls that are passed over. Another case
of these letters changes nothing. So a field for URLs in listed protocols passes a URL that has what
is asked of texts exactly if its scheme is one of the protocols in small letters, colons at their
end apart. -/
theorem urls_keep_their_scheme (s : String) :
    ((∀ scheme : String, urlScheme? s = some scheme →
        Format.IsUrlBehind [] s.toList scheme.toList) ↔
      urlScheme? s = none ∨ ∀ c ∈ s.toList.head?, ' ' ≤ c) ∧
    (∀ scheme : String, Format.IsUrlBehind [] s.toList scheme.toList →
      urlScheme? s = some scheme) ∧
    ∀ scheme : String, urlScheme? s = some scheme →
      (∃ controls, (∀ c ∈ controls, c < ' ') ∧
        Format.IsUrlBehind controls s.toList scheme.toList) ∧
      (∀ controls written other rest : List Char, s.toList = controls ++ (written ++ ':' :: rest) →
        (∀ c ∈ controls, c ≤ ' ') → Format.IsScheme written →
        other.map Char.toLower = written.map Char.toLower →
        urlScheme? (String.ofList (controls ++ (other ++ ':' :: rest))) = some scheme) ∧
      ∀ (d : Definition) (label : String) (check : Check) (listed : List String), d.kind = .url →
        d.attributes.protocols = some listed → d.compile label = .ok check →
        ∀ (options : Options) (path : DataPath),
          (Passes (check.run options path (.text s)) ↔
            (d.attributes.AdmitsText s ∧ d.attributes.AdmitsMember (.text s)) ∧
              ∃ protocol ∈ listed, ∃ n,
                (lowerText protocol).toList = scheme.toList ++ List.replicate n ':') := by
  have hread (scheme : String) := urlScheme?_eq_some_iff s scheme
  refine ⟨⟨fun h => ?_, ?_⟩, ?_, fun scheme hscheme => ⟨?_, ?_, ?_⟩⟩
  · cases hs : urlScheme? s with
    | none => exact .inl rfl
    | some scheme =>
      refine .inr fun c hc => le_of_lt ((h scheme hs).lt_head c hc)
  · rintro (hnone | hfirst) scheme hs
    · rw [hnone] at hs
      cases hs
    · obtain ⟨controls, hcontrols, hurl⟩ := Format.exists_isUrlBehind ((hread scheme).mp hs)
      cases controls with
      | nil => exact hurl
      | cons c others =>
        obtain ⟨written, rest, heq, -⟩ := hurl.parts
        have hspace := hfirst c (by rw [heq]; rfl)
        exact absurd (hcontrols c List.mem_cons_self) (not_lt_of_ge hspace)
  · intro scheme hurl
    exact (hread scheme).mpr (Format.urlScheme?_of_isUrlBehind hurl)
  · exact Format.exists_isUrlBehind ((hread scheme).mp hscheme)
  · intro controls written other rest hs hcontrols hwritten hcase
    rw [urlScheme?_eq_some_iff, String.toList_ofList,
      Format.urlScheme?_congr hcontrols hwritten hcase, ← hs]
    exact (hread scheme).mp hscheme
  · intro d label check listed hk hlisted hc options path
    exact Definition.passes_url_iff hk hlisted hc options path hscheme

/-- A field for URLs in one protocol. -/
def secureUrl : Definition :=
  ⟨{ FieldAttributes.ofKind .url with
      rules := .of ⟨.undeclared, .undeclared, .undeclared, .undeclared, .of ["HTTPS:"], .undeclared,
        .undeclared⟩ }, .undeclared, .undeclared⟩

/-- A URL with its scheme in capital letters is one, with the same scheme as with another case of
its letters, and the field passes it exactly if the protocol in small letters names the scheme. -/
theorem urls_keep_their_scheme_capital :
    Format.IsUrlBehind [] "HTTPS://api.example.com".toList "https".toList ∧
      urlScheme? "Https://api.example.com" = some "https" ∧
      ∃ check, secureUrl.compile "u" = .ok check ∧
        (Passes (check.run .standard [] (.text "HTTPS://api.example.com")) ↔
          ∃ n, (lowerText "HTTPS:").toList = "https".toList ++ List.replicate n ':') := by
  have hread : urlScheme? "HTTPS://api.example.com" = some "https" := by decide +kernel
  obtain ⟨hwhole, -, hkept⟩ := urls_keep_their_scheme "HTTPS://api.example.com"
  obtain ⟨-, hcase, hfield⟩ := hkept "https" hread
  refine ⟨?_, ?_, ?_⟩
  · refine hwhole.mpr (.inr fun c hc => ?_) "https" hread
    obtain rfl : 'H' = c := Option.some.inj hc
    decide
  · have hscheme : Format.IsScheme ['H', 'T', 'T', 'P', 'S'] :=
      (Format.isScheme_cons_iff _ _).mpr (by decide)
    exact hcase [] _ ['H', 't', 't', 'p', 's'] "//api.example.com".toList rfl nofun hscheme
      (by decide)
  · obtain ⟨check, hc⟩ : ∃ check, secureUrl.compile "u" = .ok check := ⟨_, rfl⟩
    have hpasses := hfield secureUrl "u" check ["HTTPS:"] rfl rfl hc .standard []
    have htext : secureUrl.attributes.AdmitsText "HTTPS://api.example.com" :=
      ⟨⟨nofun, nofun⟩, nofun, nofun⟩
    have hmember : secureUrl.attributes.AdmitsMember (.text "HTTPS://api.example.com") :=
      fun _ => nofun
    refine ⟨check, hc, hpasses.trans ?_⟩
    simp [htext, hmember]

/-- A control in front of the scheme hides that a host is needed: what follows the scheme here names
none, and is no path either, since it starts with two slashes. -/
theorem urlScheme?_control_hides_slashes :
    urlScheme? "http:///p" = none ∧ urlScheme? "\x01http:///p" = some "http" ∧
      ¬ Format.IsUrlBehind [] "\x01http:///p".toList "http".toList ∧
      ¬ (Format.NamesHost "///p".toList ∨ Format.NamesPath "///p".toList) := by
  refine ⟨by decide +kernel, by decide +kernel, ?_, ?_⟩
  · intro h
    obtain ⟨written, rest, heq, hsmall, -⟩ := h.parts
    cases written with
    | nil => cases hsmall
    | cons c others =>
      obtain ⟨rfl, -⟩ := List.cons.inj heq
      exact absurd (List.cons.inj hsmall).1 (by decide)
  · intro h
    exact ((Format.leadsOn_iff "///p".toList).mpr h).host (by decide) (by decide)

end Intake
