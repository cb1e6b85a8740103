import Intake.Condition.Reader
import Intake.Proofs.Condition.Spelling

/-!
# Nothing is lost between tokens

A text is read from its start on: each lexeme takes the longest spelling that stands at its place,
the next one stands behind it, and all else is blank. Main statements: every text is read in exactly
one way up to a place where nothing starts. If that is its end, the tokens of the text are those
that were read, and otherwise it is the place of the stray character.
-/

namespace Intake

namespace Token

/-- The digits of no script are blank. -/
theorem not_isBlank_of_isDecimalDigit {c : Char} (h : isDecimalDigit c = true) :
    isBlank c = false := by
  rw [isDecimalDigit, digitValue?, Option.isSome_map, Option.isSome_iff_exists] at h
  obtain ⟨start, hstart⟩ := h
  have hrange := List.find?_some hstart
  rw [Bool.and_eq_true, decide_eq_true_iff, decide_eq_true_iff] at hrange
  have hall : ∀ start ∈ digitZeros, (0x21 ≤ start ∧ start + 10 ≤ 0x85) ∨
      (0xA1 ≤ start ∧ start + 10 ≤ 0x1680) ∨ (0x1681 ≤ start ∧ start + 10 ≤ 0x2000) ∨
      0x3001 ≤ start := by decide
  have hbetween := hall start (List.mem_of_find?_eq_some hstart)
  simp only [isBlank, Bool.or_eq_false_iff, Bool.and_eq_false_iff, decide_eq_false_iff_not,
    beq_eq_false_iff_ne]
  omega

/-- No lexeme starts with a blank. -/
theorem not_isBlank_of_spells {c : Char} {rest : List Char} {lexeme : Lexeme}
    (h : Spells (c :: rest) lexeme) : isBlank c = false := by
  rcases spells_cases h with hnumeral | ⟨quote, inside, hquote, -, heq⟩ | hname | hsign
  · rcases hnumeral with hnumeral | ⟨number, -, heq⟩
    · obtain ⟨digit, more, heq, hdigit⟩ := hnumeral.exists_digit
      rw [(List.cons.inj heq).1]
      exact not_isBlank_of_isDecimalDigit hdigit
    · rw [(List.cons.inj heq).1]
      decide
  · rw [(List.cons.inj heq).1]
    rcases hquote with rfl | rfl <;> decide
  · obtain ⟨d, tail, heq, hd⟩ := hname.exists_cons
    rw [(List.cons.inj heq).1]
    rcases Token.toNat_of_startsName hd with hletter | rfl
    · simp only [isBlank, Bool.or_eq_false_iff, Bool.and_eq_false_iff, decide_eq_false_iff_not,
        beq_eq_false_iff_ne]
      omega
    · decide
  · have hall : ∀ entry ∈ signs, (entry.1.head?.map isBlank) ≠ some true := by decide
    simpa using hall _ hsign

end Token

/-- A token with the characters that spell it. -/
structure Span where
  /-- The token. -/
  token : Token
  /-- The characters, as they stand in the text. -/
  spelling : List Char

namespace Span

/-- Where a span starts. -/
def start (span : Span) : Nat := span.token.position

/-- Where a span stops: the place behind its last character. -/
def stop (span : Span) : Nat := span.token.position + span.spelling.length

/-- A span stands in a text: its characters spell its token, and they are the most characters at its
place that spell one. -/
structure StandsIn (span : Span) (text : List Char) : Prop where
  /-- The characters spell the token. -/
  spelled : Spells span.spelling span.token.lexeme
  /-- The text has these characters at the place. -/
  found : span.spelling <+: text.drop span.start
  /-- No more characters from the place on spell a token. -/
  longest : ∀ spelling lexeme, Spells spelling lexeme → spelling <+: text.drop span.start →
    spelling.length ≤ span.spelling.length

/-- A span takes up at least one character. -/
theorem StandsIn.start_lt_stop {span : Span} {text : List Char} (h : span.StandsIn text) :
    span.start < span.stop :=
  Nat.lt_add_of_pos_right (List.length_pos_iff.mpr (Token.ne_nil_of_spells h.spelled))

/-- Spans that stand at one place are the same. -/
theorem StandsIn.eq {span other : Span} {text : List Char} (h : span.StandsIn text)
    (h' : other.StandsIn text) (heq : span.start = other.start) : span = other := by
  have hle := h.longest _ _ h'.spelled (heq ▸ h'.found)
  have hge := h'.longest _ _ h.spelled (heq ▸ h.found)
  have hspelling : span.spelling = other.spelling :=
    (List.prefix_of_prefix_length_le h.found (heq ▸ h'.found) hge).eq_of_length
      (Nat.le_antisymm hge hle)
  have hlexeme := Token.lexeme_eq_of_spells h.spelled (hspelling ▸ h'.spelled)
  obtain ⟨⟨lexeme, position⟩, spelling⟩ := span
  obtain ⟨⟨_, _⟩, _⟩ := other
  simp_all [start]

/-- No span starts with a blank. -/
theorem StandsIn.not_isBlank {span : Span} {text : List Char} (h : span.StandsIn text) {c : Char}
    (hc : text[span.start]? = some c) : isBlank c = false := by
  obtain ⟨d, rest, hspelling⟩ := List.exists_cons_of_ne_nil (Token.ne_nil_of_spells h.spelled)
  obtain ⟨others, hothers⟩ := h.found
  have hhead := congrArg List.head? hothers
  rw [hspelling, List.head?_drop, hc, List.cons_append, List.head?_cons] at hhead
  have hblank := h.spelled
  rw [hspelling, Option.some.inj hhead] at hblank
  exact Token.not_isBlank_of_spells hblank

end Span

/-- The tokens of spans, and the end of the text behind them. -/
def tokensUpTo (stop : Nat) (spans : List Span) : List Token :=
  spans.map Span.token ++ [⟨.finish, stop⟩]

/-- Nothing starts where other characters go on: no blank, and nothing that spells a lexeme. -/
def NothingStarts (cs : List Char) : Prop :=
  (∀ c ∈ cs.head?, isBlank c = false) ∧
    ∀ spelling lexeme, Spells spelling lexeme → ¬ spelling <+: cs

/-- Spans are what a part of a text says: they stand in the text one behind the other, and all other
characters of the part are blank. -/
structure IsReading (text : List Char) (start stop : Nat) (spans : List Span) : Prop where
  /-- The part is one. -/
  ordered : start ≤ stop
  /-- The part lies in the text. -/
  bounded : stop ≤ text.length
  /-- Each span stands in the text. -/
  stands : ∀ span ∈ spans, span.StandsIn text
  /-- Each span lies in the part. -/
  within : ∀ span ∈ spans, start ≤ span.start ∧ span.stop ≤ stop
  /-- No span starts before another one stops. -/
  apart : spans.Pairwise fun span other => span.stop ≤ other.start
  /-- What belongs to no span is blank. -/
  blank : ∀ i, start ≤ i → i < stop → (∀ span ∈ spans, ¬ (span.start ≤ i ∧ i < span.stop)) →
    ∃ c, text[i]? = some c ∧ isBlank c = true

namespace IsReading

variable {text : List Char} {start stop : Nat} {spans : List Span}

/-- Nothing says nothing. -/
theorem empty (h : start ≤ text.length) : IsReading text start start [] where
  ordered := Nat.le_refl start
  bounded := h
  stands := by simp
  within := by simp
  apart := .nil
  blank := by omega

/-- A blank in front says nothing. -/
theorem after_blank {c : Char} (hc : text[start]? = some c) (hblank : isBlank c = true)
    (h : IsReading text (start + 1) stop spans) : IsReading text start stop spans where
  ordered := Nat.le_of_succ_le h.ordered
  bounded := h.bounded
  stands := h.stands
  within span hm := ⟨Nat.le_of_succ_le (h.within span hm).1, (h.within span hm).2⟩
  apart := h.apart
  blank i hi hlt hout := by
    rcases Nat.eq_or_lt_of_le hi with rfl | hi
    · exact ⟨c, hc, hblank⟩
    · exact h.blank i hi hlt hout

/-- A span in front is part of what is said. -/
theorem after_span {span : Span} (hstands : span.StandsIn text)
    (h : IsReading text span.stop stop spans) :
    IsReading text span.start stop (span :: spans) where
  ordered := Nat.le_trans (Nat.le_of_lt hstands.start_lt_stop) h.ordered
  bounded := h.bounded
  stands := List.forall_mem_cons.mpr ⟨hstands, h.stands⟩
  within := List.forall_mem_cons.mpr ⟨⟨Nat.le_refl _, h.ordered⟩, fun other hm =>
    ⟨Nat.le_trans (Nat.le_of_lt hstands.start_lt_stop) (h.within other hm).1,
      (h.within other hm).2⟩⟩
  apart := List.pairwise_cons.mpr ⟨fun other hm => (h.within other hm).1, h.apart⟩
  blank i hi hlt hout := by
    obtain ⟨hfirst, hothers⟩ := List.forall_mem_cons.mp hout
    exact h.blank i (Nat.le_of_not_lt fun hi' => hfirst ⟨hi, hi'⟩) hlt hothers

/-- A part is empty, or a blank stands in front, or a span. -/
theorem start_cases (h : IsReading text start stop spans) :
    (start = stop ∧ spans = []) ∨
    (∃ c, text[start]? = some c ∧ isBlank c = true ∧ IsReading text (start + 1) stop spans) ∨
    ∃ span others, spans = span :: others ∧ span.start = start ∧ span.StandsIn text ∧
      IsReading text span.stop stop others := by
  by_cases hfront : ∃ span ∈ spans, span.start = start
  · -- Nothing can stand before the span in front, so that it is the first one.
    right; right
    cases spans with
    | nil => simp at hfront
    | cons first others =>
      obtain ⟨hapart, hothers⟩ := List.pairwise_cons.mp h.apart
      have hstands := h.stands first List.mem_cons_self
      have hlt := hstands.start_lt_stop
      have hwithin := h.within first List.mem_cons_self
      have hfirst : first.start = start := by
        obtain ⟨span, hm, hspan⟩ := hfront
        rcases List.mem_cons.mp hm with rfl | hm
        · exact hspan
        · have hbehind := hapart span hm
          omega
      refine ⟨first, others, rfl, hfirst, hstands, hwithin.2, h.bounded, ?_, ?_, hothers, ?_⟩
      · exact fun span hm => h.stands span (List.mem_cons_of_mem _ hm)
      · exact fun span hm => ⟨hapart span hm, (h.within span (List.mem_cons_of_mem _ hm)).2⟩
      · intro i hi hi' hout
        exact h.blank i (by omega) hi' (List.forall_mem_cons.mpr ⟨by omega, hout⟩)
  · have hlater : ∀ span ∈ spans, start + 1 ≤ span.start := fun span hm =>
      Nat.lt_of_le_of_ne (h.within span hm).1 fun heq => hfront ⟨span, hm, heq.symm⟩
    rcases Nat.eq_or_lt_of_le h.ordered with heq | hlt
    · refine .inl ⟨heq, List.eq_nil_iff_forall_not_mem.mpr fun span hm => ?_⟩
      have hspan := (h.stands span hm).start_lt_stop
      have hwithin := h.within span hm
      omega
    · obtain ⟨c, hc, hblank⟩ := h.blank start (Nat.le_refl start) hlt fun span hm hcovers => by
        have hlaterSpan := hlater span hm
        omega
      exact .inr (.inl ⟨c, hc, hblank, hlt, h.bounded, h.stands,
        fun span hm => ⟨hlater span hm, (h.within span hm).2⟩, h.apart,
        fun i hi => h.blank i (Nat.le_of_succ_le hi)⟩)

/-- Where nothing starts, neither a blank is found nor a span. -/
theorem eq_of_nothingStarts (h : IsReading text start stop spans)
    (hnothing : NothingStarts (text.drop start)) : start = stop ∧ spans = [] := by
  rcases h.start_cases with hempty | ⟨c, hc, hblank, -⟩ | ⟨span, others, -, rfl, hstands, -⟩
  · exact hempty
  · have hhead := hnothing.1 c (by rw [List.head?_drop, hc]; rfl)
    rw [hblank] at hhead
    cases hhead
  · exact absurd hstands.found (hnothing.2 _ _ hstands.spelled)

/-- A text is read in one way up to a place where nothing starts. -/
theorem unique {place : Nat} {others : List Span} (h : IsReading text start stop spans)
    (h' : IsReading text start place others) (hstop : NothingStarts (text.drop stop))
    (hplace : NothingStarts (text.drop place)) : place = stop ∧ others = spans := by
  induction hn : stop - start using Nat.strongRecOn generalizing start spans others with
  | ind n ih =>
    rcases h.start_cases with ⟨rfl, rfl⟩ | ⟨c, hc, hblank, htail⟩ |
      ⟨span, behind, rfl, rfl, hstands, htail⟩
    · obtain ⟨rfl, hnil⟩ := h'.eq_of_nothingStarts hstop
      exact ⟨rfl, hnil⟩
    · rcases h'.start_cases with ⟨rfl, -⟩ | ⟨-, -, -, htail'⟩ | ⟨other, -, -, rfl, hother, -⟩
      · have hempty := h.eq_of_nothingStarts hplace
        have hordered := htail.ordered
        omega
      · have hordered := htail.ordered
        exact ih _ (by omega) htail htail' rfl
      · rw [hother.not_isBlank hc] at hblank
        cases hblank
    · rcases h'.start_cases with ⟨rfl, -⟩ | ⟨c, hc, hblank, -⟩ |
        ⟨other, behind', rfl, hsame, hother, htail'⟩
      · exact absurd hstands.found (hplace.2 _ _ hstands.spelled)
      · rw [hstands.not_isBlank hc] at hblank
        cases hblank
      · obtain rfl := hother.eq hstands hsame
        have hlt := hstands.start_lt_stop
        have hordered := htail.ordered
        obtain ⟨hsameStop, hbehind⟩ := ih _ (by omega) htail htail' rfl
        exact ⟨hsameStop, congrArg (other :: ·) hbehind⟩

/-- The tokens that are read stand one behind the other, and the end behind them. -/
theorem pairwise_position (h : IsReading text start stop spans) :
    (tokensUpTo stop spans).Pairwise fun token other => token.position < other.position := by
  rw [tokensUpTo, List.pairwise_append, List.pairwise_map]
  refine ⟨h.apart.imp_of_mem fun hm _ happart => ?_, List.pairwise_singleton _ _, ?_⟩
  · exact Nat.lt_of_lt_of_le (h.stands _ hm).start_lt_stop happart
  · intro token hm last hlast
    obtain ⟨span, hspan, rfl⟩ := List.mem_map.mp hm
    rw [List.mem_singleton.mp hlast]
    exact Nat.lt_of_lt_of_le (h.stands _ hspan).start_lt_stop (h.within _ hspan).2

end IsReading

namespace Token

/-- What is said of a text that was read up to a place where nothing starts: its tokens if that is
its end, and otherwise its stray character. -/
def readUpTo (text : List Char) (stop : Nat) (spans : List Span) :
    Except StrayCharacter (List Token) :=
  match text[stop]? with
  | none => .ok (tokensUpTo stop spans)
  | some c => .error ⟨c, stop⟩

/-- A span in front adds its token. -/
theorem map_readUpTo (text : List Char) (stop : Nat) (span : Span) (spans : List Span) :
    (readUpTo text stop spans).map (span.token :: ·) = readUpTo text stop (span :: spans) := by
  unfold readUpTo
  cases text[stop]? with
  | none => rfl
  | some c => rfl

/-- The first token of a text stands at its start. -/
theorem standsIn_of_first? {text rest : List Char} {start more : Nat} {c : Char}
    {lexeme : Lexeme}
    (hcs : text.drop start = c :: rest) (h : first? c rest = some (lexeme, more)) :
    ∃ spelling, spelling.length = more + 1 ∧
      Span.StandsIn ⟨⟨lexeme, start⟩, spelling⟩ text := by
  obtain ⟨spelling, others, heq, hlength, hspells⟩ := spells_of_first? h
  refine ⟨spelling, hlength, hspells, ⟨others, (hcs.trans heq).symm⟩, ?_⟩
  rintro other lexeme' hother ⟨tail, htail⟩
  obtain ⟨found, more', hfound, hle⟩ := exists_first?_of_spells hother (hcs.symm.trans htail.symm)
  rw [h] at hfound
  obtain ⟨-, rfl⟩ := Prod.mk.inj (Option.some.inj hfound)
  exact Nat.le_trans hle (Nat.le_of_eq hlength.symm)

/-- The scanner reads spans of a text from a place on, up to another place where nothing starts. -/
structure Scans (text : List Char) (start stop : Nat) (spans : List Span) : Prop where
  /-- The spans are what the part says. -/
  reading : IsReading text start stop spans
  /-- Nothing starts behind it. -/
  nothing : NothingStarts (text.drop stop)
  /-- This is what the scanner says. -/
  result : scanFrom start (text.drop start) = readUpTo text stop spans

section

variable {text rest : List Char} {start stop more : Nat} {spans : List Span} {c : Char}
  {lexeme : Lexeme}

/-- At the end of a text nothing is left to be read. -/
theorem scans_end (h : start ≤ text.length) (hcs : text.drop start = []) :
    Scans text start start [] where
  reading := .empty h
  nothing := by
    rw [hcs]
    refine ⟨by simp, fun spelling lexeme hspells hprefix => ?_⟩
    exact ne_nil_of_spells hspells (List.prefix_nil.mp hprefix)
  result := by
    have hnone : text[start]? = none := by
      rw [← List.head?_drop, hcs, List.head?_nil]
    rw [hcs, scanFrom, readUpTo, hnone]
    rfl

theorem getElem?_of_drop (hcs : text.drop start = c :: rest) : text[start]? = some c := by
  rw [← List.head?_drop, hcs, List.head?_cons]

theorem drop_of_drop (hcs : text.drop start = c :: rest) (more : Nat) :
    text.drop (start + 1 + more) = rest.drop more := by
  rw [← List.drop_drop, ← List.drop_drop, hcs, List.drop_succ_cons, List.drop_zero]

/-- Reading stops at a character that no token starts with. -/
theorem scans_stray (hcs : text.drop start = c :: rest) (hblank : isBlank c = false)
    (hnone : first? c rest = none) : Scans text start start [] where
  reading := .empty (Nat.le_of_lt (List.getElem?_eq_some_iff.mp (getElem?_of_drop hcs)).1)
  nothing := by
    rw [hcs]
    refine ⟨by simpa using hblank, ?_⟩
    rintro spelling lexeme hspells ⟨others, heq⟩
    obtain ⟨found, more, hsome, -⟩ := exists_first?_of_spells hspells heq.symm
    rw [hnone] at hsome
    cases hsome
  result := by
    rw [readUpTo, getElem?_of_drop hcs, hcs, scanFrom, if_neg (by simp [hblank]), hnone]

/-- A blank is skipped. -/
theorem Scans.after_blank (hcs : text.drop start = c :: rest) (hblank : isBlank c = true)
    (h : Scans text (start + 1) stop spans) : Scans text start stop spans where
  reading := h.reading.after_blank (getElem?_of_drop hcs) hblank
  nothing := h.nothing
  result := by
    have hresult := h.result
    rw [← Nat.add_zero (start + 1), drop_of_drop hcs, List.drop_zero] at hresult
    rw [hcs, scanFrom, if_pos hblank]
    exact hresult

/-- A first token is read, and reading goes on behind it. -/
theorem Scans.after_first (hcs : text.drop start = c :: rest) (hblank : isBlank c = false)
    (hsome : first? c rest = some (lexeme, more))
    (h : Scans text (start + 1 + more) stop spans) :
    ∃ span, Scans text start stop (span :: spans) := by
  obtain ⟨spelling, hlength, hstands⟩ := standsIn_of_first? hcs hsome
  have hstop : Span.stop ⟨⟨lexeme, start⟩, spelling⟩ = start + 1 + more := by
    simp only [Span.stop, hlength]
    omega
  refine ⟨⟨⟨lexeme, start⟩, spelling⟩, .after_span hstands (hstop ▸ h.reading), h.nothing, ?_⟩
  have hresult := h.result
  rw [drop_of_drop hcs] at hresult
  rw [hcs, scanFrom, if_neg (by simp [hblank]), hsome, ← map_readUpTo, ← hresult]

end

/-- The scanner reads a text from any place on up to a place where nothing starts. -/
theorem exists_scans {text : List Char} {start : Nat} (h : start ≤ text.length) :
    ∃ stop spans, Scans text start stop spans := by
  induction hn : text.length - start using Nat.strongRecOn generalizing start with
  | ind n ih =>
    cases hcs : text.drop start with
    | nil => exact ⟨start, [], scans_end h hcs⟩
    | cons c rest =>
      have hlt : start < text.length := (List.getElem?_eq_some_iff.mp (getElem?_of_drop hcs)).1
      cases hblank : isBlank c with
      | true =>
        obtain ⟨stop, spans, hscans⟩ := ih _ (by omega) hlt rfl
        exact ⟨stop, spans, hscans.after_blank hcs hblank⟩
      | false =>
        cases hfirst : first? c rest with
        | none => exact ⟨start, [], scans_stray hcs hblank hfirst⟩
        | some found =>
          obtain ⟨lexeme, more⟩ := found
          have hbehind : start + 1 + more ≤ text.length := by
            have hmore := le_length_of_first? hfirst
            have hlength := congrArg List.length hcs
            rw [List.length_drop, List.length_cons] at hlength
            omega
          obtain ⟨stop, spans, hscans⟩ := ih _ (by omega) hbehind rfl
          obtain ⟨span, hspan⟩ := hscans.after_first hcs hblank hfirst
          exact ⟨stop, span :: spans, hspan⟩

/-- Scanning loses nothing. A text has tokens if it can be read up to its end, and then the tokens
are those that were read, each further on than the one before, and the end of the text behind them.
Otherwise there is one place up to which it can be read and where nothing starts, and this is the
place of the character that the scanner, and with it the reader of conditions, complains about. -/
theorem scan_lossless (text : String) :
    (∃ spans, IsReading text.toList 0 text.length spans ∧
      scan text = .ok (tokensUpTo text.length spans) ∧
      (tokensUpTo text.length spans).Pairwise fun token other =>
        token.position < other.position) ∨
    (∃ spans c stop, IsReading text.toList 0 stop spans ∧ text.toList[stop]? = some c ∧
      NothingStarts (text.toList.drop stop) ∧
      (∀ others place, IsReading text.toList 0 place others →
        NothingStarts (text.toList.drop place) → place = stop ∧ others = spans) ∧
      scan text = .error ⟨c, stop⟩ ∧ Condition.read text = .error (.stray c stop)) := by
  obtain ⟨stop, spans, hreading, hnothing, hscan⟩ := exists_scans (Nat.zero_le text.toList.length)
  rw [List.drop_zero, readUpTo] at hscan
  cases hc : text.toList[stop]? with
  | none =>
    have hstop : stop = text.length := by
      rw [← String.length_toList]
      exact Nat.le_antisymm hreading.bounded (List.getElem?_eq_none_iff.mp hc)
    subst hstop
    exact .inl ⟨spans, hreading, by rw [scan, hscan, hc], hreading.pairwise_position⟩
  | some c =>
    have hstray : scan text = .error ⟨c, stop⟩ := by rw [scan, hscan, hc]
    refine .inr ⟨spans, c, stop, hreading, hc, hnothing, ?_, hstray, by rw [Condition.read, hstray]⟩
    exact fun others place hother hplace => hreading.unique hother hnothing hplace

end Token

end Intake
