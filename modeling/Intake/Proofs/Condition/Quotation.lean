import Intake.Proofs.Condition.Language
import Intake.Proofs.Condition.Scanning
import Mathlib.Data.List.Basic

/-!
# What quoted texts denote

Of the backslashes between two quotes, those escape what follows before which an even number of
others stand. The scanner and the reader tell them alike: a quoted text ends at the first quote that
none of them escapes, and it denotes what is between its quotes without them. Main statement: every
quoted text of a condition denotes this, and every text is denoted by itself with a backslash in
front of each backslash and each quote.
-/

namespace Intake

namespace Token

/-- A text with a backslash in front of each backslash and each quote. -/
def escape (quote : Char) (cs : List Char) : List Char :=
  cs.flatMap fun c => if c = '\\' ∨ c = quote then ['\\', c] else [c]

/-- A text in quotes, in which backslashes and quotes are escaped. -/
def quotation (quote : Char) (s : String) : List Char := quote :: (escape quote s.toList ++ [quote])

theorem escape_cons (quote c : Char) (rest : List Char) :
    escape quote (c :: rest) =
      (if c = '\\' ∨ c = quote then ['\\', c] else [c]) ++ escape quote rest :=
  List.flatMap_cons

/-- What is escaped, and the closing quote behind it, end at this quote. -/
theorem isQuotedRest_escape {quote : Char} (hline : quote ≠ '\n') (cs : List Char) :
    IsQuotedRest quote (escape quote cs ++ [quote]) := by
  induction cs with
  | nil => exact .close
  | cons c rest ih =>
    rw [escape_cons]
    split
    · next hescaped =>
      have hc : c ≠ '\n' := by
        rcases hescaped with rfl | rfl
        · decide
        · exact hline
      exact .escaped hc ih
    · next hplain => exact .plain (not_or.mp hplain).2 (not_or.mp hplain).1 ih

/-- What is escaped is unescaped. -/
theorem unescape_escape {quote : Char} (hline : quote ≠ '\n') (cs : List Char) :
    unescape (escape quote cs) = cs := by
  induction cs with
  | nil => rfl
  | cons c rest ih =>
    rw [escape_cons]
    split
    · next hescaped =>
      have hc : c ≠ '\n' := by
        rcases hescaped with rfl | rfl
        · decide
        · exact hline
      rw [List.cons_append, List.cons_append, List.nil_append, unescape, if_neg hc, ih]
    · next hplain =>
      rw [List.cons_append, List.nil_append, unescape, ih]
      exact (not_or.mp hplain).1

/-- Characters that spell a lexeme make up one token. -/
theorem scan_of_spells {spelling : List Char} {lexeme : Lexeme} (h : Spells spelling lexeme) :
    scan (String.ofList spelling) = .ok [⟨lexeme, 0⟩, ⟨.finish, spelling.length⟩] := by
  obtain ⟨c, rest, rfl⟩ := List.exists_cons_of_ne_nil (ne_nil_of_spells h)
  have hblank : ¬ isBlank c = true := by simp [not_isBlank_of_spells h]
  have hlength : 0 + 1 + rest.length = (c :: rest).length := by
    rw [List.length_cons]
    omega
  rw [scan, String.toList_ofList, scanFrom, if_neg hblank, first?_of_spells h]
  dsimp only
  rw [List.drop_length, scanFrom, hlength]
  rfl

/-- Characters that spell a lexeme say it. -/
theorem says_of_spells {spelling : List Char} {lexeme : Lexeme} (h : Spells spelling lexeme) :
    Says spelling [lexeme] := by
  obtain ⟨c, rest, rfl⟩ := List.exists_cons_of_ne_nil (ne_nil_of_spells h)
  refine .first (not_isBlank_of_spells h) (first?_of_spells h) ?_
  rw [List.drop_length]
  exact .nothing

/-- A quoted text is read as a literal. -/
theorem read_of_spells_quoted {quoted : List Char} (h : Spells quoted (.quoted quoted)) :
    Condition.read (String.ofList quoted) = .ok (.literal (.text (quotedLiteral quoted))) := by
  refine (Condition.read_eq_ok_iff _ _).mpr ⟨[.quoted quoted], ?_, ?_⟩
  · rw [String.toList_ofList]
    exact says_of_spells h
  · exact .oneConjunction (.oneNegation (.notNegated (.oneOperand (.quoted quoted))))

section

variable {quote : Char} (hquote : quote = '"' ∨ quote = '\'') (s : String)

include hquote

/-- A text in quotes, escaped, spells a quoted text. -/
theorem spells_quotation : Spells (quotation quote s) (.quoted (quotation quote s)) := by
  have hline : quote ≠ '\n' := by rcases hquote with rfl | rfl <;> decide
  exact .quoted ⟨quote, _, hquote, isQuotedRest_escape hline s.toList, rfl⟩

/-- It stands for the text that is escaped. -/
theorem quotedLiteral_quotation : quotedLiteral (quotation quote s) = s := by
  have hline : quote ≠ '\n' := by rcases hquote with rfl | rfl <;> decide
  simp [quotedLiteral, quotation, unescape_escape hline]

end

/-- How many backslashes stand directly before a place. -/
def backslashesBefore (cs : List Char) (i : Nat) : Nat :=
  ((cs.take i).reverse.takeWhile (· == '\\')).length

/-- At a place stands a backslash that escapes what follows: it is not escaped itself. -/
def IsEscaping (cs : List Char) (i : Nat) : Prop :=
  cs[i]? = some '\\' ∧ backslashesBefore cs i % 2 = 0

instance (cs : List Char) (i : Nat) : Decidable (IsEscaping cs i) :=
  inferInstanceAs (Decidable (_ ∧ _))

/-- A text without the backslashes that escape what follows. -/
def withoutEscaping (cs : List Char) : List Char :=
  (List.range cs.length).filterMap fun i => if IsEscaping cs i then none else cs[i]?

/-- What stands between quotes denotes a text: itself without the backslashes that escape what
follows. Each of these stands before a character that is no line feed, and one stands before each
quote. -/
structure Denotes (quote : Char) (body denoted : List Char) : Prop where
  /-- The backslashes that escape what follows are left out. -/
  unescaped : denoted = withoutEscaping body
  /-- Each of them escapes a character. -/
  escapes : ∀ i, IsEscaping body i → ∃ c, body[i + 1]? = some c ∧ c ≠ '\n'
  /-- Each quote is escaped. -/
  enclosed : ∀ i, body[i]? = some quote → ∃ j, i = j + 1 ∧ IsEscaping body j

section

variable {quote : Char} {before cs : List Char}

/-- What follows has no part in what a place escapes. -/
theorem isEscaping_append_left {i : Nat} (hi : i < before.length) :
    IsEscaping (before ++ cs) i ↔ IsEscaping before i := by
  unfold IsEscaping backslashesBefore
  rw [List.getElem?_append_left hi, List.take_append_of_le_length (Nat.le_of_lt hi)]

/-- Neither has what stands in front if it ends in an even number of backslashes. -/
theorem isEscaping_append_right (heven : backslashesBefore before before.length % 2 = 0) (i : Nat) :
    IsEscaping (before ++ cs) (before.length + i) ↔ IsEscaping cs i := by
  have hplace : (before ++ cs)[before.length + i]? = cs[i]? := by
    rw [List.getElem?_append_right (Nat.le_add_right ..), Nat.add_sub_cancel_left]
  unfold IsEscaping
  unfold backslashesBefore at heven ⊢
  rw [List.take_length] at heven
  rw [hplace, List.take_length_add_append, List.reverse_append, List.takeWhile_append]
  split
  · next hall =>
    rw [List.length_append, ← hall]
    refine and_congr_right fun _ => ?_
    omega
  · rfl

/-- Parts are unescaped one by one where the first one ends in an even number of backslashes. -/
theorem withoutEscaping_append (heven : backslashesBefore before before.length % 2 = 0) :
    withoutEscaping (before ++ cs) = withoutEscaping before ++ withoutEscaping cs := by
  unfold withoutEscaping
  rw [List.length_append, List.range_add, List.filterMap_append, List.filterMap_map]
  congr 1
  · refine List.filterMap_congr fun i hi => ?_
    have hlt := List.mem_range.mp hi
    simp only [isEscaping_append_left hlt, List.getElem?_append_left hlt]
  · refine List.filterMap_congr fun i _ => ?_
    simp only [Function.comp_apply, isEscaping_append_right heven,
      List.getElem?_append_right (Nat.le_add_right before.length i), Nat.add_sub_cancel_left]

/-- What parts denote, they denote together if the first one ends in an even number of backslashes.
-/
theorem Denotes.append {first second : List Char} (h : Denotes quote before first)
    (heven : backslashesBefore before before.length % 2 = 0) (h' : Denotes quote cs second) :
    Denotes quote (before ++ cs) (first ++ second) where
  unescaped := by rw [withoutEscaping_append heven, h.unescaped, h'.unescaped]
  escapes i hi := by
    rcases Nat.lt_or_ge i before.length with hlt | hge
    · obtain ⟨c, hc, hline⟩ := h.escapes i ((isEscaping_append_left hlt).mp hi)
      have hnext := (List.getElem?_eq_some_iff.mp hc).1
      exact ⟨c, by rwa [List.getElem?_append_left hnext], hline⟩
    · obtain ⟨j, rfl⟩ := Nat.exists_eq_add_of_le hge
      obtain ⟨c, hc, hline⟩ := h'.escapes j ((isEscaping_append_right heven j).mp hi)
      refine ⟨c, ?_, hline⟩
      rwa [Nat.add_assoc, List.getElem?_append_right (Nat.le_add_right ..), Nat.add_sub_cancel_left]
  enclosed i hi := by
    rcases Nat.lt_or_ge i before.length with hlt | hge
    · rw [List.getElem?_append_left hlt] at hi
      obtain ⟨j, rfl, hj⟩ := h.enclosed i hi
      exact ⟨j, rfl, (isEscaping_append_left (Nat.lt_of_succ_lt hlt)).mpr hj⟩
    · obtain ⟨k, rfl⟩ := Nat.exists_eq_add_of_le hge
      rw [List.getElem?_append_right hge, Nat.add_sub_cancel_left] at hi
      obtain ⟨j, rfl, hj⟩ := h'.enclosed k hi
      exact ⟨before.length + j, rfl, (isEscaping_append_right heven j).mpr hj⟩

/-- Nothing denotes nothing. -/
theorem denotes_nil : Denotes quote [] [] where
  unescaped := rfl
  escapes i hi := by cases hi.1
  enclosed i hi := by cases hi

/-- A character that is neither a backslash nor the quote denotes itself. -/
theorem Denotes.plain {c : Char} {denoted : List Char} (hquote : c ≠ quote) (hslash : c ≠ '\\')
    (h : Denotes quote cs denoted) : Denotes quote (c :: cs) (c :: denoted) := by
  have honly {i : Nat} {d : Char} (hd : [c][i]? = some d) : d = c :=
    List.mem_singleton.mp (List.mem_of_getElem? hd)
  have hpart : Denotes quote [c] [c] := by
    constructor
    · simp [withoutEscaping, IsEscaping, hslash]
    · exact fun i hi => absurd (honly hi.1).symm hslash
    · exact fun i hi => absurd (honly hi).symm hquote
  have heven : backslashesBefore [c] 1 % 2 = 0 := by simp [backslashesBefore, hslash]
  exact hpart.append heven h

/-- A backslash and the character that it escapes denote the character. -/
theorem Denotes.escaped {c : Char} {denoted : List Char} (hquote : quote ≠ '\\') (hline : c ≠ '\n')
    (h : Denotes quote cs denoted) : Denotes quote ('\\' :: c :: cs) (c :: denoted) := by
  have hsecond : backslashesBefore ['\\', c] 1 = 1 := rfl
  have hpart : Denotes quote ['\\', c] [c] := by
    constructor
    · simp [withoutEscaping, List.range_succ, IsEscaping, backslashesBefore]
    · rintro (_ | _ | i) ⟨hi, heven⟩
      · exact ⟨c, rfl, hline⟩
      · rw [hsecond] at heven
        cases heven
      · cases hi
    · rintro (_ | _ | i) hi
      · exact absurd (Option.some.inj hi).symm hquote
      · exact ⟨0, rfl, rfl, rfl⟩
      · cases hi
  have heven : backslashesBefore ['\\', c] 2 % 2 = 0 := by
    unfold backslashesBefore
    by_cases hc : c = '\\' <;> simp [hc]
  exact hpart.append heven h

end

/-- What stands between quotes denotes what the reader makes of it. -/
theorem exists_denotes_of_isQuotedRest {quote : Char} {inside : List Char} (hslash : quote ≠ '\\')
    (h : IsQuotedRest quote inside) :
    ∃ body, inside = body ++ [quote] ∧ Denotes quote body (unescape body) := by
  induction h with
  | close => exact ⟨[], rfl, denotes_nil⟩
  | @plain c rest hquote hplain _ ih =>
    obtain ⟨body, rfl, hbody⟩ := ih
    have hread : unescape (c :: body) = c :: unescape body := by rw [unescape]; exact hplain
    exact ⟨c :: body, rfl, hread ▸ hbody.plain hquote hplain⟩
  | @escaped c rest hline _ ih =>
    obtain ⟨body, rfl, hbody⟩ := ih
    have hread : unescape ('\\' :: c :: body) = c :: unescape body := by rw [unescape, if_neg hline]
    exact ⟨'\\' :: c :: body, rfl, hread ▸ hbody.escaped hslash hline⟩

/-- A quoted text denotes what the reader makes of it. -/
theorem exists_denotes_of_isQuotedText {quoted : List Char} (h : IsQuotedText quoted) :
    ∃ quote body denoted, (quote = '"' ∨ quote = '\'') ∧ quoted = quote :: (body ++ [quote]) ∧
      Denotes quote body denoted ∧ quotedLiteral quoted = String.ofList denoted := by
  obtain ⟨quote, inside, hquote, hinside, rfl⟩ := h
  have hslash : quote ≠ '\\' := by rcases hquote with rfl | rfl <;> decide
  obtain ⟨body, rfl, hbody⟩ := exists_denotes_of_isQuotedRest hslash hinside
  exact ⟨quote, body, unescape body, hquote, rfl, hbody, by simp [quotedLiteral]⟩

/-- A token of a text, but for the end, is spelled by characters that stand at its place. -/
theorem exists_spells_of_mem_scan {text : String} {tokens : List Token} (h : scan text = .ok tokens)
    {token : Token} (hm : token ∈ tokens) (hinner : token.lexeme ≠ .finish) :
    ∃ spelling, Spells spelling token.lexeme ∧ spelling <+: text.toList.drop token.position := by
  obtain ⟨stop, spans, hreading, -, hscan⟩ := exists_scans (Nat.zero_le text.toList.length)
  rw [List.drop_zero, ← scan, h, readUpTo] at hscan
  split at hscan
  · cases hscan
    rcases List.mem_append.mp hm with hm | hm
    · obtain ⟨span, hspan, rfl⟩ := List.mem_map.mp hm
      have hstands := hreading.stands span hspan
      exact ⟨span.spelling, hstands.spelled, hstands.found⟩
    · exact absurd (congrArg lexeme (List.mem_singleton.mp hm)) hinner
  · cases hscan

/-- A text in quotes, its backslashes and these quotes being escaped, is one token and a literal for
the text. A quoted text among the tokens of a condition ends at the first quote that is not escaped
and denotes what is between its quotes without the backslashes that escape what follows, before each
of which an even number of backslashes stand. -/
theorem quoted_denotes_unescaped :
    (∀ quote : Char, quote = '"' ∨ quote = '\'' → ∀ s : String,
      scan (String.ofList (quotation quote s)) =
        .ok [⟨.quoted (quotation quote s), 0⟩, ⟨.finish, (quotation quote s).length⟩] ∧
      Condition.read (String.ofList (quotation quote s)) = .ok (.literal (.text s))) ∧
    ∀ (text : String) (tokens : List Token), scan text = .ok tokens →
      ∀ token ∈ tokens, ∀ quoted, token.lexeme = .quoted quoted →
        quoted <+: text.toList.drop token.position ∧
        ∃ quote body denoted, (quote = '"' ∨ quote = '\'') ∧ quoted = quote :: (body ++ [quote]) ∧
          Denotes quote body denoted ∧ quotedLiteral quoted = String.ofList denoted := by
  constructor
  · intro quote hquote s
    have hspells := spells_quotation hquote s
    have hread := read_of_spells_quoted hspells
    rw [quotedLiteral_quotation hquote] at hread
    exact ⟨scan_of_spells hspells, hread⟩
  · intro text tokens hscan token hm quoted hlexeme
    obtain ⟨spelling, hspells, hfound⟩ := exists_spells_of_mem_scan hscan hm (by simp [hlexeme])
    rw [hlexeme] at hspells
    cases hspells with
    | quoted hquoted => exact ⟨hfound, exists_denotes_of_isQuotedText hquoted⟩

/-- A backslash and an apostrophe are written with a backslash in front of each, between
apostrophes, and this is what the token denotes. -/
theorem quoted_denotes_unescaped_apostrophe :
    Condition.read "'\\\\\\''" = .ok (.literal (.text "\\'")) ∧
      ∃ tokens, scan "'\\\\\\''" = .ok tokens ∧ ∃ token ∈ tokens,
        token.lexeme = .quoted "'\\\\\\''".toList ∧
        ∃ quote body denoted, (quote = '"' ∨ quote = '\'') ∧
          "'\\\\\\''".toList = quote :: (body ++ [quote]) ∧ Denotes quote body denoted ∧
          quotedLiteral "'\\\\\\''".toList = String.ofList denoted := by
  have htext : quotation '\'' "\\'" = "'\\\\\\''".toList := by decide
  obtain ⟨hscan, hread⟩ := quoted_denotes_unescaped.1 '\'' (.inr rfl) "\\'"
  rw [htext, String.ofList_toList] at hscan hread
  obtain ⟨-, hdenotes⟩ :=
    quoted_denotes_unescaped.2 _ _ hscan _ List.mem_cons_self _ rfl
  exact ⟨hread, _, hscan, _, List.mem_cons_self, rfl, hdenotes⟩

end Token

end Intake
