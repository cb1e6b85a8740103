import Intake.Proofs.Condition.Reading

/-!
# The language of conditions

Every phrase of the grammar is taken whole where the next lexeme cannot go on with it. Together with
what the readers take this makes the reader of conditions a decision of the grammar: a text is read
exactly if its tokens make up a disjunction, each sequence of lexemes stands for at most one
condition, and any other text has a fault of syntax. Where in the text a fault is found is not
covered.
-/

namespace Intake

namespace Condition

/-- A reader makes something of tokens and leaves others. -/
def Reads {α : Type} (read : TokenReader α) (tokens : List Token) (a : α) (rest : List Token) :
    Prop :=
  ∃ h, read tokens = .ok (a, ⟨rest, h⟩)

/-- Whether a phrase that could end goes on if a lexeme follows. -/
def goesOn : Phrase → Lexeme → Bool
  | .operand, _ => false
  | _, .comparison _ => true
  | .conjunction, .both => true
  | .disjunction, .both => true
  | .disjunction, .either => true
  | _, _ => false

/-- A phrase ends where other tokens start. -/
def EndsBefore (phrase : Phrase) (rest : List Token) : Prop :=
  ∀ token ∈ rest.head?, goesOn phrase token.lexeme = false

/-- Where a phrase ends, those that go on less end too. -/
theorem EndsBefore.mono {upper lower : Phrase} {rest : List Token} (h : EndsBefore upper rest)
    (less : ∀ lexeme, goesOn lower lexeme = true → goesOn upper lexeme = true) :
    EndsBefore lower rest := by
  intro token hm
  have hu := h token hm
  cases hl : goesOn lower token.lexeme with
  | false => rfl
  | true =>
    rw [less _ hl] at hu
    cases hu

/-- Where a comparison ends, no comparison follows. -/
theorem nextComparison?_of_endsBefore {rest : List Token} (h : EndsBefore .comparison rest) :
    nextComparison? rest = none := by
  unfold nextComparison?
  split
  · exact absurd (h _ rfl) (by simp [goesOn])
  · rfl

/-- An operand is taken alone where no comparison follows. -/
theorem reads_comparison_of_operand {inner : TokenReader Condition} {tokens rest : List Token}
    {c : Condition} (h : Reads (readOperand inner) tokens c rest)
    (he : EndsBefore .comparison rest) : Reads (readComparison inner) tokens c rest := by
  obtain ⟨hl, hr⟩ := h
  refine ⟨hl, ?_⟩
  rw [readComparison, hr]
  split
  · rename_i hf
    cases hf
  · rename_i hf
    cases hf
    exact absurd (he _ rfl) (by simp [goesOn])
  · rename_i hf
    cases hf
    rfl

/-- Two operands with a comparison between them are taken where no other comparison follows. -/
theorem reads_comparison_of_operands {inner : TokenReader Condition}
    {tokens others rest : List Token} {a b : Condition} {how : Comparison} {position : Nat}
    (hleft : Reads (readOperand inner) tokens a (⟨.comparison how, position⟩ :: others))
    (hright : Reads (readOperand inner) others b rest) (he : EndsBefore .comparison rest) :
    Reads (readComparison inner) tokens (.comparison how a b) rest := by
  obtain ⟨hl, hf⟩ := hleft
  obtain ⟨hl', hs⟩ := hright
  refine ⟨by simp only [List.length_cons] at hl; omega, ?_⟩
  simp only [readComparison, hf, hs, nextComparison?_of_endsBefore he]
  rfl

/-- A negated negation is taken. -/
theorem reads_negated {inner : TokenReader Condition} {others rest : List Token} {c : Condition}
    {position : Nat} (h : Reads (readNegation inner) others c rest) :
    Reads (readNegation inner) (⟨.negated, position⟩ :: others) (.negation c) rest := by
  obtain ⟨hl, hr⟩ := h
  refine ⟨Nat.lt_succ_of_lt hl, ?_⟩
  simp only [readNegation, hr]

/-- Neither operands nor comparisons start with the sign of a negation. -/
theorem head_ne_negated_of_derives {phrase : Phrase} {ts : List Lexeme} {c : Condition}
    (h : Derives phrase ts c) (hp : phrase = .operand ∨ phrase = .comparison) :
    ts.head? ≠ some .negated := by
  induction h with
  | oneConjunction _ _ => simp at hp
  | conjunctions _ _ _ _ => simp at hp
  | oneNegation _ _ => simp at hp
  | negations _ _ _ _ => simp at hp
  | negated _ _ => simp at hp
  | notNegated _ _ => simp at hp
  | oneOperand _ ih => exact ih (.inl rfl)
  | compared how hl _ ih _ =>
    obtain ⟨first, more, he⟩ := List.exists_cons_of_ne_nil (ne_nil_of_derives hl)
    have hi := ih (.inl rfl)
    rw [he] at hi ⊢
    simpa using hi
  | number _ => simp
  | quoted _ => simp
  | word _ => simp
  | reference _ _ _ => simp
  | parenthesized _ _ => simp

/-- Tokens of lexemes that are put together are put together themselves. -/
theorem exists_of_lexemes_append {front : List Token} {ts us : List Lexeme}
    (h : lexemes front = ts ++ us) :
    ∃ first second, front = first ++ second ∧ lexemes first = ts ∧ lexemes second = us :=
  List.map_eq_append_iff.mp h

/-- The token of a lexeme in front is in front. -/
theorem exists_of_lexemes_cons {front : List Token} {lexeme : Lexeme} {us : List Lexeme}
    (h : lexemes front = lexeme :: us) :
    ∃ position others, front = ⟨lexeme, position⟩ :: others ∧ lexemes others = us := by
  obtain ⟨⟨_, position⟩, others, rfl, rfl, hu⟩ := List.map_eq_cons_iff.mp h
  exact ⟨position, others, rfl, hu⟩

/-- A chain of items is taken whole where no link follows. -/
theorem reads_chain {link : Lexeme} {lower : Phrase} {item : TokenReader Condition}
    (hlink : goesOn lower link = false) {parts : List (List Lexeme × Condition)}
    (hn : parts ≠ [])
    (hi : ∀ part ∈ parts, ∀ front rest, lexemes front = part.1 → EndsBefore lower rest →
      Reads item (front ++ rest) part.2 rest)
    {front rest : List Token}
    (hf : lexemes front = [link].intercalate (parts.map Prod.fst))
    (he : EndsBefore lower rest) (hr : ∀ token ∈ rest.head?, token.lexeme ≠ link) :
    ∃ h, readChain link item (front ++ rest) = .ok (parts.map Prod.snd, ⟨rest, h⟩) := by
  induction parts generalizing front with
  | nil => exact absurd rfl hn
  | cons part others ih =>
    have hp := hi part List.mem_cons_self
    by_cases ho : others = []
    · subst ho
      obtain ⟨hl, hread⟩ := hp front rest (by simpa using hf) he
      refine ⟨hl, ?_⟩
      rw [readChain, hread]
      cases rest with
      | nil => rfl
      | cons next more =>
        dsimp only
        rw [if_neg (hr next rfl)]
        rfl
    · have ho' : others.map Prod.fst ≠ [] := by simpa using ho
      rw [List.map_cons, List.intercalate_cons_of_ne_nil ho', List.append_assoc] at hf
      obtain ⟨first, second, rfl, hfirst, hsecond⟩ := exists_of_lexemes_append hf
      obtain ⟨position, third, rfl, hthird⟩ := exists_of_lexemes_cons hsecond
      have hends : EndsBefore lower (⟨link, position⟩ :: (third ++ rest)) := by
        intro token hm
        cases hm
        exact hlink
      obtain ⟨hl, hread⟩ := hp first _ hfirst hends
      obtain ⟨hl', hread'⟩ := ih ho (fun q hq => hi q (List.mem_cons_of_mem _ hq)) hthird
      have hc : first ++ ⟨link, position⟩ :: third ++ rest =
          first ++ ⟨link, position⟩ :: (third ++ rest) := by simp
      rw [hc]
      refine ⟨by simp only [List.length_cons] at hl; omega, ?_⟩
      rw [readChain]
      simp only [hread, hread', if_true]
      rfl

/-- The reader of a kind of phrase. -/
def reader (inner : TokenReader Condition) : Phrase → TokenReader Condition
  | .disjunction => readDisjunction inner
  | .conjunction => readConjunction inner
  | .negation => readNegation inner
  | .comparison => readComparison inner
  | .operand => readOperand inner

/-- Conjunctions with the sign of a disjunction between them are taken whole. -/
theorem reads_disjunction (inner : TokenReader Condition)
    {parts : List (List Lexeme × Condition)} (hn : parts ≠ [])
    (hi : ∀ part ∈ parts, ∀ front rest, lexemes front = part.1 → EndsBefore .conjunction rest →
      Reads (readConjunction inner) (front ++ rest) part.2 rest)
    {front rest : List Token}
    (hf : lexemes front = [Lexeme.either].intercalate (parts.map Prod.fst))
    (he : EndsBefore .disjunction rest) :
    Reads (readDisjunction inner) (front ++ rest)
      (joined .disjunction (parts.map Prod.snd)) rest := by
  have hlower : EndsBefore .conjunction rest := he.mono fun lexeme => by
    cases lexeme <;> simp [goesOn]
  have hr : ∀ token ∈ rest.head?, token.lexeme ≠ .either := by
    intro token hm ht
    have hg := he token hm
    rw [ht] at hg
    cases hg
  obtain ⟨hl, hread⟩ := reads_chain rfl hn hi hf hlower hr
  refine ⟨hl, ?_⟩
  rw [readDisjunction, hread]
  rfl

/-- Negations with the sign of a conjunction between them are taken whole. -/
theorem reads_conjunction (inner : TokenReader Condition)
    {parts : List (List Lexeme × Condition)} (hn : parts ≠ [])
    (hi : ∀ part ∈ parts, ∀ front rest, lexemes front = part.1 → EndsBefore .negation rest →
      Reads (readNegation inner) (front ++ rest) part.2 rest)
    {front rest : List Token}
    (hf : lexemes front = [Lexeme.both].intercalate (parts.map Prod.fst))
    (he : EndsBefore .conjunction rest) :
    Reads (readConjunction inner) (front ++ rest)
      (joined .conjunction (parts.map Prod.snd)) rest := by
  have hlower : EndsBefore .negation rest := he.mono fun lexeme => by
    cases lexeme <;> simp [goesOn]
  have hr : ∀ token ∈ rest.head?, token.lexeme ≠ .both := by
    intro token hm ht
    have hg := he token hm
    rw [ht] at hg
    cases hg
  obtain ⟨hl, hread⟩ := reads_chain rfl hn hi hf hlower hr
  refine ⟨hl, ?_⟩
  rw [readConjunction, hread]
  rfl

/-- A part of a chain is no longer than the chain. -/
theorem length_le_intercalate (link : Lexeme) {parts : List (List Lexeme)} {part : List Lexeme}
    (h : part ∈ parts) : part.length ≤ ([link].intercalate parts).length := by
  induction parts with
  | nil => cases h
  | cons first others ih =>
    by_cases hn : others = []
    · subst hn
      simp [List.mem_singleton.mp h]
    · rw [List.intercalate_cons_of_ne_nil hn, List.length_append, List.length_append]
      rcases List.mem_cons.mp h with rfl | hm
      · omega
      · have hle := ih hm
        omega

/-- Every phrase is taken whole where it ends, with the condition that it stands for. The budget
covers the parentheses, each of which is a lexeme. -/
theorem reads_of_derives {phrase : Phrase} {ts : List Lexeme} {c : Condition}
    (h : Derives phrase ts c) {budget : Nat} {front rest : List Token}
    (hf : lexemes front = ts) (hb : ts.length ≤ budget + 1) (he : EndsBefore phrase rest) :
    Reads (reader (readWithin budget) phrase) (front ++ rest) c rest := by
  induction h generalizing budget front rest with
  | @oneConjunction ts c hd ih =>
    refine reads_disjunction _ (List.cons_ne_nil (ts, c) []) ?_ (by simpa using hf) he
    intro part hm front rest hf he
    cases List.mem_singleton.mp hm
    exact ih hf hb he
  | conjunctions parts several hd ih =>
    have hn : parts ≠ [] := by
      intro h
      rw [h] at several
      cases several
    have hr := reads_disjunction (readWithin budget) hn ?_ hf he
    · rwa [joined_of_two_le (by simpa using several)] at hr
    · intro part hm front rest hf he
      have hle := length_le_intercalate .either (List.mem_map_of_mem (f := Prod.fst) hm)
      exact ih part hm hf (Nat.le_trans hle hb) he
  | @oneNegation ts c hd ih =>
    refine reads_conjunction _ (List.cons_ne_nil (ts, c) []) ?_ (by simpa using hf) he
    intro part hm front rest hf he
    cases List.mem_singleton.mp hm
    exact ih hf hb he
  | negations parts several hd ih =>
    have hn : parts ≠ [] := by
      intro h
      rw [h] at several
      cases several
    have hr := reads_conjunction (readWithin budget) hn ?_ hf he
    · rwa [joined_of_two_le (by simpa using several)] at hr
    · intro part hm front rest hf he
      have hle := length_le_intercalate .both (List.mem_map_of_mem (f := Prod.fst) hm)
      exact ih part hm hf (Nat.le_trans hle hb) he
  | negated hd ih =>
    obtain ⟨position, others, rfl, ho⟩ := exists_of_lexemes_cons hf
    exact reads_negated (ih ho (by simp only [List.length_cons] at hb; omega) he)
  | notNegated hd ih =>
    have hlower : EndsBefore .comparison rest := he.mono fun lexeme => by
      cases lexeme <;> simp [goesOn]
    obtain ⟨hl, hr⟩ := ih hf hb hlower
    obtain ⟨first, more, hts⟩ := List.exists_cons_of_ne_nil (ne_nil_of_derives hd)
    have hne := head_ne_negated_of_derives hd (.inr rfl)
    rw [hts] at hf hne
    obtain ⟨position, others, rfl, _⟩ := exists_of_lexemes_cons hf
    refine ⟨hl, ?_⟩
    simp only [List.cons_append] at hr hl ⊢
    rw [← hr]
    exact readNegation_of_ne _ (by simpa using hne) _
  | oneOperand hd ih =>
    exact reads_comparison_of_operand (ih hf hb (fun _ _ => rfl)) he
  | @compared ts us left right how hl hr ihl ihr =>
    obtain ⟨first, second, rfl, hfirst, hsecond⟩ := exists_of_lexemes_append hf
    obtain ⟨position, third, rfl, hthird⟩ := exists_of_lexemes_cons hsecond
    simp only [List.length_append, List.length_cons] at hb
    have hleft : Reads (readOperand (readWithin budget))
        (first ++ ⟨.comparison how, position⟩ :: (third ++ rest)) left
        (⟨.comparison how, position⟩ :: (third ++ rest)) :=
      ihl hfirst (by omega) fun _ _ => rfl
    have hright : Reads (readOperand (readWithin budget)) (third ++ rest) right rest :=
      ihr hthird (by omega) fun _ _ => rfl
    have hc := reads_comparison_of_operands hleft hright he
    rw [List.append_assoc]
    exact hc
  | number hv =>
    obtain ⟨position, others, rfl, ho⟩ := exists_of_lexemes_cons hf
    rw [List.map_eq_nil_iff.mp ho]
    refine ⟨by simp, ?_⟩
    simp only [reader, List.cons_append, readOperand, hv]
    rfl
  | quoted text =>
    obtain ⟨position, others, rfl, ho⟩ := exists_of_lexemes_cons hf
    rw [List.map_eq_nil_iff.mp ho]
    exact ⟨by simp, rfl⟩
  | word hw =>
    obtain ⟨position, others, rfl, ho⟩ := exists_of_lexemes_cons hf
    rw [List.map_eq_nil_iff.mp ho]
    refine ⟨by simp, ?_⟩
    simp only [reader, List.cons_append, readOperand, namedCondition_of_isWord hw]
    rfl
  | reference hr hn hk =>
    obtain ⟨position, others, rfl, ho⟩ := exists_of_lexemes_cons hf
    rw [List.map_eq_nil_iff.mp ho]
    refine ⟨by simp, ?_⟩
    simp only [reader, List.cons_append, readOperand, namedCondition_reference hr hn hk]
    rfl
  | @parenthesized ts c hd ih =>
    obtain ⟨position, others, rfl, ho⟩ := exists_of_lexemes_cons hf
    obtain ⟨inside, last, rfl, hinside, hlast⟩ := exists_of_lexemes_append ho
    obtain ⟨place, none, rfl, hnone⟩ := exists_of_lexemes_cons hlast
    rw [List.map_eq_nil_iff.mp hnone]
    obtain ⟨b, rfl⟩ : ∃ b, budget = b + 1 := by
      have hpos := List.length_pos_iff.mpr (ne_nil_of_derives hd)
      simp only [List.cons_append, List.length_cons, List.length_append] at hb
      exact ⟨budget - 1, by omega⟩
    simp only [List.cons_append, List.length_cons, List.length_append, List.length_nil] at hb
    have hclosing : EndsBefore .disjunction (⟨.closing, place⟩ :: rest) := by
      intro token hm
      cases hm
      rfl
    have hread : Reads (readWithin (b + 1)) (inside ++ ⟨.closing, place⟩ :: rest) c
        (⟨.closing, place⟩ :: rest) := ih hinside (by omega) hclosing
    obtain ⟨hl, hr⟩ := hread
    have hc : ⟨.opening, position⟩ :: (inside ++ [⟨.closing, place⟩]) ++ rest =
        ⟨.opening, position⟩ :: (inside ++ ⟨.closing, place⟩ :: rest) := by simp
    rw [hc]
    refine ⟨by simp; omega, ?_⟩
    simp only [reader, readOperand, hr, if_true]

/-- The end of a condition ends every phrase. -/
theorem endsBefore_finish (phrase : Phrase) {last : Token} (h : last.lexeme = .finish)
    (rest : List Token) : EndsBefore phrase (last :: rest) := by
  intro token hm
  cases hm
  rw [h]
  cases phrase <;> rfl

/-- Before the last of tokens stands the sentence. -/
theorem sentence_append_singleton (body : List Token) (last : Token) :
    sentence (body ++ [last]) = lexemes body := by
  rw [sentence, lexemes_append, lexemes_cons, lexemes_nil, List.dropLast_concat]

/-- Where the end stands once, the tokens before it are determined. -/
theorem eq_of_append_finish {body front rest : List Token} {last next : Token}
    (hbody : .finish ∉ lexemes body) (hfront : .finish ∉ lexemes front)
    (hlast : last.lexeme = .finish) (hnext : next.lexeme = .finish)
    (h : body ++ [last] = front ++ next :: rest) : body = front := by
  induction body generalizing front with
  | nil =>
    cases front with
    | nil => rfl
    | cons token more =>
      have he : last = token := (List.cons.inj h).1
      rw [← he, lexemes_cons, hlast] at hfront
      exact absurd List.mem_cons_self hfront
  | cons token others ih =>
    rw [lexemes_cons, List.mem_cons, not_or] at hbody
    cases front with
    | nil =>
      have he : token = next := (List.cons.inj h).1
      rw [he, hnext] at hbody
      exact absurd rfl hbody.1
    | cons other more =>
      rw [lexemes_cons, List.mem_cons, not_or] at hfront
      obtain ⟨he, ht⟩ := List.cons.inj h
      rw [he, ih hbody.2 hfront.2 ht]

/-- Tokens that do not start with the end are read within a budget of their number. -/
theorem ofTokens_of_ne {token : Token} (h : token.lexeme ≠ .finish) (others : List Token) :
    ofTokens (token :: others) =
      match readWithin (others.length + 1) (token :: others) with
      | .error fault => .error fault
      | .ok (c, ⟨[], _⟩) => .ok c
      | .ok (c, ⟨next :: _, _⟩) =>
        if next.lexeme = .finish then .ok c
        else .error (.unexpectedToken next.lexeme.text next.position) := by
  unfold ofTokens
  split
  · rename_i he
    exact absurd (congrArg Token.lexeme (List.cons.inj he).1) h
  · dsimp only [List.length_cons]
    cases hr : readWithin (others.length + 1) (token :: others) with
    | error fault => rfl
    | ok taken =>
      obtain ⟨c, rest, hl⟩ := taken
      cases rest with
      | nil => rfl
      | cons next more =>
        obtain ⟨lexeme, position⟩ := next
        cases lexeme <;> rfl

/-- The names among tokens of a text are dotted ones. -/
theorem wellNamed_of_isInner {body : List Token} {last : Token} (hlast : last.lexeme = .finish)
    (hbody : ∀ lexeme ∈ lexemes body, Token.IsInner lexeme) :
    WellNamed (lexemes (body ++ [last])) := by
  intro text hm
  rw [lexemes_append, List.mem_append] at hm
  rcases hm with hm | hm
  · exact (hbody _ hm).2 text rfl
  · rw [lexemes_cons, hlast] at hm
    simp at hm

/-- Tokens before the end are a condition exactly if they are a disjunction. -/
theorem ofTokens_eq_ok_iff {body : List Token} {last : Token} (hlast : last.lexeme = .finish)
    (hbody : ∀ lexeme ∈ lexemes body, Token.IsInner lexeme) (c : Condition) :
    ofTokens (body ++ [last]) = .ok c ↔ Derives .disjunction (lexemes body) c := by
  have hinner : .finish ∉ lexemes body := fun hm => (hbody _ hm).1 rfl
  have hwell := wellNamed_of_isInner hlast hbody
  cases body with
  | nil =>
    obtain ⟨lexeme, position⟩ := last
    dsimp only at hlast
    subst hlast
    constructor
    · intro h
      cases h
    · intro h
      exact absurd rfl (ne_nil_of_derives h)
  | cons token others =>
    have hne : token.lexeme ≠ .finish := by
      intro he
      rw [lexemes_cons, he] at hinner
      exact hinner List.mem_cons_self
    rw [List.cons_append, ofTokens_of_ne hne]
    constructor
    · intro h
      split at h
      · cases h
      · rename_i hr
        obtain ⟨front, hf, hd⟩ := (readWithin_readsAs _).taken hwell hr
        have hfinish : .finish ∈ lexemes front := by
          have he : front = token :: others ++ [last] := by simpa using hf.symm
          rw [he, lexemes_append, ← hlast]
          simp
        exact absurd hfinish (finish_notMem_of_derives hd)
      · rename_i next more hl hr
        split at h
        · rename_i hnext
          cases h
          obtain ⟨front, hf, hd⟩ := (readWithin_readsAs _).taken hwell hr
          rwa [eq_of_append_finish hinner (finish_notMem_of_derives hd) hlast hnext hf]
        · cases h
    · intro h
      have hread : Reads (readWithin ((others ++ [last]).length + 1)) (token :: others ++ [last]) c
          [last] :=
        reads_of_derives h rfl (by simp [lexemes]) (endsBefore_finish _ hlast [])
      obtain ⟨hl, hr⟩ := hread
      simp only [List.cons_append] at hr
      rw [hr]
      exact if_pos hlast

/-- A text is read as the condition that its lexemes make up. -/
theorem read_eq_ok_iff (text : String) (c : Condition) :
    read text = .ok c ↔ ∃ ts, Token.Says text.toList ts ∧ Derives .disjunction ts c := by
  constructor
  · intro h
    unfold read at h
    cases hscan : Token.scan text with
    | error stray =>
      rw [hscan] at h
      cases h
    | ok tokens =>
      obtain ⟨body, last, rfl, hlast, hbody⟩ := Token.exists_of_scanFrom hscan
      rw [hscan] at h
      exact ⟨lexemes body, Token.says_of_scanFrom hscan, (ofTokens_eq_ok_iff hlast hbody c).mp h⟩
  · rintro ⟨ts, hsays, hderives⟩
    obtain ⟨body, last, hscan, rfl⟩ := hsays.exists_scanFrom 0
    obtain ⟨inner, finish, heq, hlast, hinner⟩ := Token.exists_of_scanFrom hscan
    obtain ⟨rfl, hfinish⟩ := List.append_inj' heq rfl
    obtain rfl := List.singleton_inj.mp hfinish
    unfold read
    rw [Token.scan, hscan]
    exact (ofTokens_eq_ok_iff hlast hinner c).mpr hderives

/-- Tokens that are no condition have a fault of syntax. -/
theorem isSyntax_of_ofTokens {body : List Token} {last : Token} {fault : ConditionFault}
    (hlast : last.lexeme = .finish) (hbody : ∀ lexeme ∈ lexemes body, Token.IsInner lexeme)
    (hn : Convertible (lexemes body)) (h : ofTokens (body ++ [last]) = .error fault) :
    fault.IsSyntax := by
  have hconvertible : Convertible (lexemes (body ++ [last])) := by
    intro text hm
    rw [lexemes_append, List.mem_append] at hm
    rcases hm with hm | hm
    · exact hn text hm
    · rw [lexemes_cons, hlast] at hm
      simp at hm
  have hwell := wellNamed_of_isInner hlast hbody
  cases body with
  | nil =>
    obtain ⟨lexeme, position⟩ := last
    dsimp only at hlast
    subst hlast
    cases h
    exact fun count => by simp
  | cons token others =>
    have hne : token.lexeme ≠ .finish := (hbody _ List.mem_cons_self).1
    rw [List.cons_append, ofTokens_of_ne hne] at h
    split at h
    · rename_i hr
      cases h
      exact (readWithin_readsAs _).fault hwell hconvertible hr
    · cases h
    · split at h
      · cases h
      · cases h
        exact fun count => by simp

/-- No lexemes stand for two conditions. -/
theorem derives_unique {ts : List Lexeme} {a b : Condition} (ha : Derives .disjunction ts a)
    (hb : Derives .disjunction ts b) : a = b := by
  have tokens : ∃ front : List Token, lexemes front = ts :=
    ⟨ts.map (⟨·, 0⟩), by simp [lexemes, Function.comp_def]⟩
  obtain ⟨front, hf⟩ := tokens
  have hends : EndsBefore .disjunction [] := fun _ hm => by cases hm
  obtain ⟨hl, hr⟩ := reads_of_derives ha hf (Nat.le_succ _) hends
  obtain ⟨hl', hr'⟩ := reads_of_derives hb hf (Nat.le_succ _) hends
  rw [hr] at hr'
  cases hr'
  rfl

/-- The reader of conditions decides the grammar: a text is read as a condition exactly if its
tokens make up a disjunction that stands for the condition, no tokens stand for two conditions, and
a text that is not read has a fault of syntax as long as its numbers can be converted. -/
theorem read_decides_grammar (text : String) :
    (∀ c, read text = .ok c ↔
      ∃ tokens, Token.scan text = .ok tokens ∧ Derives .disjunction (sentence tokens) c) ∧
    (∀ ts a b, Derives .disjunction ts a → Derives .disjunction ts b → a = b) ∧
    ((∀ tokens, Token.scan text = .ok tokens → Convertible (sentence tokens)) →
      ∀ fault, read text = .error fault → fault.IsSyntax) := by
  refine ⟨fun c => ?_, fun _ _ _ => derives_unique, fun hn fault h => ?_⟩
  · unfold read
    cases hs : Token.scan text with
    | error stray => simp
    | ok tokens =>
      obtain ⟨body, last, rfl, hlast, hbody⟩ := Token.exists_of_scanFrom hs
      dsimp only
      rw [ofTokens_eq_ok_iff hlast hbody]
      simp [sentence_append_singleton]
  · unfold read at h
    cases hs : Token.scan text with
    | error stray =>
      rw [hs] at h
      cases h
      exact fun count => by simp
    | ok tokens =>
      obtain ⟨body, last, rfl, hlast, hbody⟩ := Token.exists_of_scanFrom hs
      rw [hs] at h
      have hc := hn _ hs
      rw [sentence_append_singleton] at hc
      exact isSyntax_of_ofTokens hlast hbody hc h

end Condition

end Intake
