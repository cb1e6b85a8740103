import Intake.Proofs.Condition.Grammar

/-!
# What is read is a phrase

What each reader of conditions takes off a list of tokens is a phrase of the grammar, with the
condition that the phrase stands for. What a reader refuses has a fault of syntax, as long as its
numbers can be converted. That every phrase is read is shown elsewhere.
-/

namespace Intake

/-- A fault of the text itself; an integer of too many digits is none. -/
def ConditionFault.IsSyntax (fault : ConditionFault) : Prop :=
  ∀ count, fault ≠ .tooManyDigits count

/-- The names among lexemes are identifiers with dots between them. -/
def WellNamed (ts : List Lexeme) : Prop := ∀ text, .name text ∈ ts → IsDottedName text

/-- The numbers among lexemes can be converted. -/
def Convertible (ts : List Lexeme) : Prop :=
  ∀ text, .number text ∈ ts → ∃ v, numberLiteral text = .ok v

theorem WellNamed.of_append (ts : List Lexeme) {us : List Lexeme} (h : WellNamed (ts ++ us)) : WellNamed us :=
  fun text hm => h text (List.mem_append_right ts hm)

theorem Convertible.of_append (ts : List Lexeme) {us : List Lexeme} (h : Convertible (ts ++ us)) :
    Convertible us :=
  fun text hm => h text (List.mem_append_right ts hm)

/-- A root stands in front of a dot that no word has. -/
theorem dotted_ne_of_dot_notMem (first : List Char) {others : List (List Char)} {word : List Char}
    (hn : others ≠ []) (hw : '.' ∉ word) : dotted (first :: others) ≠ word := by
  intro he
  apply hw
  rw [← he, dotted, List.intercalate_cons_of_ne_nil hn]
  simp

/-- A dotted name that is read as a literal or a reference is one by the grammar. -/
theorem derives_of_namedCondition {text : List Char} {c : Condition} (hd : IsDottedName text)
    (h : namedCondition text = .ok c) : Derives .operand [.name text] c := by
  have word {name : String} {v : Value} (hw : IsWord name v) (hs : String.ofList text = name) :
      Derives .operand [.name text] (.literal v) := by
    have ht : text = name.toList := by rw [← hs, String.toList_ofList]
    rw [ht]
    exact .word hw
  unfold namedCondition at h
  dsimp only at h
  split at h
  · rename_i hs
    cases h
    exact word .true hs
  · split at h
    · rename_i hs
      cases h
      exact word .false hs
    · split at h
      · rename_i hs
        cases h
        exact word .null hs
      · obtain ⟨parts, hn, hp, rfl⟩ := hd
        rw [splitParts_dotted hn hp] at h
        match parts, hp, h with
        | [], _, h => simp at h
        | [_], _, h => simp at h
        | root :: key :: more, hp, h =>
          simp only [List.map_cons] at h
          split at h
          · rename_i hr
            cases h
            have he : root :: key :: more =
                (String.ofList root :: (key :: more).map String.ofList).map String.toList := by
              simp
            rw [he]
            refine .reference (by simpa [namespaceNames] using hr) (by simp) ?_
            intro name hm
            obtain ⟨part, hpart, rfl⟩ := List.mem_map.mp hm
            rw [String.toList_ofList]
            exact hp part (List.mem_cons_of_mem _ hpart)
          · cases h

/-- The word for a value is read as that value. -/
theorem namedCondition_of_isWord {name : String} {v : Value} (h : IsWord name v) :
    namedCondition name.toList = .ok (.literal v) := by
  cases h <;> rfl

/-- A root with keys is read as the reference that it is. -/
theorem namedCondition_reference {root : String} {keys : List String}
    (hr : root ∈ ["input", "config"]) (hn : keys ≠ [])
    (h : ∀ key ∈ keys, IsIdentifier key.toList) :
    namedCondition (dotted ((root :: keys).map String.toList)) =
      .ok (.reference (root :: keys)) := by
  have hroot : IsIdentifier root.toList := by
    rcases List.mem_cons.mp hr with rfl | hr
    · exact ⟨'i', "nput".toList, rfl, by decide, List.all_eq_true.mp (by decide)⟩
    · rw [List.mem_singleton.mp hr]
      exact ⟨'c', "onfig".toList, rfl, by decide, List.all_eq_true.mp (by decide)⟩
  have hparts : ∀ part ∈ (root :: keys).map String.toList, IsIdentifier part := by
    intro part hm
    obtain ⟨name, hname, rfl⟩ := List.mem_map.mp hm
    rcases List.mem_cons.mp hname with rfl | hname
    · exact hroot
    · exact h name hname
  have hkeys : keys.map String.toList ≠ [] := by simpa using hn
  have other (word : String) (hw : '.' ∉ word.toList) :
      String.ofList (dotted ((root :: keys).map String.toList)) ≠ word := by
    intro he
    refine dotted_ne_of_dot_notMem root.toList hkeys hw ?_
    rw [← he, String.toList_ofList, List.map_cons]
  obtain ⟨key, more, rfl⟩ := List.exists_cons_of_ne_nil hn
  unfold namedCondition
  dsimp only
  rw [if_neg (other "true" (by decide)), if_neg (other "false" (by decide)),
    if_neg (other "null" (by decide)), splitParts_dotted (by simp) hparts]
  have hc : root ∈ namespaceNames := hr
  simp [hc, Function.comp_def]

/-- A name that is neither a literal nor a reference is a fault of syntax. -/
theorem isSyntax_of_namedCondition {text : List Char} {fault : ConditionFault}
    (h : namedCondition text = .error fault) : fault.IsSyntax := by
  unfold namedCondition at h
  dsimp only at h
  split at h
  · cases h
  · split at h
    · cases h
    · split at h
      · cases h
      · split at h
        · split at h
          · cases h
          · cases h
            exact fun count => by simp
        · cases h
          exact fun count => by simp

namespace Condition

/-- What a reader takes off tokens is a phrase, and where it takes nothing there is a fault of
syntax, unless a number cannot be converted. -/
structure ReadsAs (phrase : Phrase) (read : TokenReader Condition) : Prop where
  /-- What is taken is a phrase with the condition that is read. -/
  taken : ∀ {tokens c rest}, WellNamed (lexemes tokens) → read tokens = .ok (c, rest) →
    ∃ front, tokens = front ++ rest.1 ∧ Derives phrase (lexemes front) c
  /-- What is refused has a fault of syntax. -/
  fault : ∀ {tokens fault}, WellNamed (lexemes tokens) → Convertible (lexemes tokens) →
    read tokens = .error fault → fault.IsSyntax

/-- A reader without a budget refuses everything. -/
theorem readWithin_zero_readsAs : ReadsAs .disjunction (readWithin 0) where
  taken _ h := by cases h
  fault _ _ h := by
    cases h
    exact fun count => by simp

/-- The reader of operands takes operands. -/
theorem readOperand_readsAs {inner : TokenReader Condition} (hi : ReadsAs .disjunction inner) :
    ReadsAs .operand (readOperand inner) where
  taken := by
    intro tokens c rest hw h
    cases tokens with
    | nil => cases h
    | cons token others =>
      obtain ⟨lexeme, position⟩ := token
      cases lexeme with
      | number text =>
        simp only [readOperand] at h
        cases hv : numberLiteral text with
        | error fault => rw [hv] at h; cases h
        | ok v =>
          rw [hv] at h
          cases h
          exact ⟨[_], rfl, .number hv⟩
      | quoted text =>
        cases h
        exact ⟨[_], rfl, .quoted text⟩
      | name text =>
        simp only [readOperand] at h
        cases hc : namedCondition text with
        | error fault => rw [hc] at h; cases h
        | ok named =>
          rw [hc] at h
          cases h
          exact ⟨[_], rfl, derives_of_namedCondition (hw text (by simp)) hc⟩
      | opening =>
        simp only [readOperand] at h
        split at h
        · cases h
        · rename_i enclosed closing tail hl ho
          split at h
          · rename_i hclosing
            cases h
            obtain ⟨front, hf, hd⟩ := hi.taken (WellNamed.of_append [.opening] hw) ho
            refine ⟨⟨.opening, position⟩ :: front ++ [closing], by simp [hf], ?_⟩
            have hp := Derives.parenthesized hd
            simpa [hclosing] using hp
          · cases h
        · cases h
      | comparison how => cases h
      | closing => cases h
      | both => cases h
      | either => cases h
      | negated => cases h
      | finish => cases h
  fault := by
    intro tokens fault hw hn h
    cases tokens with
    | nil =>
      cases h
      exact fun count => by simp
    | cons token others =>
      obtain ⟨lexeme, position⟩ := token
      cases lexeme with
      | number text =>
        obtain ⟨v, hv⟩ := hn text (by simp)
        simp only [readOperand, hv] at h
        cases h
      | quoted text => cases h
      | name text =>
        simp only [readOperand] at h
        cases hc : namedCondition text with
        | error other =>
          rw [hc] at h
          cases h
          exact isSyntax_of_namedCondition hc
        | ok named => rw [hc] at h; cases h
      | opening =>
        simp only [readOperand] at h
        split at h
        · rename_i other ho
          cases h
          exact hi.fault (WellNamed.of_append [.opening] hw)
            (Convertible.of_append [.opening] hn) ho
        · split at h
          · cases h
          · cases h
            exact fun count => by simp
        · cases h
          exact fun count => by simp
      | comparison how => cases h; exact fun count => by simp
      | closing => cases h; exact fun count => by simp
      | both => cases h; exact fun count => by simp
      | either => cases h; exact fun count => by simp
      | negated => cases h; exact fun count => by simp
      | finish => cases h; exact fun count => by simp

/-- The reader of comparisons takes comparisons. -/
theorem readComparison_readsAs {inner : TokenReader Condition} (hi : ReadsAs .disjunction inner) :
    ReadsAs .comparison (readComparison inner) where
  taken := by
    intro tokens c rest hw h
    have ho := readOperand_readsAs hi
    simp only [readComparison] at h
    split at h
    · cases h
    · rename_i left how position others hl hleft
      obtain ⟨front, hf, hd⟩ := ho.taken hw hleft
      split at h
      · cases h
      · rename_i right more hm hright
        split at h
        · cases h
        · cases h
          have hw' : WellNamed (lexemes others) := by
            refine WellNamed.of_append (lexemes front ++ [.comparison how]) ?_
            simpa [hf] using hw
          obtain ⟨front', hf', hd'⟩ := ho.taken hw' hright
          refine ⟨front ++ ⟨.comparison how, position⟩ :: front', by simp [hf, hf'], ?_⟩
          simpa using Derives.compared how hd hd'
    · rename_i left others _ hleft
      cases h
      obtain ⟨front, hf, hd⟩ := ho.taken hw hleft
      exact ⟨front, hf, .oneOperand hd⟩
  fault := by
    intro tokens fault hw hn h
    have ho := readOperand_readsAs hi
    simp only [readComparison] at h
    split at h
    · rename_i other hleft
      cases h
      exact ho.fault hw hn hleft
    · rename_i left how position others hl hleft
      obtain ⟨front, hf, _⟩ := ho.taken hw hleft
      dsimp only at hf
      have hs : lexemes tokens = (lexemes front ++ [.comparison how]) ++ lexemes others := by
        rw [hf]
        simp
      split at h
      · rename_i other hright
        cases h
        rw [hs] at hw hn
        exact ho.fault hw.of_append hn.of_append hright
      · split at h
        · cases h
          exact fun count => by simp
        · cases h
    · cases h

/-- Without the sign of a negation in front a comparison is read. -/
theorem readNegation_of_ne (inner : TokenReader Condition) {token : Token}
    (h : token.lexeme ≠ .negated) (others : List Token) :
    readNegation inner (token :: others) = readComparison inner (token :: others) := by
  rw [readNegation]
  intro position rest he
  exact h (congrArg Token.lexeme (List.cons.inj he).1)

/-- The reader of negations takes negations. -/
theorem readNegation_readsAs {inner : TokenReader Condition} (hi : ReadsAs .disjunction inner) :
    ReadsAs .negation (readNegation inner) where
  taken := by
    intro tokens
    induction tokens with
    | nil => intro c rest _ h; cases h
    | cons token others ih =>
      intro c rest hw h
      by_cases hl : token.lexeme = .negated
      · obtain ⟨lexeme, position⟩ := token
        dsimp only at hl
        subst hl
        simp only [readNegation] at h
        split at h
        · cases h
        · rename_i operand more hm ho
          cases h
          obtain ⟨front, hf, hd⟩ := ih (WellNamed.of_append [.negated] hw) ho
          exact ⟨⟨.negated, position⟩ :: front, congrArg (_ :: ·) hf, .negated hd⟩
      · rw [readNegation_of_ne inner hl] at h
        obtain ⟨front, hf, hd⟩ := (readComparison_readsAs hi).taken hw h
        exact ⟨front, hf, .notNegated hd⟩
  fault := by
    intro tokens
    induction tokens with
    | nil =>
      intro fault _ _ h
      cases h
      exact fun count => by simp
    | cons token others ih =>
      intro fault hw hn h
      by_cases hl : token.lexeme = .negated
      · obtain ⟨lexeme, position⟩ := token
        dsimp only at hl
        subst hl
        simp only [readNegation] at h
        split at h
        · rename_i other ho
          cases h
          exact ih (WellNamed.of_append [.negated] hw)
            (Convertible.of_append [.negated] hn) ho
        · cases h
      · rw [readNegation_of_ne inner hl] at h
        exact (readComparison_readsAs hi).fault hw hn h

/-- A chain takes phrases with a link between each two of them. -/
theorem taken_of_readChain {link : Lexeme} {phrase : Phrase} {item : TokenReader Condition}
    (hi : ReadsAs phrase item) {tokens : List Token} {items : List Condition}
    {rest : { rest : List Token // rest.length < tokens.length }}
    (hw : WellNamed (lexemes tokens)) (h : readChain link item tokens = .ok (items, rest)) :
    ∃ front parts, tokens = front ++ rest.1 ∧ parts ≠ [] ∧ items = parts.map Prod.snd ∧
      lexemes front = [link].intercalate (parts.map Prod.fst) ∧
      ∀ part ∈ parts, Derives phrase part.1 part.2 := by
  rw [readChain] at h
  split at h
  · cases h
  · rename_i first hl hf
    cases h
    obtain ⟨front, ht, hd⟩ := hi.taken hw hf
    exact ⟨front, [(lexemes front, first)], ht, by simp, rfl, by simp, by simpa using hd⟩
  · rename_i first next others hl hf
    obtain ⟨front, ht, hd⟩ := hi.taken hw hf
    dsimp only at ht
    split at h
    · rename_i hlink
      split at h
      · cases h
      · rename_i more last hm hr
        cases h
        have hw' : WellNamed (lexemes others) := by
          refine WellNamed.of_append (lexemes front ++ [next.lexeme]) ?_
          simpa [ht] using hw
        obtain ⟨front', parts, ht', hp, rfl, hl', hd'⟩ := taken_of_readChain hi hw' hr
        refine ⟨front ++ next :: front', (lexemes front, first) :: parts, ?_, by simp, rfl, ?_, ?_⟩
        · rw [List.append_assoc]
          exact ht.trans (congrArg (front ++ next :: ·) ht')
        · rw [List.map_cons, List.intercalate_cons_of_ne_nil (by simpa using hp), lexemes_append,
            lexemes_cons, hl', hlink]
          simp
        · intro part hm
          rcases List.mem_cons.mp hm with rfl | hm
          · exact hd
          · exact hd' part hm
    · cases h
      exact ⟨front, [(lexemes front, first)], ht, by simp, rfl, by simp, by simpa using hd⟩
termination_by tokens.length
decreasing_by
  exact Nat.lt_of_succ_lt (by assumption)

/-- A chain that is refused has a fault of syntax. -/
theorem isSyntax_of_readChain {link : Lexeme} {phrase : Phrase} {item : TokenReader Condition}
    (hi : ReadsAs phrase item) {tokens : List Token} {fault : ConditionFault}
    (hw : WellNamed (lexemes tokens)) (hc : Convertible (lexemes tokens))
    (h : readChain link item tokens = .error fault) : fault.IsSyntax := by
  induction hn : tokens.length using Nat.strongRecOn generalizing tokens with
  | ind n ih =>
    rw [readChain] at h
    split at h
    · rename_i other hf
      cases h
      exact hi.fault hw hc hf
    · cases h
    · rename_i first next others hl hf
      obtain ⟨front, ht, _⟩ := hi.taken hw hf
      dsimp only at ht
      have hs : lexemes tokens = (lexemes front ++ [next.lexeme]) ++ lexemes others := by
        rw [ht]
        simp
      have hlt : others.length < n := by
        rw [← hn]
        exact Nat.lt_of_succ_lt hl
      rw [hs] at hw hc
      split at h
      · split at h
        · rename_i other hr
          cases h
          exact ih _ hlt (hw.of_append _) (hc.of_append _) hr rfl
        · cases h
      · cases h

/-- Several items are joined to a node. -/
theorem joined_of_two_le {join : List Condition → Condition} {items : List Condition}
    (h : 2 ≤ items.length) : joined join items = join items := by
  match items, h with
  | _ :: _ :: _, _ => rfl

/-- Items of a chain, alone or joined, are a phrase of the next kind. -/
theorem derives_joined {upper lower : Phrase} {link : Lexeme}
    {join : List Condition → Condition}
    (one : ∀ {ts c}, Derives lower ts c → Derives upper ts c)
    (several : ∀ parts : List (List Lexeme × Condition), 2 ≤ parts.length →
      (∀ part ∈ parts, Derives lower part.1 part.2) →
      Derives upper ([link].intercalate (parts.map Prod.fst)) (join (parts.map Prod.snd)))
    {parts : List (List Lexeme × Condition)} (hn : parts ≠ [])
    (h : ∀ part ∈ parts, Derives lower part.1 part.2) :
    Derives upper ([link].intercalate (parts.map Prod.fst)) (joined join (parts.map Prod.snd)) := by
  match parts, hn, h with
  | [part], _, h =>
    have hp := one (h part List.mem_cons_self)
    simpa [joined] using hp
  | first :: second :: rest, _, h =>
    rw [joined_of_two_le (by simp)]
    exact several _ (by simp) h

/-- The reader of conjunctions takes conjunctions. -/
theorem readConjunction_readsAs {inner : TokenReader Condition}
    (hi : ReadsAs .disjunction inner) : ReadsAs .conjunction (readConjunction inner) where
  taken := by
    intro tokens c rest hw h
    rw [readConjunction] at h
    cases hr : readChain .both (readNegation inner) tokens with
    | error fault => rw [hr] at h; cases h
    | ok found =>
      rw [hr] at h
      cases h
      obtain ⟨front, parts, ht, hn, he, hl, hd⟩ :=
        taken_of_readChain (readNegation_readsAs hi) hw hr
      rw [he]
      exact ⟨front, ht, by rw [hl]; exact derives_joined .oneNegation .negations hn hd⟩
  fault := by
    intro tokens fault hw hc h
    rw [readConjunction] at h
    cases hr : readChain .both (readNegation inner) tokens with
    | ok found => rw [hr] at h; cases h
    | error other =>
      rw [hr] at h
      cases h
      exact isSyntax_of_readChain (readNegation_readsAs hi) hw hc hr

/-- The reader of disjunctions takes disjunctions. -/
theorem readDisjunction_readsAs {inner : TokenReader Condition}
    (hi : ReadsAs .disjunction inner) : ReadsAs .disjunction (readDisjunction inner) where
  taken := by
    intro tokens c rest hw h
    rw [readDisjunction] at h
    cases hr : readChain .either (readConjunction inner) tokens with
    | error fault => rw [hr] at h; cases h
    | ok found =>
      rw [hr] at h
      cases h
      obtain ⟨front, parts, ht, hn, he, hl, hd⟩ :=
        taken_of_readChain (readConjunction_readsAs hi) hw hr
      rw [he]
      exact ⟨front, ht, by rw [hl]; exact derives_joined .oneConjunction .conjunctions hn hd⟩
  fault := by
    intro tokens fault hw hc h
    rw [readDisjunction] at h
    cases hr : readChain .either (readConjunction inner) tokens with
    | ok found => rw [hr] at h; cases h
    | error other =>
      rw [hr] at h
      cases h
      exact isSyntax_of_readChain (readConjunction_readsAs hi) hw hc hr

/-- Within every budget whole conditions are taken. -/
theorem readWithin_readsAs (budget : Nat) : ReadsAs .disjunction (readWithin budget) := by
  induction budget with
  | zero => exact readWithin_zero_readsAs
  | succ budget ih => exact readDisjunction_readsAs ih

end Condition

end Intake
