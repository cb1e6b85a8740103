import Intake.Engine.Key
import Intake.Engine.Quick
import Intake.Proofs.Engine.CacheRun
import Intake.Proofs.Engine.Eviction
import Mathlib.Data.Fintype.Card
import Mathlib.Data.Fintype.Option
import Mathlib.Data.Fintype.Prod
import Mathlib.Tactic.NormNum

/-!
# Faithful caches

A cache is faithful to its history and to what validators are made of: it holds the keys that its
history says, and under each key the validator made of what has that key. Main statement: asking a
faithful cache for a validator gives the validator that would be made afresh, at hand exactly if its
entry is held, and leaves the cache faithful. Keys of different things must differ for that, which
digests cannot promise.
-/

namespace Intake

/-!
## How many keys there are

A digest is made of two words at most, so that there are finitely many digests and keys. The bound is
far from what a cache could hold, and all that counts of it is that it lies in the range of doubles.
That digests of different texts differ is not covered, and does not hold.
-/

/-- What a digest is made of: two words of 64 bits at most. -/
abbrev DigestWords : Type := Option (Fin UInt64.size × Option (Fin UInt64.size))

/-- The words of a digest as a list. -/
def DigestWords.list : DigestWords → List UInt64
  | none => []
  | some (first, none) => [UInt64.ofFin first]
  | some (first, some second) => [UInt64.ofFin first, UInt64.ofFin second]

/-- The text of the words of a digest. -/
def DigestWords.text (words : DigestWords) : String :=
  String.ofList (words.list.flatMap Blake2b.wordText)

/-- Two words at most are the words of a digest. -/
theorem exists_list_eq_take (words : List UInt64) :
    ∃ digest : DigestWords, digest.list = words.take 2 := by
  match words with
  | [] => exact ⟨none, rfl⟩
  | [first] => exact ⟨some (first.toFin, none), rfl⟩
  | first :: second :: _ => exact ⟨some (first.toFin, some second.toFin), rfl⟩

/-- Every digest is the text of two words at most. -/
theorem exists_text_eq_structuralDigest (v : Value) :
    ∃ words : DigestWords, words.text = structuralDigest v := by
  obtain ⟨words, hw⟩ := exists_list_eq_take
    (Blake2b.absorb (Blake2b.initialState 16) 0 (Json.canonicalText v).toUTF8.toList).toList
  refine ⟨words, ?_⟩
  rw [DigestWords.text, hw]
  rfl

/-- What a key is made of: a side, and the words of two digests. -/
abbrev KeyWords : Type := Bool × DigestWords × DigestWords

/-- The key made of a side and digests. -/
def KeyWords.key (words : KeyWords) : ValidatorKey :=
  ⟨(if words.1 then Side.input else .config).name, words.2.1.text, words.2.2.text⟩

/-- Every key of a side is made of a side and the words of two digests. -/
theorem exists_key_eq_of (side : Side) (fields : FieldMap) (options : Options) :
    ∃ words : KeyWords, words.key = ValidatorKey.of side.name fields options := by
  obtain ⟨f, hf⟩ := exists_text_eq_structuralDigest (FieldMap.outline fields)
  obtain ⟨o, ho⟩ := exists_text_eq_structuralDigest options.written
  refine ⟨(decide (side = .input), f, o), ?_⟩
  rw [KeyWords.key, ValidatorKey.of, hf, ho]
  cases side <;> rfl

/-- The number of keys lies in the range of doubles by far. -/
theorem card_keyWords_lt : ∃ k, k + 53 ≤ 971 ∧ Fintype.card KeyWords < 2 ^ k := by
  obtain ⟨e, he, hwords⟩ : ∃ e, 1 + (e + e) + 53 ≤ 971 ∧ Fintype.card DigestWords < 2 ^ e := by
    refine ⟨129, by decide, ?_⟩
    simp only [Fintype.card_option, Fintype.card_prod, Fintype.card_fin]
    norm_num [UInt64.size]
  have hcard : Fintype.card KeyWords =
      2 * (Fintype.card DigestWords * Fintype.card DigestWords) := by
    rw [Fintype.card_prod, Fintype.card_prod, Fintype.card_bool]
  refine ⟨1 + (e + e), he, ?_⟩
  rw [hcard, Nat.pow_add, Nat.pow_add, Nat.pow_one]
  exact Nat.mul_lt_mul_of_pos_left (Nat.mul_lt_mul'' hwords hwords) (by decide)

/-- Different keys that are made of things are no more than there are things. -/
theorem length_le_card {α κ : Type} [Fintype α] [DecidableEq κ] (f : α → κ) {keys : List κ}
    (hd : keys.Nodup) (h : ∀ key ∈ keys, ∃ a, f a = key) : keys.length ≤ Fintype.card α := by
  have hsub : keys.toFinset ⊆ Finset.univ.image f := by
    intro key hm
    obtain ⟨a, ha⟩ := h key (List.mem_toFinset.mp hm)
    exact Finset.mem_image.mpr ⟨a, Finset.mem_univ _, ha⟩
  calc keys.length = keys.toFinset.card := (List.toFinset_card_of_nodup hd).symm
    _ ≤ (Finset.univ.image f).card := Finset.card_le_card hsub
    _ ≤ Fintype.card α := Finset.card_image_le

/-! ## Faithful caches -/

/-- What a validator is made of. -/
structure ValidatorSource where
  /-- The side of the data. -/
  side : Side
  /-- The fields of the side. -/
  fields : FieldMap
  /-- The options. -/
  options : Options

namespace ValidatorSource

/-- The key of the validator. -/
def key (source : ValidatorSource) : ValidatorKey :=
  .of source.side.name source.fields source.options

/-- The validator made afresh. -/
def compile (source : ValidatorSource) : Except CompileError Validator :=
  Validator.compile source.options source.side.name source.fields

end ValidatorSource

/-- An engine whose cache works, under limits that are valid. -/
structure EngineParts.IsCached (p : EngineParts) : Prop where
  /-- The cache does not fail. -/
  works : p.cacheFailure = none
  /-- The policy is that of valid limits. -/
  limited : ∃ limits : CacheLimits, limits.Valid ∧ p.policy = limits.policy

/-- Different things among those known have different keys. -/
def KeysDiffer (known : ValidatorSource → Prop) : Prop :=
  ∀ a b, known a → known b → a.key = b.key → a = b

/-- The validators of a cache are made of something known that has their key. -/
def Cache.MadeOf (known : ValidatorSource → Prop) (c : Cache ValidatorKey Validator Binary64) :
    Prop :=
  ∀ e ∈ c.entries, ∃ source, known source ∧ source.key = e.key ∧ source.compile = .ok e.value

namespace Cache

variable {known : ValidatorSource → Prop} {c : Cache ValidatorKey Validator Binary64}
  {policy : CachePolicy Binary64}

/-- Every entry that is left was there before, hits apart. -/
theorem exists_of_mem_get {now : Binary64} {key : ValidatorKey}
    {e : CacheEntry ValidatorKey Validator Binary64} (h : e ∈ (c.get policy now key).1.entries) :
    ∃ before ∈ c.entries, before.key = e.key ∧ before.value = e.value := by
  rcases get_cases policy c now key with ⟨-, heq⟩ | ⟨d, -, -, heq⟩ | ⟨d, -, -, heq⟩
  · rw [heq] at h
    exact ⟨e, h, rfl, rfl⟩
  · rw [heq] at h
    exact ⟨e, List.mem_of_mem_filter h, rfl, rfl⟩
  · rw [heq] at h
    obtain ⟨before, hm, rfl⟩ := List.mem_map.mp h
    refine ⟨before, hm, ?_, ?_⟩ <;> split <;> rfl

/-- Every entry after a write is the new one or was there before. -/
theorem eq_or_mem_of_mem_put {now : Binary64} {key : ValidatorKey} {validator : Validator}
    {e : CacheEntry ValidatorKey Validator Binary64}
    (h : e ∈ (c.put policy now key validator).1.entries) :
    e = ⟨key, validator, now, 0⟩ ∨ e ∈ c.entries := by
  rcases put_cases policy c now key validator with ⟨count, -, heq⟩ | ⟨failure, -, heq⟩
  · rw [heq] at h
    rcases List.mem_append.mp h with h | h
    · exact .inr (List.mem_of_mem_filter (List.mem_of_mem_drop h))
    · exact .inl (List.mem_singleton.mp h)
  · rw [heq] at h
    exact .inr (List.mem_of_mem_filter h)

namespace MadeOf

theorem empty : MadeOf known Cache.empty := fun _ hm => by cases hm

/-- Asking for a key adds no validator. -/
theorem get (h : c.MadeOf known) (policy : CachePolicy Binary64) (now : Binary64)
    (key : ValidatorKey) : (c.get policy now key).1.MadeOf known := by
  intro e hm
  obtain ⟨before, hb, hkey, hvalue⟩ := exists_of_mem_get hm
  rw [← hkey, ← hvalue]
  exact h before hb

/-- What is found under a key is made of something that has this key. -/
theorem exists_of_get (h : c.MadeOf known) {now : Binary64} {key : ValidatorKey}
    {validator : Validator} (hg : (c.get policy now key).2 = some validator) :
    ∃ source, known source ∧ source.key = key ∧ source.compile = .ok validator := by
  rcases get_cases policy c now key with ⟨-, heq⟩ | ⟨d, -, -, heq⟩ | ⟨e, he, -, heq⟩
  · rw [heq] at hg
    cases hg
  · rw [heq] at hg
    cases hg
  · rw [heq] at hg
    cases hg
    obtain ⟨hm, hkey⟩ := mem_of_lookup? he
    exact hkey ▸ h e hm

/-- Writing the validator of something known adds this validator only. -/
theorem put (h : c.MadeOf known) {source : ValidatorSource} (hs : known source)
    {validator : Validator} (hv : source.compile = .ok validator) (policy : CachePolicy Binary64)
    (now : Binary64) : (c.put policy now source.key validator).1.MadeOf known := by
  intro e hm
  rcases eq_or_mem_of_mem_put hm with rfl | hm
  · exact ⟨source, hs, rfl, hv⟩
  · exact h e hm

end MadeOf

end Cache

/-- A cache is faithful to a history and to what is known. -/
structure Cache.Faithful (known : ValidatorSource → Prop)
    (c : Cache ValidatorKey Validator Binary64) (history : List (CacheEvent ValidatorKey)) :
    Prop where
  /-- The entries are those of the history. -/
  tracks : c.Tracks history
  /-- The entries hold the validators made of what has their key. -/
  values : ∀ e ∈ c.entries, ∃ source, known source ∧ source.key = e.key ∧
    source.compile = .ok e.value

namespace Cache

variable {known : ValidatorSource → Prop} {c : Cache ValidatorKey Validator Binary64}
  {history : List (CacheEvent ValidatorKey)} {policy : CachePolicy Binary64}

/-- The empty cache is faithful to no history. -/
theorem faithful_empty : Faithful known empty [] := ⟨tracks_empty, MadeOf.empty⟩

/-- A cleared cache is faithful. -/
theorem faithful_cleared (history : List (CacheEvent ValidatorKey)) :
    Faithful known empty (history ++ [.cleared]) := ⟨tracks_cleared history, MadeOf.empty⟩

/-- Asking for a key leaves a cache faithful. -/
theorem faithful_get (h : c.Faithful known history) (now : Binary64) (key : ValidatorKey) :
    (c.get policy now key).1.Faithful known (history ++ c.getEvents policy now key) where
  tracks := tracks_get h.tracks now key
  values := MadeOf.get h.values _ now key

/-- What is found under the key of something known is the validator made of it. -/
theorem compile_of_get (hk : KeysDiffer known) (h : c.Faithful known history)
    {source : ValidatorSource} (hs : known source) {now : Binary64} {validator : Validator}
    (hg : (c.get policy now source.key).2 = some validator) : source.compile = .ok validator := by
  obtain ⟨other, ho, hkey, hcompile⟩ := MadeOf.exists_of_get h.values hg
  rwa [hk source other hs ho hkey.symm]

/-- A faithful cache can make room: it has no more entries than there are keys. -/
theorem exists_evictedCount {limits : CacheLimits} (hl : limits.Valid)
    (h : c.Faithful known history) (key : ValidatorKey) :
    ∃ count, limits.policy.evictedCount (c.erase key).size = .ok count := by
  obtain ⟨k, hk, hcard⟩ := card_keyWords_lt
  have hkeys : ∀ other ∈ c.keys, ∃ words : KeyWords, words.key = other := by
    intro other hm
    obtain ⟨e, he, rfl⟩ := List.mem_map.mp hm
    obtain ⟨source, _, hs, _⟩ := h.values e he
    rw [← hs]
    exact exists_key_eq_of _ _ _
  have hlength : c.keys.length ≤ Fintype.card KeyWords :=
    length_le_card KeyWords.key h.tracks.distinct hkeys
  have hsize : (c.erase key).size ≤ c.keys.length := by
    rw [size, keys, List.length_map]
    exact List.length_filter_le _ _
  exact exists_evictedOf hl hk (by omega)

/-- Writing the validator of something known succeeds and leaves a cache faithful. -/
theorem faithful_put (hp : ∃ limits : CacheLimits, limits.Valid ∧ policy = limits.policy)
    (h : c.Faithful known history) {source : ValidatorSource} (hs : known source)
    {validator : Validator} (hv : source.compile = .ok validator) (now : Binary64) :
    (c.put policy now source.key validator).2 = .ok () ∧
      (c.put policy now source.key validator).1.Faithful known
        (history ++ c.putEvents policy source.key) := by
  obtain ⟨limits, hl, rfl⟩ := hp
  obtain ⟨hput, htracks⟩ := tracks_put h.tracks now source.key validator
    (exists_evictedCount hl h source.key)
  exact ⟨hput, htracks, MadeOf.put h.values hs hv _ now⟩

end Cache

namespace EngineParts

variable {known : ValidatorSource → Prop} {p : EngineParts} {s : EngineState}
  {history : List (CacheEvent ValidatorKey)}

/-- What happens to the entries of the cache when an engine looks for a validator. -/
def askEvents (p : EngineParts) (s : EngineState) (source : ValidatorSource) :
    List (CacheEvent ValidatorKey) :=
  s.cache.getEvents p.policy s.clock source.key

/-- What happens to the entries of the cache when an engine has not found a validator. -/
def makeEvents (p : EngineParts) (s : EngineState) (source : ValidatorSource) :
    List (CacheEvent ValidatorKey) :=
  let (cache, found) := s.cache.get p.policy s.clock source.key
  match found, source.compile with
  | none, .ok _ => cache.putEvents p.policy source.key
  | _, _ => []

/-- An engine with a faithful cache hands out the validator that it would make afresh; it was at
hand exactly if the cache holds its entry when it has been asked for. -/
theorem exists_validatorFor_eq (hp : p.IsCached) (hk : KeysDiffer known)
    (h : s.cache.Faithful known history) {source : ValidatorSource} (hs : known source) :
    ∃ cache atHand,
      p.validatorFor s source.side source.fields source.options =
        ({ s with cache := cache }, source.compile.map fun validator => (validator, atHand)) ∧
      cache.Faithful known (history ++ p.askEvents s source ++ p.makeEvents s source) ∧
      (atHand = true ↔ CacheEvent.Held source.key (history ++ p.askEvents s source)) := by
  have hkey : ValidatorKey.of source.side.name source.fields source.options = source.key := rfl
  have hcompile : Validator.compile source.options source.side.name source.fields =
      source.compile := rfl
  have hasked : (s.cache.get p.policy s.clock source.key).1.Faithful known
      (history ++ p.askEvents s source) := Cache.faithful_get h s.clock source.key
  have hheld : (s.cache.get p.policy s.clock source.key).2.isSome = true ↔
      CacheEvent.Held source.key (history ++ p.askEvents s source) :=
    Cache.isSome_get_iff h.tracks s.clock source.key
  cases hget : s.cache.get p.policy s.clock source.key with | mk cache found =>
  rw [hget] at hasked hheld
  unfold validatorFor makeEvents
  simp only [hp.works, hkey, hcompile, hget]
  cases found with
  | some validator =>
    have hv : source.compile = .ok validator := Cache.compile_of_get hk h hs (by rw [hget])
    rw [hv]
    refine ⟨cache, true, rfl, ?_, hheld⟩
    simpa using hasked
  | none =>
    cases hv : source.compile with
    | error e =>
      refine ⟨cache, false, rfl, ?_, hheld⟩
      simpa using hasked
    | ok validator =>
      obtain ⟨hput, hfaithful⟩ := Cache.faithful_put hp.limited hasked hs hv s.clock
      cases hwritten : cache.put p.policy s.clock source.key validator with | mk written outcome =>
      rw [hwritten] at hput hfaithful
      subst hput
      refine ⟨written, false, ?_, hfaithful, hheld⟩
      simp only [hwritten]
      rfl

end EngineParts

end Intake
