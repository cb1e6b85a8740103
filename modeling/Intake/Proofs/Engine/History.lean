import Intake.Engine.Cache

/-!
# What becomes of the entries of a cache

The history of a cache is the list of what happened to its entries: they are stored, evicted to make
room, found expired, or cleared. Main statement: with each operation the cache holds exactly the keys
that its history says it holds, those stored with nothing that ended their entry since. How old an
entry may get is left to the policy.
-/

namespace Intake

/-- What happens to the entries of a cache. -/
inductive CacheEvent (κ : Type) where
  /-- An entry is stored under a key. -/
  | stored (key : κ)
  /-- The entry of a key goes to make room. -/
  | evicted (key : κ)
  /-- The entry of a key is found to have expired. -/
  | expired (key : κ)
  /-- All entries go. -/
  | cleared

namespace CacheEvent

variable {κ : Type}

/-- An event that ends the entry of a key. -/
def Ends (key : κ) : CacheEvent κ → Prop
  | .stored _ => False
  | .evicted other => other = key
  | .expired other => other = key
  | .cleared => True

/-- The history of a cache says that an entry is there: it was stored, and no event since has ended
it. -/
def Held (key : κ) (history : List (CacheEvent κ)) : Prop :=
  ∃ before after, history = before ++ .stored key :: after ∧ ∀ event ∈ after, ¬ event.Ends key

theorem not_held_nil (key : κ) : ¬ Held key [] := by
  rintro ⟨before, after, h, _⟩
  simp at h

/-- One more event stores an entry or leaves it, or ends it. -/
theorem held_append_singleton (key : κ) (history : List (CacheEvent κ)) (event : CacheEvent κ) :
    Held key (history ++ [event]) ↔ event = .stored key ∨ (Held key history ∧ ¬ event.Ends key) := by
  constructor
  · rintro ⟨before, after, h, hafter⟩
    rcases List.eq_nil_or_concat after with rfl | ⟨others, last, rfl⟩
    · obtain ⟨rfl, hs⟩ := List.append_inj' h rfl
      exact .inl (List.cons.inj hs).1
    · rw [List.concat_eq_append, ← List.cons_append, ← List.append_assoc] at h
      obtain ⟨hh, hl⟩ := List.append_inj' h rfl
      obtain rfl : event = last := (List.cons.inj hl).1
      refine .inr ⟨⟨before, others, hh, fun other hm => hafter other ?_⟩, hafter event ?_⟩
      · simp [hm]
      · simp
  · rintro (rfl | ⟨⟨before, after, rfl, hafter⟩, he⟩)
    · exact ⟨history, [], rfl, by simp⟩
    · refine ⟨before, after ++ [event], by simp, fun other hm => ?_⟩
      rcases List.mem_append.mp hm with hm | hm
      · exact hafter other hm
      · rwa [List.mem_singleton.mp hm]

/-- What goes to make room is no longer held, and all else is. -/
theorem held_append_evicted (key : κ) (history : List (CacheEvent κ)) (keys : List κ) :
    Held key (history ++ keys.map .evicted) ↔ Held key history ∧ key ∉ keys := by
  induction keys generalizing history with
  | nil => simp
  | cons other rest ih =>
    have hstep := ih (history ++ [.evicted other])
    rw [List.append_assoc, held_append_singleton] at hstep
    rw [List.map_cons, ← List.singleton_append, hstep, List.mem_cons, not_or]
    simp only [reduceCtorEq, false_or, Ends, and_assoc, eq_comm]

end CacheEvent

namespace Cache

variable {κ ν τ : Type} [DecidableEq κ]

/-- The keys of the entries of a cache, the oldest first. -/
def keys (c : Cache κ ν τ) : List κ := c.entries.map (·.key)

/-- What happens to the entries of a cache when a key is asked for. -/
def getEvents (policy : CachePolicy τ) (now : τ) (key : κ) (c : Cache κ ν τ) :
    List (CacheEvent κ) :=
  match c.lookup? key with
  | none => []
  | some e => if policy.isExpired e.writtenAt now then [.expired key] else []

/-- What happens to the entries of a cache when a value is written under a key. -/
def putEvents (policy : CachePolicy τ) (key : κ) (c : Cache κ ν τ) : List (CacheEvent κ) :=
  let others := (c.erase key).keys
  if policy.maxSize ≤ others.length then
    match policy.evictedCount others.length with
    | .ok count => (others.take count).map .evicted ++ [.stored key]
    | .error _ => []
  else [.stored key]

/-- A cache holds exactly what a history says, under different keys. -/
structure Tracks (c : Cache κ ν τ) (history : List (CacheEvent κ)) : Prop where
  /-- No two entries have the same key. -/
  distinct : c.keys.Nodup
  /-- The entries are those held. -/
  held : ∀ key, key ∈ c.keys ↔ CacheEvent.Held key history

variable {policy : CachePolicy τ} {c : Cache κ ν τ} {history : List (CacheEvent κ)}

/-- The keys of a cache without the entry of a key. -/
theorem keys_erase (c : Cache κ ν τ) (key : κ) :
    (c.erase key).keys = c.keys.filter fun other => decide (other ≠ key) := by
  rw [keys, keys, List.filter_map]
  rfl

/-- The keys without that of an entry that goes stay different. -/
theorem nodup_keys_erase (h : c.keys.Nodup) (key : κ) : (c.erase key).keys.Nodup := by
  rw [keys_erase]
  exact h.filter _

omit [DecidableEq κ] in
/-- The keys after the oldest entries went and one was added. -/
theorem keys_drop_append (c : Cache κ ν τ) (count : Nat) (e : CacheEntry κ ν τ) :
    (⟨c.entries.drop count ++ [e]⟩ : Cache κ ν τ).keys = c.keys.drop count ++ [e.key] := by
  simp [keys]

/-- Keys stay different if the entry of a key goes, then the oldest others, and one with this key is
added. -/
theorem nodup_keys_drop_append (h : c.keys.Nodup) (count : Nat) (e : CacheEntry κ ν τ) :
    (⟨(c.erase e.key).entries.drop count ++ [e]⟩ : Cache κ ν τ).keys.Nodup := by
  rw [keys_drop_append, List.nodup_append]
  refine ⟨(nodup_keys_erase h e.key).sublist (List.drop_sublist count _), by simp, ?_⟩
  rintro a ha b hb rfl
  rw [List.mem_singleton.mp hb] at ha
  have hm := List.mem_of_mem_drop ha
  simp [keys_erase] at hm

/-- A hit leaves what does not tell of hits. -/
theorem map_countHit {α : Type} (c : Cache κ ν τ) (key : κ) {f : CacheEntry κ ν τ → α}
    (hf : ∀ e hits, f { e with hits := hits } = f e) :
    (c.countHit key).entries.map f = c.entries.map f := by
  rw [countHit, List.map_map]
  refine List.map_congr_left fun e _ => ?_
  dsimp only [Function.comp]
  split
  · exact hf e _
  · rfl

/-- A hit leaves the keys. -/
theorem keys_countHit (c : Cache κ ν τ) (key : κ) : (c.countHit key).keys = c.keys :=
  c.map_countHit key fun _ _ => rfl

/-- A key without an entry is none of the keys. -/
theorem lookup?_eq_none_iff (c : Cache κ ν τ) (key : κ) : c.lookup? key = none ↔ key ∉ c.keys := by
  simp [lookup?, keys, List.find?_eq_none]

/-- An entry that is found bears the key, which is one of the keys. -/
theorem mem_of_lookup? {key : κ} {e : CacheEntry κ ν τ} (h : c.lookup? key = some e) :
    e ∈ c.entries ∧ e.key = key :=
  ⟨List.mem_of_find?_eq_some h, by simpa using List.find?_some h⟩

omit [DecidableEq κ] in
/-- The empty cache has no history. -/
theorem tracks_empty : Tracks (empty : Cache κ ν τ) [] where
  distinct := List.nodup_nil
  held key := by simp [keys, empty, CacheEvent.not_held_nil]

omit [DecidableEq κ] in
/-- A cleared cache is empty, whatever happened before. -/
theorem tracks_cleared (history : List (CacheEvent κ)) :
    Tracks (empty : Cache κ ν τ) (history ++ [.cleared]) where
  distinct := List.nodup_nil
  held key := by simp [keys, empty, CacheEvent.held_append_singleton, CacheEvent.Ends]

/-- Asking for a key keeps track of the entries. -/
theorem tracks_get (h : c.Tracks history) (now : τ) (key : κ) :
    (c.get policy now key).1.Tracks (history ++ c.getEvents policy now key) := by
  unfold get getEvents
  cases hl : c.lookup? key with
  | none => simpa using h
  | some e =>
    dsimp only
    split
    · refine ⟨nodup_keys_erase h.distinct key, fun other => ?_⟩
      · rw [keys_erase, CacheEvent.held_append_singleton, ← h.held other]
        simp only [List.mem_filter, decide_eq_true_eq, reduceCtorEq, false_or, CacheEvent.Ends]
        exact and_congr_right fun _ => ⟨Ne.symm, Ne.symm⟩
    · refine ⟨?_, fun other => ?_⟩
      · rw [keys_countHit]
        exact h.distinct
      · rw [keys_countHit, List.append_nil]
        exact h.held other

/-- A key is found exactly if its entry is held, expiry at this time included. -/
theorem isSome_get_iff (h : c.Tracks history) (now : τ) (key : κ) :
    (c.get policy now key).2.isSome = true ↔
      CacheEvent.Held key (history ++ c.getEvents policy now key) := by
  rw [← (tracks_get h now key).held key]
  unfold get
  cases hl : c.lookup? key with
  | none => simpa using (lookup?_eq_none_iff c key).mp hl
  | some e =>
    dsimp only
    split
    · simp [keys_erase]
    · obtain ⟨hm, rfl⟩ := mem_of_lookup? hl
      simp only [Option.isSome_some, true_iff, keys_countHit]
      exact List.mem_map_of_mem hm

omit [DecidableEq κ] in
/-- What is left after the oldest keys went is what was not among them. -/
theorem mem_drop_iff {keys : List κ} (h : keys.Nodup) (count : Nat) (key : κ) :
    key ∈ keys.drop count ↔ key ∈ keys ∧ key ∉ keys.take count := by
  have hsplit := List.take_append_drop count keys
  rw [← hsplit] at h
  have hdisjoint := (List.nodup_append.mp h).2.2
  constructor
  · intro hm
    exact ⟨List.mem_of_mem_drop hm, fun ht => hdisjoint key ht key hm rfl⟩
  · rintro ⟨hm, ht⟩
    rw [← hsplit, List.mem_append] at hm
    exact hm.resolve_left ht

/-- The cache keeps track of its entries if the oldest others go and one is added at the end. -/
theorem tracks_drop_append (h : c.Tracks history) (count : Nat) (e : CacheEntry κ ν τ) :
    (⟨(c.erase e.key).entries.drop count ++ [e]⟩ : Cache κ ν τ).Tracks
      (history ++ (((c.erase e.key).keys.take count).map .evicted ++ [.stored e.key])) := by
  have hothers := nodup_keys_erase h.distinct e.key
  have hmem (other : κ) :
      other ∈ (c.erase e.key).keys ↔ CacheEvent.Held other history ∧ other ≠ e.key := by
    rw [keys_erase, ← h.held other]
    simp
  refine ⟨nodup_keys_drop_append h.distinct count e, fun other => ?_⟩
  rw [keys_drop_append, ← List.append_assoc, CacheEvent.held_append_singleton,
    CacheEvent.held_append_evicted, List.mem_append, List.mem_singleton, mem_drop_iff hothers, hmem]
  simp only [CacheEvent.stored.injEq, CacheEvent.Ends, not_false_eq_true, and_true]
  by_cases hk : other = e.key
  · simp [hk]
  · simp [hk, Ne.symm hk]

/-- Writing a value succeeds and keeps track of the entries, if the policy can tell how many entries
go to make room. -/
theorem tracks_put (h : c.Tracks history) (now : τ) (key : κ) (value : ν)
    (hroom : ∃ count, policy.evictedCount (c.erase key).size = .ok count) :
    (c.put policy now key value).2 = .ok () ∧
      (c.put policy now key value).1.Tracks (history ++ c.putEvents policy key) := by
  obtain ⟨count, hcount⟩ := hroom
  have hsize : (c.erase key).keys.length = (c.erase key).size := by simp [keys, size]
  by_cases hfull : policy.maxSize ≤ (c.erase key).size
  · have hput : c.put policy now key value =
        (⟨(c.erase key).entries.drop count ++ [⟨key, value, now, 0⟩]⟩, .ok ()) := by
      simp [put, makeRoom, hfull, hcount, Except.map]
    have hevents : c.putEvents policy key =
        ((c.erase key).keys.take count).map .evicted ++ [.stored key] := by
      simp [putEvents, hsize, hfull, hcount]
    rw [hput, hevents]
    exact ⟨rfl, tracks_drop_append h count ⟨key, value, now, 0⟩⟩
  · have hput : c.put policy now key value =
        (⟨(c.erase key).entries.drop 0 ++ [⟨key, value, now, 0⟩]⟩, .ok ()) := by
      simp [put, makeRoom, hfull]
    have hevents : c.putEvents policy key =
        ((c.erase key).keys.take 0).map .evicted ++ [.stored key] := by
      simp [putEvents, hsize, hfull]
    rw [hput, hevents]
    exact ⟨rfl, tracks_drop_append h 0 ⟨key, value, now, 0⟩⟩

end Cache

end Intake
