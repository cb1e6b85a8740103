import Intake.Proofs.Engine.History
import Mathlib.Data.List.Induction

/-!
# Runs of a cache

A run is a list of calls of one cache, each at its time. Main statements: what a call does to the
entry of its own key and to those of other keys, and that after every run entries have different
keys. Times need not be numbers here.
-/

namespace Intake

/-- A call of a cache. -/
inductive CacheCall (κ ν : Type) where
  /-- A value is written under a key. -/
  | put (key : κ) (value : ν)
  /-- The value of a key is asked for. -/
  | get (key : κ)
  /-- Whether a key is there is asked for. -/
  | contains (key : κ)
  /-- How often a key was found is asked for. -/
  | hitCount (key : κ)
  /-- The cache is emptied. -/
  | clear

namespace CacheCall

variable {κ ν : Type}

/-- A call that changes nothing but hits, and drops what it finds expired. -/
def IsLookup : CacheCall κ ν → Prop
  | .get _ => True
  | .contains _ => True
  | .hitCount _ => True
  | _ => False

/-- A call that is about one key. -/
def IsOn (key : κ) : CacheCall κ ν → Prop
  | .put other _ => other = key
  | .get other => other = key
  | .contains other => other = key
  | .hitCount other => other = key
  | .clear => False

end CacheCall

/-- A call at a time. -/
structure TimedCall (κ ν τ : Type) where
  /-- The time. -/
  now : τ
  /-- The call. -/
  call : CacheCall κ ν

namespace Cache

variable {κ ν τ : Type} [DecidableEq κ]

/-- The cache after a call. -/
def afterCall (policy : CachePolicy τ) (c : Cache κ ν τ) (timed : TimedCall κ ν τ) : Cache κ ν τ :=
  match timed.call with
  | .put key value => (c.put policy timed.now key value).1
  | .get key => (c.get policy timed.now key).1
  | .contains _ => c
  | .hitCount _ => c
  | .clear => empty

/-- The cache after calls. -/
def afterCalls (policy : CachePolicy τ) (c : Cache κ ν τ) (calls : List (TimedCall κ ν τ)) :
    Cache κ ν τ :=
  calls.foldl (afterCall policy) c

/-- The cache that starts empty, after calls. -/
def ofCalls (policy : CachePolicy τ) (calls : List (TimedCall κ ν τ)) : Cache κ ν τ :=
  empty.afterCalls policy calls

theorem afterCalls_append (policy : CachePolicy τ) (c : Cache κ ν τ)
    (calls others : List (TimedCall κ ν τ)) :
    c.afterCalls policy (calls ++ others) = (c.afterCalls policy calls).afterCalls policy others :=
  List.foldl_append

theorem ofCalls_append (policy : CachePolicy τ) (calls others : List (TimedCall κ ν τ)) :
    (ofCalls policy (calls ++ others) : Cache κ ν τ) =
      (ofCalls policy calls).afterCalls policy others :=
  afterCalls_append policy empty calls others

theorem ofCalls_append_singleton (policy : CachePolicy τ) (calls : List (TimedCall κ ν τ))
    (timed : TimedCall κ ν τ) :
    ofCalls policy (calls ++ [timed]) = (ofCalls policy calls).afterCall policy timed :=
  ofCalls_append policy calls [timed]

/-- How many entries go to make room when a value is written under a key. -/
def leavingCount (policy : CachePolicy τ) (key : κ) (c : Cache κ ν τ) : Except Failure Nat :=
  if policy.maxSize ≤ (c.erase key).size then policy.evictedCount (c.erase key).size else .ok 0

/-- The keys of the entries that go to make room when a value is written under a key. -/
def evictedKeys (policy : CachePolicy τ) (key : κ) (c : Cache κ ν τ) : List κ :=
  match c.leavingCount policy key with
  | .ok count => (c.erase key).keys.take count
  | .error _ => []

variable {policy : CachePolicy τ} {c : Cache κ ν τ} {now : τ} {key other : κ} {value : ν}

/-- A value is written at the end of what is left of the other entries, or only the entry of its key
goes. -/
theorem put_eq (policy : CachePolicy τ) (c : Cache κ ν τ) (now : τ) (key : κ) (value : ν) :
    c.put policy now key value =
      match c.leavingCount policy key with
      | .ok count => (⟨(c.erase key).entries.drop count ++ [⟨key, value, now, 0⟩]⟩, .ok ())
      | .error failure => (c.erase key, .error failure) := by
  unfold put makeRoom leavingCount
  split
  · next h =>
    split at h
    · next hfull =>
      rw [if_pos hfull]
      cases hcount : policy.evictedCount (c.erase key).size with
      | error failure => rw [hcount] at h; cases h
      | ok count =>
        rw [hcount] at h
        cases h
        rfl
    · next hroom =>
      rw [if_neg hroom]
      cases h
      rfl
  · next h =>
    split at h
    · next hfull =>
      rw [if_pos hfull]
      cases hcount : policy.evictedCount (c.erase key).size with
      | error failure =>
        rw [hcount] at h
        cases h
        rfl
      | ok count => rw [hcount] at h; cases h
    · cases h

/-- The ways in which a value is written. -/
theorem put_cases (policy : CachePolicy τ) (c : Cache κ ν τ) (now : τ) (key : κ) (value : ν) :
    (∃ count, c.leavingCount policy key = .ok count ∧
      c.put policy now key value =
        (⟨(c.erase key).entries.drop count ++ [⟨key, value, now, 0⟩]⟩, .ok ())) ∨
    (∃ failure, c.leavingCount policy key = .error failure ∧
      c.put policy now key value = (c.erase key, .error failure)) := by
  rw [put_eq]
  cases c.leavingCount policy key with
  | ok count => exact .inl ⟨count, rfl, rfl⟩
  | error failure => exact .inr ⟨failure, rfl, rfl⟩

/-- The ways in which the value of a key is asked for. -/
theorem get_cases (policy : CachePolicy τ) (c : Cache κ ν τ) (now : τ) (key : κ) :
    (c.lookup? key = none ∧ c.get policy now key = (c, none)) ∨
    (∃ e, c.lookup? key = some e ∧ policy.isExpired e.writtenAt now = true ∧
      c.get policy now key = (c.erase key, none)) ∨
    (∃ e, c.lookup? key = some e ∧ policy.isExpired e.writtenAt now = false ∧
      c.get policy now key = (c.countHit key, some e.value)) := by
  unfold get
  cases c.lookup? key with
  | none => exact .inl ⟨rfl, rfl⟩
  | some e =>
    cases hexpired : policy.isExpired e.writtenAt now with
    | true => exact .inr (.inl ⟨e, rfl, hexpired, by simp [hexpired]⟩)
    | false => exact .inr (.inr ⟨e, rfl, hexpired, by simp [hexpired]⟩)

/-- A hit of a key is counted for the entry that is found under it. -/
theorem lookup?_countHit (c : Cache κ ν τ) (key other : κ) :
    (c.countHit key).lookup? other =
      (c.lookup? other).map fun e => if other = key then { e with hits := e.hits + 1 } else e := by
  unfold countHit lookup?
  rw [List.find?_map]
  have hkey : (fun e : CacheEntry κ ν τ => decide (e.key = other)) ∘
      (fun e => if e.key = key then { e with hits := e.hits + 1 } else e) =
        fun e => decide (e.key = other) := by
    funext e
    dsimp only [Function.comp]
    split <;> rfl
  rw [hkey]
  cases hfound : c.entries.find? fun e => decide (e.key = other) with
  | none => rfl
  | some e =>
    have he : e.key = other := by simpa using List.find?_some hfound
    simp [he]

theorem lookup?_countHit_self (c : Cache κ ν τ) (key : κ) :
    (c.countHit key).lookup? key = (c.lookup? key).map fun e => { e with hits := e.hits + 1 } := by
  simp [lookup?_countHit]

/-- A hit is counted for no other entry. -/
theorem lookup?_countHit_of_ne (c : Cache κ ν τ) (h : other ≠ key) :
    (c.countHit key).lookup? other = c.lookup? other := by
  simp [lookup?_countHit, h]

/-- Asking for a key leaves the entries of other keys. -/
theorem lookup?_get_of_ne (policy : CachePolicy τ) (c : Cache κ ν τ) (now : τ) (h : other ≠ key) :
    (c.get policy now key).1.lookup? other = c.lookup? other := by
  rcases get_cases policy c now key with ⟨-, heq⟩ | ⟨e, -, -, heq⟩ | ⟨e, -, -, heq⟩
  · rw [heq]
  · rw [heq]
    exact c.lookup?_erase_of_ne h
  · rw [heq]
    exact c.lookup?_countHit_of_ne h

/-- An entry at the end is found under its key if no entry before it has the key. -/
theorem lookup?_append_self {entries : List (CacheEntry κ ν τ)} {e : CacheEntry κ ν τ}
    (h : e.key ∉ entries.map (·.key)) :
    (⟨entries ++ [e]⟩ : Cache κ ν τ).lookup? e.key = some e := by
  have hnone : entries.find? (fun d => decide (d.key = e.key)) = none := by
    rw [List.find?_eq_none]
    intro d hd heq
    exact h (of_decide_eq_true heq ▸ List.mem_map_of_mem (f := (·.key)) hd)
  simp [lookup?, List.find?_append, hnone]

/-- An entry at the end is not found under other keys. -/
theorem lookup?_append_of_ne (entries : List (CacheEntry κ ν τ)) {e : CacheEntry κ ν τ}
    (h : other ≠ e.key) :
    (⟨entries ++ [e]⟩ : Cache κ ν τ).lookup? other = (⟨entries⟩ : Cache κ ν τ).lookup? other := by
  simp [lookup?, List.find?_append, Ne.symm h]

omit [DecidableEq κ] in
/-- The keys that go and those that stay are all keys. -/
theorem keys_take_append_drop (c : Cache κ ν τ) (count : Nat) :
    c.keys.take count ++ (c.entries.drop count).map (·.key) = c.keys := by
  rw [List.map_drop]
  exact List.take_append_drop count c.keys

/-- What is found under a key after the oldest entries went: nothing if it was among them, and the
same entry otherwise. -/
theorem lookup?_drop (h : c.keys.Nodup) (count : Nat) (key : κ) :
    (⟨c.entries.drop count⟩ : Cache κ ν τ).lookup? key =
      if key ∈ c.keys.take count then none else c.lookup? key := by
  rw [← keys_take_append_drop c count, List.nodup_append] at h
  split
  · next hm =>
    rw [lookup?_eq_none_iff]
    exact fun hleft => h.2.2 key hm key hleft rfl
  · next hm =>
    have hnone : (c.entries.take count).find? (fun e => decide (e.key = key)) = none := by
      rw [List.find?_eq_none]
      intro e he heq
      rw [keys, ← List.map_take] at hm
      exact hm (of_decide_eq_true heq ▸ List.mem_map_of_mem (f := (·.key)) he)
    have hsplit : c.lookup? key =
        (c.entries.take count ++ c.entries.drop count).find? fun e => decide (e.key = key) := by
      rw [List.take_append_drop]
      rfl
    rw [hsplit, List.find?_append, hnone]
    rfl

/-- A value that is written is found under its key. -/
theorem lookup?_put_self (c : Cache κ ν τ) (now : τ) (key : κ) (value : ν) :
    (c.put policy now key value).1.lookup? key =
      if (c.put policy now key value).2.isOk then some ⟨key, value, now, 0⟩ else none := by
  rcases put_cases policy c now key value with ⟨count, -, heq⟩ | ⟨failure, -, heq⟩
  · rw [heq]
    refine lookup?_append_self (e := ⟨key, value, now, 0⟩) fun hm => ?_
    have hm' : key ∈ (c.erase key).keys := by
      rw [List.map_drop] at hm
      exact List.mem_of_mem_drop hm
    simp [keys_erase] at hm'
  · rw [heq]
    exact c.lookup?_erase key

/-- Writing a value leaves the entry of another key, unless it goes to make room. -/
theorem lookup?_put_of_ne (policy : CachePolicy τ) (now : τ) (value : ν) (hc : c.keys.Nodup)
    (h : other ≠ key) :
    (c.put policy now key value).1.lookup? other =
      if other ∈ c.evictedKeys policy key then none else c.lookup? other := by
  rw [evictedKeys]
  rcases put_cases policy c now key value with ⟨count, hcount, heq⟩ | ⟨failure, hcount, heq⟩
  · rw [heq, hcount]
    dsimp only
    rw [lookup?_append_of_ne _ h, lookup?_drop (nodup_keys_erase hc key), lookup?_erase_of_ne c h]
  · rw [heq, hcount]
    dsimp only
    rw [if_neg List.not_mem_nil, lookup?_erase_of_ne c h]

/-- A call leaves the entries with different keys. -/
theorem nodup_keys_afterCall (h : c.keys.Nodup) (timed : TimedCall κ ν τ) :
    (c.afterCall policy timed).keys.Nodup := by
  obtain ⟨now, call⟩ := timed
  cases call with
  | put key value =>
    rcases put_cases policy c now key value with ⟨count, -, heq⟩ | ⟨failure, -, heq⟩
    · simp only [afterCall, heq]
      exact nodup_keys_drop_append h count ⟨key, value, now, 0⟩
    · simp only [afterCall, heq]
      exact nodup_keys_erase h key
  | get key =>
    rcases get_cases policy c now key with ⟨-, heq⟩ | ⟨e, -, -, heq⟩ | ⟨e, -, -, heq⟩
    · simpa only [afterCall, heq]
    · simp only [afterCall, heq]
      exact nodup_keys_erase h key
    · simp only [afterCall, heq, keys_countHit]
      exact h
  | contains key => exact h
  | hitCount key => exact h
  | clear => exact List.nodup_nil

/-- After every run the entries have different keys. -/
theorem nodup_keys_ofCalls (policy : CachePolicy τ) (calls : List (TimedCall κ ν τ)) :
    (ofCalls policy calls : Cache κ ν τ).keys.Nodup := by
  induction calls using List.reverseRecOn with
  | nil => exact List.nodup_nil
  | append_singleton calls timed ih =>
    rw [ofCalls_append_singleton]
    exact nodup_keys_afterCall ih timed

end Cache

end Intake
