import Intake.Proofs.Engine.CacheRun
import Mathlib.Order.Lattice

/-!
# What a cache recalls

What a cache holds can be told from its run: an entry lasts from the call that wrote it until a call
writes its key anew, makes room by it, finds it expired or empties the cache. Main statement: the
value of a key is found exactly if the run holds its entry and the entry has not outlived its
lifetime, counted from when it was written; hits are counted for as long as the entry lasts; calls
about one key leave the entries of others, unless they make room by them. Which entries make room is
told by `evictedKeys`. Times are exact here.
-/

namespace Intake

/-- A policy by which entries live for a time, in exact times. -/
def CachePolicy.lasting {τ : Type} [Sub τ] [LinearOrder τ] (maxSize : Int) (lifetime : τ)
    (evictedCount : Nat → Except Failure Nat) : CachePolicy τ where
  maxSize := maxSize
  isExpired writtenAt now := decide (lifetime < now - writtenAt)
  evictedCount := evictedCount

namespace Cache

variable {κ ν τ : Type} [DecidableEq κ]

/-- A call ends the entry of a key that was written at a time: the key is written anew, its entry
goes to make room or is found to have expired, or all entries go. -/
def Ends (policy : CachePolicy τ) (c : Cache κ ν τ) (key : κ) (writtenAt : τ)
    (timed : TimedCall κ ν τ) : Prop :=
  match timed.call with
  | .put other _ => other = key ∨ key ∈ c.evictedKeys policy other
  | .get other => other = key ∧ policy.isExpired writtenAt timed.now = true
  | .contains _ => False
  | .hitCount _ => False
  | .clear => True

/-- A run holds the entry of a key since it was written: the value was stored after some calls, and
none of the calls since has ended the entry. -/
structure HeldSince (policy : CachePolicy τ) (calls before since : List (TimedCall κ ν τ)) (key : κ)
    (value : ν) (writtenAt : τ) : Prop where
  /-- The calls before the value was written, the call that wrote it and the calls since. -/
  split : calls = before ++ ⟨writtenAt, .put key value⟩ :: since
  /-- The value could be stored. -/
  stored : ((ofCalls policy before).put policy writtenAt key value).2.isOk = true
  /-- No call since has ended the entry. -/
  lasts : ∀ earlier timed later, since = earlier ++ timed :: later →
    ¬ (ofCalls policy (before ++ ⟨writtenAt, .put key value⟩ :: earlier)).Ends policy key writtenAt
      timed

/-- Whether a call finds the value of a key. -/
def finds (policy : CachePolicy τ) (c : Cache κ ν τ) (key : κ) (timed : TimedCall κ ν τ) : Bool :=
  match timed.call with
  | .get other => decide (other = key) && (c.get policy timed.now key).2.isSome
  | _ => false

/-- How many of some calls find the value of a key. -/
def findings (policy : CachePolicy τ) (key : κ) : Cache κ ν τ → List (TimedCall κ ν τ) → Nat
  | _, [] => 0
  | c, timed :: rest =>
    (if c.finds policy key timed then 1 else 0) +
      findings policy key (c.afterCall policy timed) rest

/-- How many calls have found the value of a key since it was written. -/
def findingsSince (policy : CachePolicy τ) (before since : List (TimedCall κ ν τ)) (key : κ)
    (value : ν) (writtenAt : τ) : Nat :=
  findings policy key (ofCalls policy (before ++ [⟨writtenAt, .put key value⟩])) since

variable {policy : CachePolicy τ} {calls before since : List (TimedCall κ ν τ)} {key : κ}
  {value : ν} {writtenAt : τ}

theorem findings_append_singleton (policy : CachePolicy τ) (key : κ) (c : Cache κ ν τ)
    (calls : List (TimedCall κ ν τ)) (timed : TimedCall κ ν τ) :
    findings policy key c (calls ++ [timed]) =
      findings policy key c calls +
        if (c.afterCalls policy calls).finds policy key timed then 1 else 0 := by
  induction calls generalizing c with
  | nil => exact (Nat.add_comm _ _).trans rfl
  | cons first rest ih =>
    rw [List.cons_append, findings, findings, ih, Nat.add_assoc]
    rfl

theorem findingsSince_append_singleton (policy : CachePolicy τ)
    (before since : List (TimedCall κ ν τ)) (key : κ) (value : ν) (writtenAt : τ)
    (timed : TimedCall κ ν τ) :
    findingsSince policy before (since ++ [timed]) key value writtenAt =
      findingsSince policy before since key value writtenAt +
        if (ofCalls policy (before ++ ⟨writtenAt, .put key value⟩ :: since)).finds policy key timed
          then 1 else 0 := by
  rw [findingsSince, findings_append_singleton, ← ofCalls_append, List.append_assoc]
  rfl

theorem not_heldSince_nil : ¬ HeldSince policy [] before since key value writtenAt := by
  intro h
  have hsplit := h.split
  simp at hsplit

/-- A value that could be stored is held since then. -/
theorem heldSince_put (policy : CachePolicy τ) {calls : List (TimedCall κ ν τ)}
    (h : ((ofCalls policy calls).put policy writtenAt key value).2.isOk = true) :
    HeldSince policy (calls ++ [⟨writtenAt, .put key value⟩]) calls [] key value writtenAt where
  split := rfl
  stored := h
  lasts earlier timed later heq := by simp at heq

/-- One more call that does not end an entry leaves it held. -/
theorem HeldSince.append_singleton (h : HeldSince policy calls before since key value writtenAt)
    {timed : TimedCall κ ν τ} (hends : ¬ (ofCalls policy calls).Ends policy key writtenAt timed) :
    HeldSince policy (calls ++ [timed]) before (since ++ [timed]) key value writtenAt where
  split := by rw [h.split, List.append_assoc, List.cons_append]
  stored := h.stored
  lasts earlier other later heq := by
    rcases List.eq_nil_or_concat later with rfl | ⟨rest, last, rfl⟩
    · obtain ⟨rfl, hother⟩ := List.append_inj' heq rfl
      cases hother
      rwa [← h.split]
    · rw [List.concat_eq_append, ← List.cons_append, ← List.append_assoc] at heq
      exact h.lasts earlier other rest (List.append_inj' heq rfl).1

/-- An entry that is held after one more call was written by it, or was held before and not ended by
it. -/
theorem heldSince_append_singleton {timed : TimedCall κ ν τ}
    (h : HeldSince policy (calls ++ [timed]) before since key value writtenAt) :
    (timed = ⟨writtenAt, .put key value⟩ ∧ before = calls ∧ since = [] ∧
        ((ofCalls policy calls).put policy writtenAt key value).2.isOk = true) ∨
      ∃ rest, since = rest ++ [timed] ∧ HeldSince policy calls before rest key value writtenAt ∧
        ¬ (ofCalls policy calls).Ends policy key writtenAt timed := by
  rcases List.eq_nil_or_concat since with rfl | ⟨rest, last, rfl⟩
  · obtain ⟨rfl, htimed⟩ := List.append_inj' h.split rfl
    exact .inl ⟨(List.cons.inj htimed).1, rfl, rfl, h.stored⟩
  · rw [List.concat_eq_append] at h ⊢
    have hsplit := h.split
    rw [← List.cons_append, ← List.append_assoc] at hsplit
    obtain ⟨hcalls, htimed⟩ := List.append_inj' hsplit rfl
    obtain rfl : timed = last := (List.cons.inj htimed).1
    refine .inr ⟨rest, rfl, ⟨hcalls, h.stored, fun earlier other later heq => ?_⟩, ?_⟩
    · exact h.lasts earlier other (later ++ [timed]) (by simp [heq])
    · rw [hcalls]
      exact h.lasts rest timed [] rfl

/-- The entry of a key that a call does not end stays, with one more hit if the call finds it. -/
theorem lookup?_afterCall_of_not_ends {c : Cache κ ν τ} (hc : c.keys.Nodup)
    {e : CacheEntry κ ν τ} (he : c.lookup? key = some e) {timed : TimedCall κ ν τ}
    (h : ¬ c.Ends policy key e.writtenAt timed) :
    (c.afterCall policy timed).lookup? key =
      some { e with hits := e.hits + if c.finds policy key timed then 1 else 0 } := by
  obtain ⟨now, call⟩ := timed
  cases call with
  | put other value =>
    obtain ⟨hne, hstays⟩ := not_or.mp h
    have hput := lookup?_put_of_ne policy now value hc (Ne.symm hne)
    rw [if_neg hstays] at hput
    exact hput.trans he
  | get other =>
    by_cases hkey : other = key
    · subst hkey
      rcases get_cases policy c now other with ⟨hnone, -⟩ | ⟨d, hd, hexpired, -⟩ | ⟨d, hd, -, heq⟩
      · rw [he] at hnone
        cases hnone
      · rw [he] at hd
        cases hd
        exact absurd ⟨rfl, hexpired⟩ h
      · simp only [afterCall, finds, heq, lookup?_countHit_self, he]
        simp
    · have hget := lookup?_get_of_ne policy c now (Ne.symm hkey)
      simp only [afterCall, hget, he, finds, hkey]
      simp
  | contains other => exact he
  | hitCount other => exact he
  | clear => exact absurd trivial h

/-- What is found under a key after a call was written by it, or was there before and not ended by
it. -/
theorem of_lookup?_afterCall {c : Cache κ ν τ} (hc : c.keys.Nodup) {timed : TimedCall κ ν τ}
    {e : CacheEntry κ ν τ} (h : (c.afterCall policy timed).lookup? key = some e) :
    (∃ value, timed.call = .put key value ∧ (c.put policy timed.now key value).2.isOk = true ∧
        e = ⟨key, value, timed.now, 0⟩) ∨
      ∃ d, c.lookup? key = some d ∧ ¬ c.Ends policy key d.writtenAt timed := by
  obtain ⟨now, call⟩ := timed
  cases call with
  | put other value =>
    by_cases hkey : key = other
    · subst hkey
      change (c.put policy now key value).1.lookup? key = some e at h
      rw [lookup?_put_self] at h
      split at h
      · next hok =>
        cases h
        exact .inl ⟨value, rfl, hok, rfl⟩
      · cases h
    · change (c.put policy now other value).1.lookup? key = some e at h
      rw [lookup?_put_of_ne policy now value hc hkey] at h
      split at h
      · cases h
      · next hstays => exact .inr ⟨e, h, not_or.mpr ⟨fun heq => hkey heq.symm, hstays⟩⟩
  | get other =>
    by_cases hkey : key = other
    · subst hkey
      change (c.get policy now key).1.lookup? key = some e at h
      rcases get_cases policy c now key with ⟨hnone, heq⟩ | ⟨d, -, -, heq⟩ | ⟨d, hd, hlives, heq⟩
      · rw [heq, hnone] at h
        cases h
      · rw [heq, lookup?_erase] at h
        cases h
      · refine .inr ⟨d, hd, ?_⟩
        rintro ⟨-, hexpired⟩
        rw [hlives] at hexpired
        cases hexpired
    · change (c.get policy now other).1.lookup? key = some e at h
      rw [lookup?_get_of_ne policy c now hkey] at h
      exact .inr ⟨e, h, fun hends => hkey hends.1.symm⟩
  | contains other => exact .inr ⟨e, h, id⟩
  | hitCount other => exact .inr ⟨e, h, id⟩
  | clear => cases h

/-- The entries of a cache are those that its run holds, with the hits since they were written. -/
theorem lookup?_ofCalls_iff (policy : CachePolicy τ) (calls : List (TimedCall κ ν τ)) (key : κ)
    (e : CacheEntry κ ν τ) :
    (ofCalls policy calls).lookup? key = some e ↔
      e.key = key ∧ ∃ before since, HeldSince policy calls before since key e.value e.writtenAt ∧
        e.hits = findingsSince policy before since key e.value e.writtenAt := by
  induction calls using List.reverseRecOn generalizing e with
  | nil =>
    constructor
    · intro h
      cases h
    · rintro ⟨-, before, since, h, -⟩
      exact absurd h not_heldSince_nil
  | append_singleton calls timed ih =>
    have hc := nodup_keys_ofCalls (κ := κ) (ν := ν) policy calls
    rw [ofCalls_append_singleton]
    constructor
    · intro h
      rcases of_lookup?_afterCall hc h with ⟨value, hcall, hstored, rfl⟩ | ⟨d, hd, hends⟩
      · obtain ⟨now, call⟩ := timed
        cases hcall
        exact ⟨rfl, calls, [], heldSince_put policy hstored, rfl⟩
      · obtain ⟨hkey, before, since, hheld, hhits⟩ := (ih d).mp hd
        have hafter := lookup?_afterCall_of_not_ends hc hd hends
        rw [h] at hafter
        cases hafter
        refine ⟨hkey, before, since ++ [timed], hheld.append_singleton hends, ?_⟩
        rw [findingsSince_append_singleton, ← hheld.split, ← hhits]
    · rintro ⟨hkey, before, since, h, hhits⟩
      rcases heldSince_append_singleton h with ⟨rfl, rfl, rfl, hstored⟩ | ⟨rest, rfl, hheld, hends⟩
      · change ((ofCalls policy before).put policy e.writtenAt key e.value).1.lookup? key = some e
        rw [lookup?_put_self, if_pos hstored]
        obtain ⟨entryKey, value, writtenAt, hits⟩ := e
        obtain rfl : entryKey = key := hkey
        obtain rfl : hits = 0 := hhits
        rfl
      · rw [findingsSince_append_singleton, ← hheld.split] at hhits
        have hbefore := (ih ⟨key, e.value, e.writtenAt,
          findingsSince policy before rest key e.value e.writtenAt⟩).mpr
          ⟨rfl, before, rest, hheld, rfl⟩
        rw [lookup?_afterCall_of_not_ends hc hbefore hends]
        obtain ⟨entryKey, value, writtenAt, hits⟩ := e
        obtain rfl : entryKey = key := hkey
        exact congrArg (fun n => some (CacheEntry.mk entryKey value writtenAt n)) hhits.symm

/-- What is held is found, with the hits since it was written. -/
theorem HeldSince.lookup? (h : HeldSince policy calls before since key value writtenAt) :
    (ofCalls policy calls).lookup? key =
      some ⟨key, value, writtenAt, findingsSince policy before since key value writtenAt⟩ :=
  (lookup?_ofCalls_iff policy calls key ⟨key, value, writtenAt, _⟩).mpr
    ⟨rfl, before, since, h, rfl⟩

/-- What is not held is not found. -/
theorem lookup?_ofCalls_eq_none
    (h : ∀ before since value writtenAt,
      ¬ HeldSince policy calls before since key value writtenAt) :
    (ofCalls policy calls).lookup? key = none := by
  cases hfound : (ofCalls policy calls).lookup? key with
  | none => rfl
  | some e =>
    obtain ⟨-, before, since, hheld, -⟩ := (lookup?_ofCalls_iff policy calls key e).mp hfound
    exact absurd hheld (h before since e.value e.writtenAt)

/-- The value of a key is found exactly if its entry is held and has not expired. -/
theorem get_ofCalls_eq_some_iff (policy : CachePolicy τ) (calls : List (TimedCall κ ν τ)) (now : τ)
    (key : κ) (value : ν) :
    ((ofCalls policy calls).get policy now key).2 = some value ↔
      ∃ before since writtenAt, HeldSince policy calls before since key value writtenAt ∧
        policy.isExpired writtenAt now = false := by
  constructor
  · intro h
    rcases get_cases policy (ofCalls policy calls) now key with
      ⟨-, heq⟩ | ⟨e, -, -, heq⟩ | ⟨e, he, hlives, heq⟩
    · rw [heq] at h
      cases h
    · rw [heq] at h
      cases h
    · rw [heq] at h
      cases h
      obtain ⟨-, before, since, hheld, -⟩ := (lookup?_ofCalls_iff policy calls key e).mp he
      exact ⟨before, since, e.writtenAt, hheld, hlives⟩
  · rintro ⟨before, since, writtenAt, hheld, hlives⟩
    simp [get, hheld.lookup?, hlives]

/-- A key without an entry has none until it is written. -/
theorem lookup?_afterCalls_eq_none {c : Cache κ ν τ} (hc : c.keys.Nodup)
    (hnone : c.lookup? key = none) (later : List (TimedCall κ ν τ))
    (hlater : ∀ timed ∈ later, ∀ value, timed.call ≠ .put key value) :
    (c.afterCalls policy later).lookup? key = none := by
  induction later generalizing c with
  | nil => exact hnone
  | cons timed rest ih =>
    refine ih (nodup_keys_afterCall hc timed) ?_ fun other hm =>
      hlater other (List.mem_cons_of_mem _ hm)
    cases hfound : (c.afterCall policy timed).lookup? key with
    | none => rfl
    | some e =>
      rcases of_lookup?_afterCall hc hfound with ⟨value, hcall, -⟩ | ⟨d, hd, -⟩
      · exact absurd hcall (hlater timed List.mem_cons_self value)
      · rw [hnone] at hd
        cases hd

/-- A call about one key leaves the entries of others, or makes room by them. -/
theorem lookup?_afterCall_of_isOn {c : Cache κ ν τ} (hc : c.keys.Nodup) {timed : TimedCall κ ν τ}
    (hon : timed.call.IsOn key) {other : κ} (hne : other ≠ key) :
    (c.afterCall policy timed).lookup? other = c.lookup? other ∨
      (∃ value, timed.call = .put key value) ∧ other ∈ c.evictedKeys policy key ∧
        (c.afterCall policy timed).lookup? other = none := by
  obtain ⟨now, call⟩ := timed
  cases call with
  | put own value =>
    obtain rfl : own = key := hon
    have hput := lookup?_put_of_ne policy now value hc hne
    by_cases hleaves : other ∈ c.evictedKeys policy own
    · rw [if_pos hleaves] at hput
      exact .inr ⟨⟨value, rfl⟩, hleaves, hput⟩
    · rw [if_neg hleaves] at hput
      exact .inl hput
  | get own =>
    obtain rfl : own = key := hon
    exact .inl (lookup?_get_of_ne policy c now hne)
  | contains own => exact .inl rfl
  | hitCount own => exact .inl rfl
  | clear => exact hon.elim

/-- What a cache recalls after a run, when its entries live for a time. -/
structure Recalls [Sub τ] [LinearOrder τ] (policy : CachePolicy τ) (lifetime : τ)
    (calls : List (TimedCall κ ν τ)) : Prop where
  /-- The value of a key is found exactly if its entry is held and has not outlived its lifetime. -/
  get_eq_some_iff : ∀ now key value,
    ((ofCalls policy calls).get policy now key).2 = some value ↔
      ∃ before since writtenAt, HeldSince policy calls before since key value writtenAt ∧
        now - writtenAt ≤ lifetime
  /-- There is an entry exactly if one is held, expired or not. -/
  contains_iff : ∀ key, (ofCalls policy calls).contains key = true ↔
    ∃ before since value writtenAt, HeldSince policy calls before since key value writtenAt
  /-- The hits of an entry that is held are the times it was found since it was written. -/
  hitCount_eq : ∀ before since key value writtenAt,
    HeldSince policy calls before since key value writtenAt →
      (ofCalls policy calls).hitCount key =
        findingsSince policy before since key value writtenAt
  /-- A key of which no entry is held has no hits. -/
  hitCount_eq_zero : ∀ key, (∀ before since value writtenAt,
    ¬ HeldSince policy calls before since key value writtenAt) →
      (ofCalls policy calls).hitCount key = 0
  /-- An entry that was found to have outlived its lifetime is gone until its key is written. -/
  lookup?_of_expired : ∀ before since key value writtenAt,
    HeldSince policy calls before since key value writtenAt →
      ∀ now, lifetime < now - writtenAt →
        ∀ later : List (TimedCall κ ν τ),
          (∀ timed ∈ later, ∀ other, timed.call ≠ .put key other) →
            (ofCalls policy (calls ++ ⟨now, .get key⟩ :: later)).lookup? key = none
  /-- A call about one key leaves the value, the time and the hits of the entries of others, or
  makes room by them. -/
  lookup?_of_ne : ∀ timed key, timed.call.IsOn key → ∀ other ≠ key,
    (ofCalls policy (calls ++ [timed])).lookup? other = (ofCalls policy calls).lookup? other ∨
      (∃ value, timed.call = .put key value) ∧
        other ∈ (ofCalls policy calls).evictedKeys policy key ∧
          (ofCalls policy (calls ++ [timed])).lookup? other = none

/-- After every run a cache recalls what the run holds, however it makes room. -/
theorem recalls_ofCalls [Sub τ] [LinearOrder τ] (maxSize : Int) (lifetime : τ)
    (evictedCount : Nat → Except Failure Nat) (calls : List (TimedCall κ ν τ)) :
    Recalls (.lasting maxSize lifetime evictedCount) lifetime calls where
  get_eq_some_iff now key value := by
    rw [get_ofCalls_eq_some_iff]
    simp only [CachePolicy.lasting, decide_eq_false_iff_not, not_lt]
  contains_iff key := by
    rw [contains, Option.isSome_iff_exists]
    constructor
    · rintro ⟨e, he⟩
      obtain ⟨-, before, since, hheld, -⟩ := (lookup?_ofCalls_iff _ calls key e).mp he
      exact ⟨before, since, e.value, e.writtenAt, hheld⟩
    · rintro ⟨before, since, value, writtenAt, hheld⟩
      exact ⟨_, hheld.lookup?⟩
  hitCount_eq before since key value writtenAt hheld := by
    rw [hitCount, hheld.lookup?]
    rfl
  hitCount_eq_zero key hnone := by
    rw [hitCount, lookup?_ofCalls_eq_none hnone]
    rfl
  lookup?_of_expired before since key value writtenAt hheld now hexpired later hlater := by
    have hc := nodup_keys_ofCalls (.lasting maxSize lifetime evictedCount)
      (calls ++ [⟨now, .get key⟩])
    have hgone : (ofCalls (.lasting maxSize lifetime evictedCount)
        (calls ++ [⟨now, .get key⟩])).lookup? key = none := by
      have hold : (CachePolicy.lasting maxSize lifetime evictedCount).isExpired writtenAt now = true :=
        decide_eq_true hexpired
      rw [ofCalls_append_singleton]
      exact lookup?_get_of_expired hheld.lookup? hold
    rw [List.append_cons, ofCalls_append]
    exact lookup?_afterCalls_eq_none hc hgone later hlater
  lookup?_of_ne timed key hon other hne := by
    rw [ofCalls_append_singleton]
    exact lookup?_afterCall_of_isOn (nodup_keys_ofCalls _ calls) hon hne

end Cache

end Intake
