import Intake.Proofs.Engine.Eviction
import Intake.Proofs.Engine.Recall

/-!
# The order and the capacity of a cache

The place of an entry in a cache tells its age: entries are written at the end, and nothing moves
them. Main statement: after every run there are no more entries than fill the cache, under different
keys, in the order of the times at which they were last written; a value that is written anew makes
no room; one that is new makes room in a full cache by the entries at the front, which are the
oldest, and leaves the others as they are; lookups change what goes later only by dropping what they
find expired. The times of a run are in some order, and entries may expire in any way.
-/

namespace Intake

/-- The policy of limits where entries expire in some way. -/
def CacheLimits.policyBy {τ : Type} (limits : CacheLimits) (isExpired : τ → τ → Bool) :
    CachePolicy τ where
  maxSize := limits.maxSize
  isExpired := isExpired
  evictedCount := evictedOf limits.evictionShare

/-- The policy of limits is that where entries expire by their lifetime. -/
theorem CacheLimits.policy_eq_policyBy (limits : CacheLimits) :
    limits.policy = limits.policyBy fun writtenAt now =>
      (Number.float limits.lifetime).lessThan (.float (now - writtenAt)) := rfl

namespace Cache

variable {κ ν τ : Type} [DecidableEq κ] {policy : CachePolicy τ} {c d : Cache κ ν τ} {now : τ}
  {key : κ} {value : ν}

/-- The times at which the entries were written, the oldest first. -/
def times (c : Cache κ ν τ) : List τ := c.entries.map (·.writtenAt)

theorem times_erase_sublist (c : Cache κ ν τ) (key : κ) : (c.erase key).times.Sublist c.times :=
  List.filter_sublist.map _

/-- A hit leaves the times. -/
theorem times_countHit (c : Cache κ ν τ) (key : κ) : (c.countHit key).times = c.times :=
  c.map_countHit key fun _ _ => rfl

/-- A call leaves the order of the times, to which it adds its own at the end. -/
theorem times_afterCall_sublist (policy : CachePolicy τ) (c : Cache κ ν τ)
    (timed : TimedCall κ ν τ) :
    (c.afterCall policy timed).times.Sublist (c.times ++ [timed.now]) := by
  have hleft := List.sublist_append_left c.times [timed.now]
  obtain ⟨now, call⟩ := timed
  cases call with
  | put key value =>
    have herased := times_erase_sublist c key
    rcases put_cases policy c now key value with ⟨count, -, heq⟩ | ⟨failure, -, heq⟩
    · have htimes : (c.afterCall policy ⟨now, .put key value⟩).times =
          (c.erase key).times.drop count ++ [now] := by
        simp [afterCall, heq, times]
      rw [htimes]
      exact ((List.drop_sublist count _).trans herased).append_right [now]
    · simp only [afterCall, heq]
      exact herased.trans hleft
  | get key =>
    rcases get_cases policy c now key with ⟨-, heq⟩ | ⟨e, -, -, heq⟩ | ⟨e, -, -, heq⟩
    · simpa only [afterCall, heq] using hleft
    · simp only [afterCall, heq]
      exact (times_erase_sublist c key).trans hleft
    · simpa only [afterCall, heq, times_countHit] using hleft
  | contains key => exact hleft
  | hitCount key => exact hleft
  | clear => exact List.nil_sublist _

/-- After every run the times of the entries are in the order of those of the run. -/
theorem times_ofCalls_sublist (policy : CachePolicy τ) (calls : List (TimedCall κ ν τ)) :
    (ofCalls policy calls).times.Sublist (calls.map (·.now)) := by
  induction calls using List.reverseRecOn with
  | nil => exact List.nil_sublist _
  | append_singleton calls timed ih =>
    rw [ofCalls_append_singleton, List.map_append]
    exact (times_afterCall_sublist policy _ timed).trans (ih.append_right [timed.now])

/-- A key that is there leaves fewer entries when it goes. -/
theorem size_erase_lt (h : key ∈ c.keys) : (c.erase key).size < c.size := by
  obtain ⟨e, he, rfl⟩ := List.mem_map.mp h
  exact List.length_filter_lt_length_iff_exists.mpr ⟨e, he, by simp⟩

/-- A key that is not there leaves the cache as it is when it goes. -/
theorem erase_of_notMem (h : key ∉ c.keys) : c.erase key = c := by
  have hall : c.entries.filter (fun e => decide (e.key ≠ key)) = c.entries := by
    rw [List.filter_eq_self]
    exact fun e he => decide_eq_true fun heq => h (heq ▸ List.mem_map_of_mem (f := (·.key)) he)
  rw [erase, hall]

theorem size_erase_le (c : Cache κ ν τ) (key : κ) : (c.erase key).size ≤ c.size :=
  List.length_filter_le _ _

/-- A cache with room keeps all other entries when a value is written. -/
theorem put_of_room (policy : CachePolicy τ) (now : τ) (value : ν)
    (h : ((c.erase key).size : Int) < policy.maxSize) :
    c.put policy now key value = (⟨(c.erase key).entries ++ [⟨key, value, now, 0⟩]⟩, .ok ()) := by
  rw [put_eq, leavingCount, if_neg (not_le.mpr h)]
  rfl

/-- A full cache loses its oldest entries when a new value is written. -/
theorem put_of_full (hnew : key ∉ c.keys) (hfull : policy.maxSize ≤ c.size) {count : Nat}
    (hcount : policy.evictedCount c.size = .ok count) :
    c.put policy now key value =
      (⟨c.entries.drop count ++ [⟨key, value, now, 0⟩]⟩, .ok ()) := by
  rw [put_eq, leavingCount, erase_of_notMem hnew, if_pos hfull, hcount]

/-- A call leaves no more entries than fill the cache, if some go to make room. -/
theorem size_afterCall_le (hmax : 1 ≤ policy.maxSize)
    (hsome : ∀ size count, policy.evictedCount size = .ok count → 1 ≤ count)
    (h : (c.size : Int) ≤ policy.maxSize) (timed : TimedCall κ ν τ) :
    ((c.afterCall policy timed).size : Int) ≤ policy.maxSize := by
  have herased (key : κ) := size_erase_le c key
  obtain ⟨now, call⟩ := timed
  cases call with
  | put key value =>
    have hle := herased key
    rcases put_cases policy c now key value with ⟨count, hcount, heq⟩ | ⟨failure, -, heq⟩
    · have hsize : (c.afterCall policy ⟨now, .put key value⟩).size =
          (c.erase key).size - count + 1 := by
        simp [afterCall, heq, size]
      rw [hsize]
      rw [leavingCount] at hcount
      split at hcount
      · have := hsome _ _ hcount
        omega
      · omega
    · simp only [afterCall, heq]
      omega
  | get key =>
    have hle := herased key
    rcases get_cases policy c now key with ⟨-, heq⟩ | ⟨e, -, -, heq⟩ | ⟨e, -, -, heq⟩
    · simpa only [afterCall, heq] using h
    · simp only [afterCall, heq]
      omega
    · simpa only [afterCall, heq, size, countHit, List.length_map] using h
  | contains key => exact h
  | hitCount key => exact h
  | clear => exact Int.le_of_lt hmax

/-- After every run there are no more entries than fill the cache. -/
theorem size_ofCalls_le (policy : CachePolicy τ) (hmax : 1 ≤ policy.maxSize)
    (hsome : ∀ size count, policy.evictedCount size = .ok count → 1 ≤ count)
    (calls : List (TimedCall κ ν τ)) :
    ((ofCalls policy calls : Cache κ ν τ).size : Int) ≤ policy.maxSize := by
  induction calls using List.reverseRecOn with
  | nil => exact Int.le_of_lt hmax
  | append_singleton calls timed ih =>
    rw [ofCalls_append_singleton]
    exact size_afterCall_le hmax hsome ih timed

/-- An entry is found under its key if the keys are different. -/
theorem lookup?_of_mem (h : c.keys.Nodup) {e : CacheEntry κ ν τ} (he : e ∈ c.entries) :
    c.lookup? e.key = some e := by
  cases hfound : c.lookup? e.key with
  | none =>
    exact absurd (List.mem_map_of_mem (f := (·.key)) he) ((lookup?_eq_none_iff c e.key).mp hfound)
  | some d =>
    obtain ⟨hd, hkey⟩ := mem_of_lookup? hfound
    exact congrArg some (List.inj_on_of_nodup_map h hd he hkey)

/-- An entry was written by the last call that wrote its key. -/
theorem exists_last_put (policy : CachePolicy τ) (calls : List (TimedCall κ ν τ))
    {e : CacheEntry κ ν τ} (he : e ∈ (ofCalls policy calls).entries) :
    ∃ before since, calls = before ++ ⟨e.writtenAt, .put e.key e.value⟩ :: since ∧
      ∀ timed ∈ since, ∀ value, timed.call ≠ .put e.key value := by
  have hfound := lookup?_of_mem (nodup_keys_ofCalls policy calls) he
  obtain ⟨-, before, since, hheld, -⟩ := (lookup?_ofCalls_iff policy calls e.key e).mp hfound
  refine ⟨before, since, hheld.split, fun timed hm value hcall => ?_⟩
  obtain ⟨earlier, later, rfl⟩ := List.append_of_mem hm
  refine hheld.lasts earlier timed later rfl ?_
  rw [Ends, hcall]
  exact .inl rfl

/-- The cache without hits. -/
def forgetHits (c : Cache κ ν τ) : Cache κ ν τ := ⟨c.entries.map fun e => { e with hits := 0 }⟩

/-- The cache without the entries of some keys. -/
def without (c : Cache κ ν τ) (dropped : List κ) : Cache κ ν τ :=
  ⟨c.entries.filter fun e => decide (e.key ∉ dropped)⟩

theorem forgetHits_erase (c : Cache κ ν τ) (key : κ) :
    (c.erase key).forgetHits = c.forgetHits.erase key := by
  simp only [forgetHits, erase, List.filter_map]
  rfl

theorem forgetHits_countHit (c : Cache κ ν τ) (key : κ) :
    (c.countHit key).forgetHits = c.forgetHits :=
  congrArg Cache.mk (c.map_countHit key fun _ _ => rfl)

omit [DecidableEq κ] in
theorem keys_forgetHits (c : Cache κ ν τ) : c.forgetHits.keys = c.keys := by
  simp [keys, forgetHits]

omit [DecidableEq κ] in
theorem size_forgetHits (c : Cache κ ν τ) : c.forgetHits.size = c.size := by
  simp [size, forgetHits]

omit [DecidableEq κ] in
theorem forgetHits_forgetHits (c : Cache κ ν τ) : c.forgetHits.forgetHits = c.forgetHits := by
  simp only [forgetHits, List.map_map]
  rfl

theorem lookup?_forgetHits (c : Cache κ ν τ) (key : κ) :
    c.forgetHits.lookup? key = (c.lookup? key).map fun e => { e with hits := 0 } := by
  simp only [forgetHits, lookup?, List.find?_map]
  rfl

/-- Hits do not matter for how many entries go. -/
theorem leavingCount_forgetHits (policy : CachePolicy τ) (key : κ) (c : Cache κ ν τ) :
    c.forgetHits.leavingCount policy key = c.leavingCount policy key := by
  simp only [leavingCount, ← forgetHits_erase, size_forgetHits]

/-- Hits do not matter for which entries go. -/
theorem evictedKeys_forgetHits (policy : CachePolicy τ) (key : κ) (c : Cache κ ν τ) :
    c.forgetHits.evictedKeys policy key = c.evictedKeys policy key := by
  rw [evictedKeys, evictedKeys, leavingCount_forgetHits, ← forgetHits_erase, keys_forgetHits]

/-- Hits do not matter for a call, but for hits. -/
theorem forgetHits_afterCall (policy : CachePolicy τ) (c : Cache κ ν τ)
    (timed : TimedCall κ ν τ) :
    (c.forgetHits.afterCall policy timed).forgetHits = (c.afterCall policy timed).forgetHits := by
  obtain ⟨now, call⟩ := timed
  cases call with
  | put key value =>
    simp only [afterCall, put_eq, leavingCount_forgetHits, ← forgetHits_erase]
    cases c.leavingCount policy key with
    | ok count =>
      simp only [forgetHits, List.map_append, List.map_drop, List.map_map]
      rfl
    | error failure => exact forgetHits_forgetHits _
  | get key =>
    simp only [afterCall, get, lookup?_forgetHits]
    cases c.lookup? key with
    | none => exact forgetHits_forgetHits c
    | some e =>
      dsimp only [Option.map]
      split
      · rw [← forgetHits_erase, forgetHits_forgetHits]
      · rw [forgetHits_countHit, forgetHits_countHit, forgetHits_forgetHits]
  | contains key => exact forgetHits_forgetHits c
  | hitCount key => exact forgetHits_forgetHits c
  | clear => rfl

/-- Hits do not matter for calls, but for hits. -/
theorem forgetHits_afterCalls (policy : CachePolicy τ) (calls : List (TimedCall κ ν τ))
    (h : c.forgetHits = d.forgetHits) :
    (c.afterCalls policy calls).forgetHits = (d.afterCalls policy calls).forgetHits := by
  induction calls generalizing c d with
  | nil => exact h
  | cons timed rest ih =>
    refine ih ?_
    rw [← forgetHits_afterCall, h, forgetHits_afterCall]

theorem erase_without (c : Cache κ ν τ) (dropped : List κ) (key : κ) :
    (c.without dropped).erase key = c.without (key :: dropped) := by
  simp [erase, without, List.filter_filter, not_or]

/-- An entry that is found without some keys is the one of its key. -/
theorem lookup?_of_without {dropped : List κ} {e : CacheEntry κ ν τ}
    (h : (c.without dropped).lookup? key = some e) (hc : c.keys.Nodup) :
    c.lookup? key = some e := by
  obtain ⟨hm, rfl⟩ := mem_of_lookup? h
  exact lookup?_of_mem hc (List.mem_filter.mp hm).1

/-- Lookups change nothing but hits, unless they find entries expired, which they drop. -/
theorem exists_dropped (policy : CachePolicy τ) (hc : c.keys.Nodup) (lookups : List (TimedCall κ ν τ))
    (h : ∀ timed ∈ lookups, timed.call.IsLookup) :
    ∃ dropped : List κ,
      (∀ key ∈ dropped, ∃ timed ∈ lookups, timed.call = .get key ∧
        ∃ e ∈ c.entries, e.key = key ∧ policy.isExpired e.writtenAt timed.now = true) ∧
      (c.afterCalls policy lookups).forgetHits = (c.without dropped).forgetHits := by
  induction lookups using List.reverseRecOn with
  | nil => exact ⟨[], by simp, by simp [without, afterCalls]⟩
  | append_singleton lookups timed ih =>
    obtain ⟨dropped, hdropped, heq⟩ :=
      ih fun other hm => h other (List.mem_append_left _ hm)
    have hmore : ∀ key ∈ dropped, ∃ other ∈ lookups ++ [timed], other.call = .get key ∧
        ∃ e ∈ c.entries, e.key = key ∧ policy.isExpired e.writtenAt other.now = true :=
      fun key hm => (hdropped key hm).imp fun _ => And.imp_left (List.mem_append_left _)
    rw [afterCalls_append]
    obtain ⟨now, call⟩ := timed
    cases call with
    | put key value => exact (h ⟨now, .put key value⟩ (by simp)).elim
    | get key =>
      change ∃ dropped, _ ∧ (((c.afterCalls policy lookups).get policy now key).1).forgetHits = _
      rcases get_cases policy (c.afterCalls policy lookups) now key with
        ⟨-, hget⟩ | ⟨e, he, hexpired, hget⟩ | ⟨e, -, -, hget⟩
      · rw [hget]
        exact ⟨dropped, hmore, heq⟩
      · -- The entry that is found stood in the cache before the lookups, with other hits.
        have hbefore : ∃ d, c.lookup? key = some d ∧ d.writtenAt = e.writtenAt := by
          have hboth := lookup?_forgetHits (c.afterCalls policy lookups) key
          rw [heq, lookup?_forgetHits, he, Option.map_some, Option.map_eq_some_iff] at hboth
          obtain ⟨d, hd, hsame⟩ := hboth
          exact ⟨d, lookup?_of_without hd hc, congrArg (·.writtenAt) hsame⟩
        obtain ⟨d, hd, htime⟩ := hbefore
        obtain ⟨hm, hkey⟩ := mem_of_lookup? hd
        refine ⟨key :: dropped, ?_, ?_⟩
        · rw [List.forall_mem_cons]
          exact ⟨⟨⟨now, .get key⟩, by simp, rfl, d, hm, hkey, htime ▸ hexpired⟩, hmore⟩
        · rw [hget, forgetHits_erase, heq, ← forgetHits_erase, erase_without]
      · rw [hget, forgetHits_countHit]
        exact ⟨dropped, hmore, heq⟩
    | contains key => exact ⟨dropped, hmore, heq⟩
    | hitCount key => exact ⟨dropped, hmore, heq⟩
    | clear => exact (h ⟨now, .clear⟩ (by simp)).elim

/-- What a cache keeps to after a run, where times are in some order. -/
structure InOrder (limits : CacheLimits) (policy : CachePolicy τ) (notAfter : τ → τ → Prop)
    (calls : List (TimedCall κ ν τ)) : Prop where
  /-- There are no more entries than fill the cache. -/
  size_le : ((ofCalls policy calls : Cache κ ν τ).size : Int) ≤ limits.maxSize
  /-- Entries have different keys. -/
  nodup : (ofCalls policy calls : Cache κ ν τ).keys.Nodup
  /-- Entries stand in the order of the times at which they were written. -/
  pairwise : (ofCalls policy calls : Cache κ ν τ).entries.Pairwise fun d e =>
    notAfter d.writtenAt e.writtenAt
  /-- An entry was written by the last call that wrote its key. -/
  last : ∀ e ∈ (ofCalls policy calls : Cache κ ν τ).entries,
    ∃ before since, calls = before ++ ⟨e.writtenAt, .put e.key e.value⟩ :: since ∧
      ∀ timed ∈ since, ∀ value, timed.call ≠ .put e.key value
  /-- A value that is written anew leaves all other entries. -/
  put_again : ∀ now key value, key ∈ (ofCalls policy calls : Cache κ ν τ).keys →
    (ofCalls policy calls).put policy now key value =
      (⟨((ofCalls policy calls).erase key).entries ++ [⟨key, value, now, 0⟩]⟩, .ok ())
  /-- A new value leaves all entries of a cache that is not full. -/
  put_room : ∀ now key value, key ∉ (ofCalls policy calls : Cache κ ν τ).keys →
    ((ofCalls policy calls : Cache κ ν τ).size : Int) < limits.maxSize →
      (ofCalls policy calls).put policy now key value =
        (⟨(ofCalls policy calls).entries ++ [⟨key, value, now, 0⟩]⟩, .ok ())
  /-- A new value makes room in a full cache: so many entries go as the share of them tells, at
  least one, which were written no later than those that stay as they are. -/
  put_full : ∀ now key value, key ∉ (ofCalls policy calls : Cache κ ν τ).keys →
    limits.maxSize ≤ ((ofCalls policy calls : Cache κ ν τ).size : Int) →
      ∀ whole, (Binary64.ofInt (ofCalls policy calls : Cache κ ν τ).size *
          limits.evictionShare).truncate? = some whole →
        (ofCalls policy calls).put policy now key value =
            (⟨(ofCalls policy calls).entries.drop (max 1 whole).toNat ++ [⟨key, value, now, 0⟩]⟩,
              .ok ()) ∧
          ∀ gone ∈ (ofCalls policy calls : Cache κ ν τ).entries.take (max 1 whole).toNat,
            ∀ left ∈ (ofCalls policy calls : Cache κ ν τ).entries.drop (max 1 whole).toNat,
              notAfter gone.writtenAt left.writtenAt
  /-- The share of the entries has an integer part, which is no more than all of them as long as
  every number of entries is a double. -/
  share : (ofCalls policy calls : Cache κ ν τ).size < 2 ^ 53 →
    ∃ whole, (Binary64.ofInt (ofCalls policy calls : Cache κ ν τ).size *
      limits.evictionShare).truncate? = some whole ∧
        whole ≤ (ofCalls policy calls : Cache κ ν τ).size
  /-- Lookups change what goes later only by dropping what they find expired. -/
  lookups : ∀ lookups : List (TimedCall κ ν τ), (∀ timed ∈ lookups, timed.call.IsLookup) →
    ∃ dropped : List κ,
      (∀ key ∈ dropped, ∃ timed ∈ lookups, timed.call = .get key ∧
        ∃ e ∈ (ofCalls policy calls).entries,
          e.key = key ∧ policy.isExpired e.writtenAt timed.now = true) ∧
      ∀ later key, (ofCalls policy (calls ++ lookups ++ later)).evictedKeys policy key =
        (((ofCalls policy calls).without dropped).afterCalls policy later).evictedKeys policy key

/-- After every run with valid limits, in which no call is before an earlier one, a cache keeps to
its order and its capacity. -/
theorem inOrder_ofCalls {limits : CacheLimits} (h : limits.Valid) (isExpired : τ → τ → Bool)
    (notAfter : τ → τ → Prop) (calls : List (TimedCall κ ν τ))
    (hcalls : calls.Pairwise fun a b => notAfter a.now b.now) :
    InOrder limits (limits.policyBy isExpired) notAfter calls := by
  have hsize := size_ofCalls_le (limits.policyBy isExpired) h.maxSize
    (fun size count => one_le_of_evictedOf) calls
  have hnodup := nodup_keys_ofCalls (limits.policyBy isExpired) calls
  have hpairwise : (ofCalls (limits.policyBy isExpired) calls).entries.Pairwise fun d e =>
      notAfter d.writtenAt e.writtenAt := by
    rw [← List.pairwise_map (f := CacheEntry.writtenAt)]
    exact (List.pairwise_map.mpr hcalls).sublist (times_ofCalls_sublist _ calls)
  refine ⟨hsize, hnodup, hpairwise, fun e => exists_last_put _ calls, ?_, ?_, ?_, ?_, ?_⟩
  · intro now key value hkey
    exact put_of_room _ now value ((Int.ofNat_lt.mpr (size_erase_lt hkey)).trans_le hsize)
  · intro now key value hkey hroom
    have herase := erase_of_notMem hkey
    have hput := put_of_room (limits.policyBy isExpired) now value (herase.symm ▸ hroom)
    rwa [herase] at hput
  · intro now key value hkey hfull whole hwhole
    refine ⟨put_of_full hkey hfull (evictedOf_of_truncate? hwhole), fun gone hgone left hleft => ?_⟩
    rw [← List.take_append_drop (max 1 whole).toNat (ofCalls _ calls).entries] at hpairwise
    exact (List.pairwise_append.mp hpairwise).2.2 gone hgone left hleft
  · exact exists_truncate?_le h
  · intro lookups hlookups
    obtain ⟨dropped, hdropped, heq⟩ := exists_dropped (limits.policyBy isExpired) hnodup lookups
      hlookups
    refine ⟨dropped, hdropped, fun later key => ?_⟩
    rw [ofCalls_append, ofCalls_append, ← evictedKeys_forgetHits, forgetHits_afterCalls _ later heq,
      evictedKeys_forgetHits]

/-- Limits of a cache that is full with two entries. -/
def pairLimits : CacheLimits := ⟨2, Binary64.ofInt 300, Binary64.ofDecimal false 5 (-1)⟩

/-- Two values are written, the older one is asked for, and a third one is written. -/
def pairCalls : List (TimedCall String Nat Nat) :=
  [⟨0, .put "a" 1⟩, ⟨1, .put "b" 2⟩, ⟨1, .get "a"⟩, ⟨2, .put "c" 3⟩]

theorem pairLimits_valid : pairLimits.Valid := by
  constructor <;> decide +kernel

/-- Asking for the older value does not keep it from going first. -/
theorem inOrder_pairCalls :
    pairLimits.Valid ∧ (pairCalls.Pairwise fun a b => a.now ≤ b.now) ∧
      (ofCalls (pairLimits.policyBy fun writtenAt now => decide (300 < now - writtenAt))
        pairCalls).keys = ["b", "c"] ∧
      InOrder pairLimits
        (pairLimits.policyBy fun writtenAt now => decide (300 < now - writtenAt)) (· ≤ ·)
        pairCalls :=
  have hcalls : pairCalls.Pairwise fun a b => a.now ≤ b.now := by simp [pairCalls]
  ⟨pairLimits_valid, hcalls, by decide +kernel,
    inOrder_ofCalls pairLimits_valid _ _ pairCalls hcalls⟩

end Cache

end Intake
