import Intake.Field.Bounds

/-!
# A cache with expiry and eviction

A cache keeps values by key in the order of their writing, the oldest first. An entry expires some
time after it was written, which is noticed when it is asked for; asking does not prolong its life.
When a new key is written into a full cache, the oldest entries go first. How long entries live and
how many go is a policy. Main statements: what was written last under a key is found while it has not
expired, and an expired entry is gone after it was asked for.
-/

namespace Intake

/-- How a cache ages and how it makes room; `τ` is the type of times. -/
structure CachePolicy (τ : Type) where
  /-- The number of entries at which the cache is full. -/
  maxSize : Int
  /-- Whether an entry written at the first time has expired at the second. -/
  isExpired : τ → τ → Bool
  /-- How many of so many entries go to make room. -/
  evictedCount : Nat → Except Failure Nat

/-- An entry of a cache. -/
structure CacheEntry (κ ν τ : Type) where
  /-- The key. -/
  key : κ
  /-- The value. -/
  value : ν
  /-- When the entry was written. -/
  writtenAt : τ
  /-- How often the entry was found. -/
  hits : Nat

/-- A cache: its entries, the oldest first. -/
structure Cache (κ ν τ : Type) where
  /-- The entries. -/
  entries : List (CacheEntry κ ν τ)

namespace Cache

variable {κ ν τ : Type} [DecidableEq κ]

/-- The cache without entries. -/
def empty : Cache κ ν τ := ⟨[]⟩

/-- The number of entries. -/
def size (c : Cache κ ν τ) : Nat := c.entries.length

/-- The entry of a key, expired or not. -/
def lookup? (c : Cache κ ν τ) (key : κ) : Option (CacheEntry κ ν τ) :=
  c.entries.find? fun e => decide (e.key = key)

/-- Whether there is an entry of a key, expired or not. -/
def contains (c : Cache κ ν τ) (key : κ) : Bool := (c.lookup? key).isSome

/-- How often the entry of a key was found. -/
def hitCount (c : Cache κ ν τ) (key : κ) : Nat := ((c.lookup? key).map (·.hits)).getD 0

/-- The cache without the entry of a key. -/
def erase (c : Cache κ ν τ) (key : κ) : Cache κ ν τ :=
  ⟨c.entries.filter fun e => decide (e.key ≠ key)⟩

/-- The cache with one more hit for the entry of a key. -/
def countHit (c : Cache κ ν τ) (key : κ) : Cache κ ν τ :=
  ⟨c.entries.map fun e => if e.key = key then { e with hits := e.hits + 1 } else e⟩

/-- The value of a key at a time, and the cache afterwards: a hit is counted, and an expired entry
is removed. -/
def get (policy : CachePolicy τ) (now : τ) (key : κ) (c : Cache κ ν τ) :
    Cache κ ν τ × Option ν :=
  match c.lookup? key with
  | none => (c, none)
  | some e =>
    if policy.isExpired e.writtenAt now then (c.erase key, none)
    else (c.countHit key, some e.value)

/-- A cache with room for one more entry: if it is full, the oldest entries go. -/
def makeRoom (policy : CachePolicy τ) (c : Cache κ ν τ) : Except Failure (Cache κ ν τ) :=
  if policy.maxSize ≤ c.size then
    (policy.evictedCount c.size).map fun count => ⟨c.entries.drop count⟩
  else .ok c

/-- The cache after a value was written under a key at a time; an older entry of the key goes
first, whatever becomes of the rest. -/
def put (policy : CachePolicy τ) (now : τ) (key : κ) (value : ν) (c : Cache κ ν τ) :
    Cache κ ν τ × Except Failure Unit :=
  match (c.erase key).makeRoom policy with
  | .ok roomy => (⟨roomy.entries ++ [⟨key, value, now, 0⟩]⟩, .ok ())
  | .error failure => (c.erase key, .error failure)

/-- An erased key has no entry. -/
theorem lookup?_erase (c : Cache κ ν τ) (key : κ) : (c.erase key).lookup? key = none := by
  simp [erase, lookup?]

/-- The entries of other keys stay when a key is erased. -/
theorem lookup?_erase_of_ne (c : Cache κ ν τ) {key other : κ} (h : other ≠ key) :
    (c.erase key).lookup? other = c.lookup? other := by
  simp only [erase, lookup?, List.find?_filter]
  congr 1
  funext e
  by_cases same : e.key = other
  · simp [same, h]
  · simp [same]

/-- An expired entry is gone after it was asked for. -/
theorem lookup?_get_of_expired {policy : CachePolicy τ} {now : τ} {key : κ} {c : Cache κ ν τ}
    {e : CacheEntry κ ν τ} (found : c.lookup? key = some e)
    (expired : policy.isExpired e.writtenAt now = true) :
    (c.get policy now key).1.lookup? key = none := by
  simp only [get, found, expired, if_true]
  exact c.lookup?_erase key

end Cache

/-- The limits of a cache, in seconds where they are times. -/
structure CacheLimits where
  /-- The number of entries at which the cache is full. -/
  maxSize : Int
  /-- How long an entry lives. -/
  lifetime : Binary64
  /-- The share of the entries that goes to make room. -/
  evictionShare : Binary64

/-- The limits where none are given. -/
def CacheLimits.standard : CacheLimits :=
  ⟨1000, Binary64.ofInt 300, Binary64.ofDecimal false 25 (-2)⟩

/-- The integer part of a share of a number, at least one. -/
def evictedOf (share : Binary64) (count : Nat) : Except Failure Nat :=
  ((Binary64.ofInt count * share).integerPart).map fun n => (max 1 n).toNat

/-- The policy of limits. -/
def CacheLimits.policy (limits : CacheLimits) : CachePolicy Binary64 where
  maxSize := limits.maxSize
  isExpired writtenAt now := (Number.float limits.lifetime).lessThan (.float (now - writtenAt))
  evictedCount := evictedOf limits.evictionShare

end Intake
