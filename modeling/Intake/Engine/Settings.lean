import Intake.Engine.Cache
import Intake.Field.Reader
import Intake.Text.Casing
import Intake.Text.Ends

/-!
# Settings of the engine

The limits of the cache of an engine are read from given values and, where a value is not given,
from environment variables, whose names are the names of the settings behind a fixed start, in
letters of either case.
-/

namespace Intake

namespace Settings

/-- A double above zero. -/
def positive (x : Binary64) : Reading Binary64 :=
  if (Number.int 0).lessThan (.float x) then .read x else .fault .greaterThan

/-- The lifetime of an entry, above zero. -/
def lifetime : Reader Binary64 := fun v => (Reader.float v).andThen positive

/-- The number of entries at which the cache is full, at least one. -/
def maxSize : Reader Int := fun v =>
  (Reader.int v).andThen fun n => if n < 1 then .fault .greaterThanEqual else .read n

/-- The share of entries that goes to make room, above zero and at most one. -/
def evictionShare : Reader Binary64 := fun v =>
  (Reader.float v).andThen fun x =>
    if (Number.float x).atMost (.int 1) then positive x else .fault .lessThanEqual

/-- The values that environment variables give, by the name of the setting. -/
def ofEnvironment (start : String) (environment : List (String × String)) :
    List (String × Value) :=
  keepLast (environment.filterMap fun (name, text) =>
    (afterStart? (lowerText start).toList (lowerText name).toList).map fun key =>
      (String.ofList key, Value.text text))

/-- Reads the limits from given values and the environment; given values go first. -/
def read (start : String) (environment : List (String × String))
    (given : List (String × Value)) : Reading CacheLimits :=
  let entries := given ++ ofEnvironment start environment
  (fun lifetime maxSize share =>
    CacheLimits.mk (maxSize.getD CacheLimits.standard.maxSize)
      (lifetime.getD CacheLimits.standard.lifetime)
      (share.getD CacheLimits.standard.evictionShare))
    <$> readOption "cache_ttl_seconds" "cache_ttl_seconds" lifetime entries
    <*> readOption "cache_max_size" "cache_max_size" maxSize entries
    <*> readOption "cache_eviction_fraction" "cache_eviction_fraction" evictionShare entries

end Settings

end Intake
