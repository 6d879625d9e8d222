import LiveTemplates.Decimal.Double

set_option autoImplicit false

/-! # Counting what a cache does

Counters have 64 bits and wrap. A lookup is a hit, a join (it waits for a production that is already
under way) or a miss (it starts one); a production ends in a load or a failure. -/

namespace LiveTemplates

/-- The counters of one cache. -/
structure Counters where
  hits : UInt64 := 0
  misses : UInt64 := 0
  joins : UInt64 := 0
  loads : UInt64 := 0
  failures : UInt64 := 0
  invalidations : UInt64 := 0
  /-- Time spent in productions. -/
  microseconds : UInt64 := 0
  deriving DecidableEq, Inhabited

namespace Counters

/-- Count a lookup that found a value. -/
def hit (c : Counters) : Counters := { c with hits := c.hits + 1 }

/-- Count a lookup that started a production. -/
def miss (c : Counters) : Counters := { c with misses := c.misses + 1 }

/-- Count a lookup that waits for a production under way. -/
def join (c : Counters) : Counters := { c with joins := c.joins + 1 }

/-- Count a production that gave a value. -/
def load (c : Counters) (microseconds : Nat) : Counters :=
  { c with loads := c.loads + 1, microseconds := c.microseconds + .ofNat microseconds }

/-- Count a production that failed. -/
def failure (c : Counters) (microseconds : Nat) : Counters :=
  { c with failures := c.failures + 1, microseconds := c.microseconds + .ofNat microseconds }

/-- Count an entry that was taken out. -/
def invalidation (c : Counters) : Counters := { c with invalidations := c.invalidations + 1 }

/-- Productions that have ended. -/
def productions (c : Counters) : UInt64 := c.loads + c.failures

/-- The percentage of lookups that did not start a production. -/
def hitRate (c : Counters) : Double :=
  let total := c.hits + c.joins + c.misses
  if total = 0 then .zero
  else ((Double.ofNat (c.hits + c.joins).toNat).div (.ofNat total.toNat)).mul (.ofNat 100)

/-- The percentage of lookups that started a production. -/
def missRate (c : Counters) : Double :=
  (Double.ofNat 100).sub c.hitRate

/-- The mean time of a production, in milliseconds. -/
def meanMilliseconds (c : Counters) : Double :=
  if c.productions = 0 then .zero
  else
    ((Double.ofNat c.microseconds.toNat).div (.ofNat c.productions.toNat)).div (.ofNat 1000)

end Counters

end LiveTemplates
