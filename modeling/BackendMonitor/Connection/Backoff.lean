import BackendMonitor.Settings

/-!
# Backoff

When a lost connection is opened again. The delay doubles with every failure in a row, up to a
maximum; `Retry` counts the failures since the connection was last open.
-/

namespace BackendMonitor

/-- How long to wait before each new attempt, and how long an attempt may take. -/
structure ReconnectPolicy where
  baseMs : UInt64
  maxMs : UInt64
  connectTimeoutMs : UInt64
  base_le_max : baseMs ≤ maxMs
deriving DecidableEq, Repr

namespace ReconnectPolicy

/-- The policy with the given delays. A maximum below the base is raised to it. -/
def ofDelays (base max timeout : UInt64) : ReconnectPolicy :=
  if h : base ≤ max then ⟨base, max, timeout, h⟩ else ⟨base, base, timeout, UInt64.le_refl base⟩

/-- The policy that settings ask for. -/
def ofSettings (s : ReconnectSettings) : ReconnectPolicy :=
  ofDelays s.baseDelayMs s.maxDelayMs s.connectTimeoutMs

/-- The policy of the default settings. -/
def standard : ReconnectPolicy :=
  ofSettings {}

/-- The factor by which the base grows; `none` beyond 32 bits. -/
def factor? (attempt : UInt32) : Option Nat :=
  if attempt < 32 then some (Nat.pow 2 attempt.toNat) else none

/-- The base times a factor, in milliseconds; `none` where the seconds in it exceed 64 bits. -/
def product? (base factor : Nat) : Option Nat :=
  if base * factor / 1000 < UInt64.size then some (base * factor) else none

/-- The delay in milliseconds before the next attempt, after `attempt` failures that came before
the last one. -/
def delay (p : ReconnectPolicy) (attempt : UInt32) : Nat :=
  match (factor? attempt).bind (product? p.baseMs.toNat) with
  | some d => min d p.maxMs.toNat
  | none => p.maxMs.toNat

end ReconnectPolicy

/-- The number of failures since the connection was last open; it stops at the greatest number of
32 bits. -/
structure Retry where
  attempt : UInt32 := 0
deriving DecidableEq, Repr, Inhabited

namespace Retry

/-- Counts a failure. -/
def fail (r : Retry) : Retry :=
  ⟨if r.attempt = 0xFFFFFFFF then r.attempt else r.attempt + 1⟩

/-- Starts to count anew. -/
def reset (_ : Retry) : Retry :=
  {}

end Retry

end BackendMonitor
