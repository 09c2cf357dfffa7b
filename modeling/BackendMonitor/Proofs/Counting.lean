import BackendMonitor.Connection.Backoff
import BackendMonitor.Poller

/-!
# Counting failures

The counts of failures in a row stop at the greatest number of 32 bits (`toNat_succ_of_saturating`).
-/

namespace BackendMonitor

theorem toNat_succ_of_saturating (n : UInt32) :
    (if n = 0xFFFFFFFF then n else n + 1).toNat = min (n.toNat + 1) 0xFFFFFFFF := by
  have hl := n.toNat_lt
  split
  · next h =>
    have : n.toNat = 0xFFFFFFFF := by rw [h]; rfl
    omega
  · next h =>
    have : n.toNat ≠ 0xFFFFFFFF := fun h' => h (UInt32.toNat_inj.1 h')
    rw [UInt32.toNat_add, show (1 : UInt32).toNat = 1 from rfl, Nat.mod_eq_of_lt (by omega)]
    omega

theorem Poller.toNat_countFailure (n : UInt32) :
    (countFailure n).toNat = min (n.toNat + 1) 0xFFFFFFFF :=
  toNat_succ_of_saturating n

theorem Retry.toNat_fail (r : Retry) :
    r.fail.attempt.toNat = min (r.attempt.toNat + 1) 0xFFFFFFFF :=
  toNat_succ_of_saturating r.attempt

end BackendMonitor
