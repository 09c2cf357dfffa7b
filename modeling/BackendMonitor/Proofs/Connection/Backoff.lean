import BackendMonitor.Connection.Backoff

/-!
# Delays before new attempts

The delay of a policy starts at its base, never shrinks from one failure to the next, and stays
within its maximum (`delay_zero`, `delay_mono`, `delay_le_max`). The delay that follows a number of
failures in a row (`wait`) is that for the failures that came before the last one.

The base is doubled with every failure, up to the maximum, as long as the factor has 32 bits. From
then on the delay is the maximum, also where doubling has not come so far (`delay_eq_doubled_iff`,
`delay_leaps`).
-/

namespace BackendMonitor.ReconnectPolicy

/-- The delay before a maximum is set to it; `none` where it is out of range. -/
def raw? (p : ReconnectPolicy) (attempt : UInt32) : Option Nat :=
  (factor? attempt).bind (product? p.baseMs.toNat)

theorem raw?_eq_some {p : ReconnectPolicy} {n : UInt32} {d : Nat} :
    p.raw? n = some d ↔
      n < 32 ∧ p.baseMs.toNat * Nat.pow 2 n.toNat / 1000 < UInt64.size ∧
        d = p.baseMs.toNat * Nat.pow 2 n.toNat := by
  unfold raw? factor? product?
  by_cases hn : n < 32
  · rw [if_pos hn, Option.bind_some]
    generalize p.baseMs.toNat * Nat.pow 2 n.toNat = product
    split
    · next hs => simp [hn, hs, eq_comm]
    · next hs => simp [hs]
  · rw [if_neg hn]
    simp [hn]

theorem delay_of_some {p : ReconnectPolicy} {n : UInt32} {d : Nat} (h : p.raw? n = some d) :
    p.delay n = min d p.maxMs.toNat := by
  unfold delay
  rw [show (factor? n).bind (product? p.baseMs.toNat) = some d from h]

theorem delay_of_none {p : ReconnectPolicy} {n : UInt32} (h : p.raw? n = none) :
    p.delay n = p.maxMs.toNat := by
  unfold delay
  rw [show (factor? n).bind (product? p.baseMs.toNat) = none from h]

theorem delay_le_max (p : ReconnectPolicy) (n : UInt32) : p.delay n ≤ p.maxMs.toNat := by
  cases h : p.raw? n with
  | none => exact Nat.le_of_eq (delay_of_none h)
  | some d => rw [delay_of_some h]; exact Nat.min_le_right _ _

/-- The first delay is the base. -/
theorem delay_zero (p : ReconnectPolicy) : p.delay 0 = p.baseMs.toNat := by
  have hb : p.baseMs.toNat < UInt64.size := p.baseMs.toNat_lt
  have hm : p.baseMs.toNat ≤ p.maxMs.toNat := UInt64.le_iff_toNat_le.1 p.base_le_max
  have h : p.raw? 0 = some p.baseMs.toNat := by
    refine raw?_eq_some.2 ⟨by decide, ?_, (Nat.mul_one _).symm⟩
    show p.baseMs.toNat * 1 / 1000 < UInt64.size
    omega
  rw [delay_of_some h, Nat.min_eq_left hm]

/-- The delay never shrinks. -/
theorem delay_mono (p : ReconnectPolicy) {m n : UInt32} (h : m ≤ n) : p.delay m ≤ p.delay n := by
  cases hn : p.raw? n with
  | none => rw [delay_of_none hn]; exact p.delay_le_max m
  | some d =>
    obtain ⟨hl, hs, rfl⟩ := raw?_eq_some.1 hn
    have hle : m.toNat ≤ n.toNat := UInt32.le_iff_toNat_le.1 h
    have hp : p.baseMs.toNat * Nat.pow 2 m.toNat ≤ p.baseMs.toNat * Nat.pow 2 n.toNat :=
      Nat.mul_le_mul_left _ (Nat.pow_le_pow_right (by decide) hle)
    have hm : p.raw? m = some (p.baseMs.toNat * Nat.pow 2 m.toNat) := by
      refine raw?_eq_some.2 ⟨UInt32.lt_of_le_of_lt h hl, ?_, rfl⟩
      exact Nat.lt_of_le_of_lt (Nat.div_le_div_right hp) hs
    rw [delay_of_some hn, delay_of_some hm]
    omega

theorem base_le_delay (p : ReconnectPolicy) (n : UInt32) : p.baseMs.toNat ≤ p.delay n := by
  rw [← p.delay_zero]
  exact p.delay_mono (UInt32.le_iff_toNat_le.2 (Nat.zero_le _))

/-! ## Failures in a row -/

/-- The delay after so many failures in a row. -/
def wait (p : ReconnectPolicy) (failures : Nat) : Nat :=
  p.delay (.ofNat (min (failures - 1) 0xFFFFFFFF))

theorem wait_one (p : ReconnectPolicy) : p.wait 1 = p.baseMs.toNat :=
  p.delay_zero

theorem base_le_wait (p : ReconnectPolicy) (k : Nat) : p.baseMs.toNat ≤ p.wait k :=
  p.base_le_delay _

theorem wait_le_max (p : ReconnectPolicy) (k : Nat) : p.wait k ≤ p.maxMs.toNat :=
  p.delay_le_max _

theorem wait_mono (p : ReconnectPolicy) {j k : Nat} (h : j ≤ k) : p.wait j ≤ p.wait k := by
  refine p.delay_mono (UInt32.le_iff_toNat_le.2 ?_)
  rw [UInt32.toNat_ofNat', UInt32.toNat_ofNat']
  omega

/-- The delay of a count of failures is that of the failures in a row, also where the count has
stopped. -/
theorem delay_eq_wait (p : ReconnectPolicy) {n : UInt32} {k : Nat}
    (h : n.toNat = min k 0xFFFFFFFF) : p.delay n = p.wait (k + 1) := by
  have hn : n = .ofNat (min k 0xFFFFFFFF) := by
    rw [← h, UInt32.ofNat_toNat]
  rw [hn]
  rfl

/-! ## Doubling -/

/-- As long as the factor has 32 bits, a product that is out of range is beyond the maximum. -/
theorem delay_of_lt (p : ReconnectPolicy) {n : UInt32} (h : n < 32) :
    p.delay n = min (p.baseMs.toNat * Nat.pow 2 n.toNat) p.maxMs.toNat := by
  have hm : p.maxMs.toNat < UInt64.size := p.maxMs.toNat_lt
  cases hr : p.raw? n with
  | some d => rw [delay_of_some hr, (raw?_eq_some.1 hr).2.2]
  | none =>
    have hs : ¬ p.baseMs.toNat * Nat.pow 2 n.toNat / 1000 < UInt64.size := by
      intro hs
      cases hr.symm.trans (raw?_eq_some.2 ⟨h, hs, rfl⟩)
    rw [delay_of_none hr, Nat.min_eq_right]
    omega

/-- A factor of more than 32 bits leaves nothing but the maximum. -/
theorem delay_of_not_lt (p : ReconnectPolicy) {n : UInt32} (h : ¬ n < 32) :
    p.delay n = p.maxMs.toNat := by
  refine delay_of_none (Option.eq_none_iff_forall_ne_some.2 fun d hd => ?_)
  exact h (raw?_eq_some.1 hd).1

theorem baseMs_ofDelays (base max timeout : UInt64) :
    (ofDelays base max timeout).baseMs = base := by
  unfold ofDelays
  split <;> rfl

/-- A maximum below the base is raised to it. -/
theorem toNat_maxMs_ofDelays (base max timeout : UInt64) :
    (ofDelays base max timeout).maxMs.toNat = Nat.max base.toNat max.toNat := by
  unfold ofDelays
  split
  · next h => exact (Nat.max_eq_right (UInt64.le_iff_toNat_le.1 h)).symm
  · next h =>
    rw [UInt64.le_iff_toNat_le] at h
    exact (Nat.max_eq_left (Nat.le_of_not_le h)).symm

/-- The delay is the base, doubled once for every failure, but no more than the maximum, just when
the factor has 32 bits, or the doubled base has come to the maximum by then. Otherwise it is the
maximum although doubling has not come so far. -/
theorem delay_eq_doubled_iff (base max timeout : UInt64) (n : UInt32) :
    ((ReconnectPolicy.ofDelays base max timeout).delay n =
        min (base.toNat * Nat.pow 2 n.toNat) (Nat.max base.toNat max.toNat) ↔
      n < 32 ∨ Nat.max base.toNat max.toNat ≤ base.toNat * Nat.pow 2 n.toNat) ∧
    (¬ n < 32 →
      (ReconnectPolicy.ofDelays base max timeout).delay n = Nat.max base.toNat max.toNat) := by
  have hbase := baseMs_ofDelays base max timeout
  have hmax := toNat_maxMs_ofDelays base max timeout
  generalize ReconnectPolicy.ofDelays base max timeout = policy at hbase hmax ⊢
  by_cases hn : n < 32
  · have hd := policy.delay_of_lt hn
    rw [hmax, hbase] at hd
    exact ⟨⟨fun _ => .inl hn, fun _ => hd⟩, fun h => absurd hn h⟩
  · have hd := policy.delay_of_not_lt hn
    rw [hmax] at hd
    refine ⟨?_, fun _ => hd⟩
    rw [hd]
    exact ⟨fun h => .inr (h ▸ Nat.min_le_left _ _),
      fun h => (Nat.min_eq_right (h.resolve_left hn)).symm⟩

/-- After 32 failures a millisecond has been doubled to less than fifty days, and yet the delay is
the maximum, which is more than twice as long. -/
theorem delay_leaps :
    (ofDelays 1 10000000000 10000).delay 32 = 10000000000 ∧
      (ofDelays 1 10000000000 10000).delay 32 ≠
        min ((1 : UInt64).toNat * Nat.pow 2 (32 : UInt32).toNat)
          (Nat.max (1 : UInt64).toNat (10000000000 : UInt64).toNat) := by
  decide

end BackendMonitor.ReconnectPolicy
