import BackendMonitor.Job

/-!
# Snapshots applied to a job

What a snapshot makes of a job that is not over: one that reports an end ends the job with the
status that it reports (`apply_of_end`), any other one leaves it live (`apply_of_live`).
-/

namespace BackendMonitor

theorem JobStatus.rank_lt_of_end {a b : JobStatus} (ha : a.isTerminal = false)
    (hb : b.isTerminal = true) : a.rank < b.rank := by
  cases a <;> cases b <;> simp_all [isTerminal, rank]

namespace Job

/-- Snapshots never change which job it is. -/
@[simp] theorem id_apply (job : Job) (s : JobSnapshot) : (job.apply s).1.id = job.id := by
  by_cases h : job.status.isTerminal = true
  · rw [apply, if_pos h]
  · rw [apply, if_neg h]
    simp only
    split
    · rfl
    · split <;> rfl

theorem applyAll_append (job : Job) (ss ts : List JobSnapshot) :
    job.applyAll (ss ++ ts) = (job.applyAll ss).applyAll ts := by
  simp [applyAll]

/-- A live job stays live with a snapshot that reports no end. -/
theorem apply_of_live {job : Job} {s : JobSnapshot} (h : job.status.isTerminal = false)
    (hs : s.status.isTerminal = false) :
    (job.apply s).2 = .updated ∧ (job.apply s).1.status.isTerminal = false := by
  unfold apply
  rw [if_neg (by simp [h])]
  simp only
  split
  · exact ⟨rfl, h⟩
  · cases hk : s.status <;> simp_all [JobStatus.isTerminal]

/-- A snapshot that reports an end ends a live job. -/
theorem apply_of_end {job : Job} {s : JobSnapshot} (h : job.status.isTerminal = false)
    (hs : s.status.isTerminal = true) :
    (job.apply s).2 = .terminal s.status ∧ (job.apply s).1.status = s.status ∧
      (s.status = .failed → (job.apply s).1.error = some (s.error.getD unexplained)) := by
  have hr := JobStatus.rank_lt_of_end h hs
  unfold apply
  rw [if_neg (by simp [h])]
  simp only
  rw [if_neg (by omega)]
  cases hk : s.status <;> simp_all [JobStatus.isTerminal]

end Job

end BackendMonitor
