import BackendMonitor.Proofs.Job
import Mathlib.Data.List.Induction

/-!
# A job and the first end that is reported

What snapshots make of a new job is decided by the first of them that reports an end. Up to there
each of them updates the job, and all that stays of them is the last progress, and whether one of
them reported the job running. Behind it nothing is looked at.

* `Job.updates`: what each of some snapshots does to a job;
* `Job.going`, `Job.concluded`: a job by its snapshots as long as none reports an end, and by the one
  that does;
* `Job.first_end_decides`: all of it, for every list of snapshots.
-/

namespace BackendMonitor

namespace Job

/-- What each of some snapshots does to a job, in order. -/
def updates (job : Job) : List JobSnapshot → List JobUpdate
  | [] => []
  | s :: ss => (job.apply s).2 :: updates (job.apply s).1 ss

/-- What is known of a job by snapshots that report no end. -/
def going (id : String) (ss : List JobSnapshot) : Job where
  id := id
  status := if ss.any (·.status = .running) then .running else .pending
  progress := ss.getLast?.bind (·.progress)

/-- What is known of a job by the first snapshot that reports an end. -/
def concluded (id : String) (s : JobSnapshot) : Job where
  id := id
  status := s.status
  progress := s.progress
  result := if s.status = .completed then s.result else none
  error :=
    match s.status with
    | .failed => some (s.error.getD unexplained)
    | .cancelled => s.error
    | _ => none

/-! ## One snapshot after the other -/

@[simp] theorem applyAll_cons (job : Job) (s : JobSnapshot) (ss : List JobSnapshot) :
    job.applyAll (s :: ss) = (job.apply s).1.applyAll ss := rfl

theorem updates_append (job : Job) (ss ts : List JobSnapshot) :
    job.updates (ss ++ ts) = job.updates ss ++ (job.applyAll ss).updates ts := by
  induction ss generalizing job with
  | nil => rfl
  | cons s ss ih => rw [List.cons_append, updates, ih]; rfl

@[simp] theorem id_applyAll (job : Job) (ss : List JobSnapshot) :
    (job.applyAll ss).id = job.id := by
  induction ss generalizing job with
  | nil => rfl
  | cons s ss ih => rw [applyAll_cons, ih, id_apply]

/-- A snapshot never takes the status back. -/
theorem rank_le_apply (job : Job) (s : JobSnapshot) :
    job.status.rank ≤ (job.apply s).1.status.rank := by
  unfold apply
  split
  · exact Nat.le_refl _
  · simp only
    split
    · exact Nat.le_refl _
    · next h =>
      have hle : job.status.rank ≤ s.status.rank := Nat.le_of_lt (Nat.lt_of_not_le h)
      cases hs : s.status <;> rw [hs] at hle <;> exact hle

theorem rank_le_applyAll (job : Job) (ss : List JobSnapshot) :
    job.status.rank ≤ (job.applyAll ss).status.rank := by
  induction ss generalizing job with
  | nil => exact Nat.le_refl _
  | cons s ss ih => exact Nat.le_trans (rank_le_apply job s) (ih _)

/-! ## A job that is over -/

theorem apply_of_over {job : Job} (h : job.status.isTerminal = true) (s : JobSnapshot) :
    job.apply s = (job, .ignored) :=
  if_pos h

theorem applyAll_of_over {job : Job} (h : job.status.isTerminal = true) (ss : List JobSnapshot) :
    job.applyAll ss = job := by
  induction ss with
  | nil => rfl
  | cons s ss ih => rw [applyAll_cons, apply_of_over h, ih]

theorem updates_of_over {job : Job} (h : job.status.isTerminal = true) (ss : List JobSnapshot) :
    job.updates ss = List.replicate ss.length .ignored := by
  induction ss with
  | nil => rfl
  | cons s ss ih => rw [updates, apply_of_over h, ih]; rfl

/-! ## A job that goes on -/

/-- A job that goes on is told of one more snapshot that reports no end. -/
theorem apply_going (id : String) (ss : List JobSnapshot) {s : JobSnapshot}
    (hs : s.status.isTerminal = false) :
    (going id ss).apply s = (going id (ss ++ [s]), .updated) := by
  have hk : s.status = .pending ∨ s.status = .running := by
    revert hs
    cases s.status <;> decide
  unfold apply going
  rcases hk with hk | hk <;> cases hr : ss.any (·.status = .running) <;>
    simp [hk, hr, JobStatus.isTerminal, JobStatus.rank]

/-- A job that goes on is over with the first snapshot that reports an end. -/
theorem apply_going_of_end (id : String) (ss : List JobSnapshot) {s : JobSnapshot}
    (hs : s.status.isTerminal = true) :
    (going id ss).apply s = (concluded id s, .terminal s.status) := by
  unfold apply going concluded
  cases hk : s.status <;> cases hr : ss.any (·.status = .running) <;>
    simp_all [JobStatus.isTerminal, JobStatus.rank]

/-- Snapshots that report no end update the job one by one. -/
theorem applyAll_eq_going (id : String) {ss : List JobSnapshot}
    (h : ∀ s ∈ ss, s.status.isTerminal = false) :
    applyAll { id := id } ss = going id ss ∧
      updates { id := id } ss = List.replicate ss.length .updated := by
  induction ss using List.reverseRecOn with
  | nil => exact ⟨rfl, rfl⟩
  | append_singleton ss s ih =>
    obtain ⟨hj, hu⟩ := ih fun t ht => h t (List.mem_append_left _ ht)
    have ha := apply_going id ss (h s (by simp))
    rw [applyAll_append, updates_append, hj, hu, List.length_append,
      ← List.replicate_append_replicate, applyAll_cons, updates, ha]
    exact ⟨rfl, rfl⟩

/-- The first snapshot that reports an end decides, whatever comes behind it. -/
theorem applyAll_eq_concluded (id : String) {before : List JobSnapshot} {s : JobSnapshot}
    (h : ∀ t ∈ before, t.status.isTerminal = false) (hs : s.status.isTerminal = true)
    (behind : List JobSnapshot) :
    applyAll { id := id } (before ++ s :: behind) = concluded id s ∧
      updates { id := id } (before ++ s :: behind) =
        List.replicate before.length .updated ++
          .terminal s.status :: List.replicate behind.length .ignored := by
  obtain ⟨hj, hu⟩ := applyAll_eq_going id h
  have ha := apply_going_of_end id before hs
  have ho : (concluded id s).status.isTerminal = true := hs
  rw [applyAll_append, updates_append, hj, hu, applyAll_cons, updates, ha]
  exact ⟨applyAll_of_over ho behind, by rw [updates_of_over ho]⟩

/-- The first of some snapshots that reports an end decides what becomes of a new job. Those before
it update the job, and if there is none all that is known is the last progress, and whether one of
them reported the job running; it ends the job, and brings what comes with the end; those behind it
are not looked at. All the while it is the same job, and its status never goes back. -/
theorem first_end_decides (id : String) (ss : List JobSnapshot) :
    (match ss.findIdx? (·.status.isTerminal) with
      | none =>
        updates { id := id } ss = List.replicate ss.length .updated ∧
          applyAll { id := id } ss = going id ss
      | some k =>
        ∃ s, ss[k]? = some s ∧
          updates { id := id } ss = List.replicate k .updated ++
            .terminal s.status :: List.replicate (ss.length - (k + 1)) .ignored ∧
          ∀ n, k < n → applyAll { id := id } (ss.take n) = concluded id s) ∧
    ∀ m n, m ≤ n →
      let job := applyAll { id := id } (ss.take n)
      job.id = id ∧ (applyAll { id := id } (ss.take m)).status.rank ≤ job.status.rank := by
  constructor
  · split
    · next hn =>
      exact (applyAll_eq_going id (List.findIdx?_eq_none_iff.1 hn)).symm
    · next k hk =>
      obtain ⟨hl, hs, hb⟩ := List.findIdx?_eq_some_iff_getElem.1 hk
      have hbefore : ∀ t ∈ ss.take k, t.status.isTerminal = false := by
        intro t ht
        obtain ⟨i, hi, rfl⟩ := List.mem_take_iff_getElem.1 ht
        exact Bool.eq_false_iff.2 (hb i (by omega))
      -- The snapshots up to any number beyond `k`, parted at the first end.
      have parted : ∀ n, k < n →
          ss.take n = ss.take k ++ ss[k] :: (ss.take n).drop (k + 1) := by
        intro n hn
        have hk : k < (ss.take n).length := by rw [List.length_take]; omega
        have h := (ss.take n).take_append_drop k
        rw [List.drop_eq_getElem_cons hk, List.getElem_take, List.take_take,
          Nat.min_eq_left (Nat.le_of_lt hn)] at h
        exact h.symm
      refine ⟨ss[k], List.getElem?_eq_getElem hl, ?_, fun n hn => ?_⟩
      · have hu := (applyAll_eq_concluded id hbefore hs ((ss.take ss.length).drop (k + 1))).2
        rw [← parted ss.length hl, List.take_length, List.length_take, List.length_drop,
          Nat.min_eq_left (Nat.le_of_lt hl)] at hu
        exact hu
      · rw [parted n hn]
        exact (applyAll_eq_concluded id hbefore hs _).1
  · intro m n hmn
    refine ⟨id_applyAll _ _, ?_⟩
    have h : ss.take n = ss.take m ++ (ss.take n).drop m := by
      have h := (ss.take n).take_append_drop m
      rw [List.take_take, Nat.min_eq_left hmn] at h
      exact h.symm
    rw [h, applyAll_append]
    exact rank_le_applyAll _ _

end Job

end BackendMonitor
