import BackendMonitor.Proofs.Client.JobStatus
import BackendMonitor.Proofs.Client.Submission
import BackendMonitor.Proofs.Job.Snapshot
import BackendMonitor.Scan

/-!
# Replies to the calls of a scan

When the reply to a call means that the call succeeded. In both cases the call has to get as far as
a request, and the reply has to come, to say that all went well, and to come with a document of the
expected kind.

* `Accepts`: the server has accepted a scan as a job;
* `Tells`: the server has sent a snapshot of a job. Its result is never `null`
  (`Tells.result_ne_null`).
-/

namespace BackendMonitor

open Http Json

/-! ## Results that are `null` -/

theorem JobSnapshot.result_ne_null {r : Response} {t : JobSnapshot}
    (h : r.document? JobSnapshot.decoder = some t) : t.result ≠ some .null := by
  unfold Response.document? at h
  split at h
  · obtain ⟨a, ha, ht⟩ := Decoder.ofGlyphs_refine_eq_ok (eq_ok_of_toOption h)
    rw [JobReport.result_snapshot ht]
    exact fun hn => (JobReport.hasResult_of_read (Decoder.read_of_ofGlyphs ha) .null hn).1 rfl
  · cases h

namespace Scan

/-! ## Submissions -/

/-- The server accepts a scan as the job `jobId`: the scan has a path, the request can be made, and
the reply says that all went well and which job it is. -/
structure Accepts (c : Client) (request : ScanRequest) (reply : Option Response) (jobId : String) :
    Prop where
  path : Text.isBlankText request.path = false
  request : (c.submitScan { request with path := Text.trim request.path }).isOk = true
  reply : ∃ r, reply = some r ∧ r.isSuccess = true ∧
    r.document? Submission.decoder = some ⟨jobId⟩

/-- How the reply to a submission is read. -/
theorem read_submitScan {c : Client} {request : ScanRequest} {x : Exchange String}
    (hx : c.submitScan request = .ok x) (r : Response) (jobId : String) :
    x.read r = .ok jobId ↔ r.isSuccess = true ∧ r.document? Submission.decoder = some ⟨jobId⟩ := by
  unfold Client.submitScan at hx
  cases hq : c.request .post "/videos/scan" (some request.toText) with
  | error f => rw [hq] at hx; cases hx
  | ok q =>
    rw [hq] at hx
    cases hx
    simp only [bind, Except.bind]
    cases hs : r.isSuccess with
    | false =>
      obtain ⟨detail, hd⟩ := Response.check_of_refusal "Scan" hs
      rw [hd]
      exact ⟨fun h => (by cases h), fun h => (by cases h.1)⟩
    | true =>
      rw [Response.check_of_success "Scan" hs]
      simp only [Response.decode, true_and]
      cases r.document? Submission.decoder with
      | none => exact ⟨fun h => (by cases h), fun h => (by cases h)⟩
      | some s =>
        refine ⟨fun h => ?_, fun h => ?_⟩
        · cases h; rfl
        · cases h; rfl

theorem submitted_eq_ok_iff {c : Client} {request : ScanRequest} {reply : Option Response}
    {jobId : String} :
    carryOut (fun _ => reply) (Client.Checked.submitScan c request) = .ok jobId ↔
      Accepts c request reply jobId := by
  cases hb : Text.isBlankText request.path with
  | true =>
    rw [Client.Checked.submitScan_of_blank c hb]
    exact ⟨fun h => (by cases h), fun h => (by cases hb.symm.trans h.path)⟩
  | false =>
    rw [Client.Checked.submitScan_of_not_blank c hb]
    cases hq : c.submitScan { request with path := Text.trim request.path } with
    | error f =>
      refine ⟨fun h => (by cases h), fun h => ?_⟩
      have hr := h.request
      rw [hq] at hr
      cases hr
    | ok x =>
      refine ⟨fun h => ⟨hb, by rw [hq]; rfl, ?_⟩, fun h => ?_⟩
      · cases reply with
        | none => cases h
        | some r => exact ⟨r, rfl, (read_submitScan hq r jobId).1 h⟩
      · obtain ⟨r, rfl, hr⟩ := h.reply
        exact (read_submitScan hq r jobId).2 hr

/-! ## Snapshots -/

/-- The server tells of the job `jobId` that it stands as in `t`: the job has a name, the request
can be made, and the reply says that all went well and how the job stands. -/
structure Tells (c : Client) (jobId : String) (reply : Option Response) (t : JobSnapshot) :
    Prop where
  named : Text.isBlankText jobId = false
  request : (c.jobStatus jobId).isOk = true
  reply : ∃ r, reply = some r ∧ r.isSuccess = true ∧ r.document? JobSnapshot.decoder = some t

theorem Tells.result_ne_null {c : Client} {jobId : String} {reply : Option Response}
    {t : JobSnapshot} (h : Tells c jobId reply t) : t.result ≠ some .null := by
  obtain ⟨r, -, -, hd⟩ := h.reply
  exact JobSnapshot.result_ne_null hd

theorem polled_eq_ok_iff {c : Client} {jobId : String} {reply : Option Response}
    {t : JobSnapshot} :
    carryOut (fun _ => reply) (Client.Checked.jobStatus c jobId) = .ok t ↔
      Tells c jobId reply t := by
  cases hb : Text.isBlankText jobId with
  | true =>
    have he : Client.Checked.jobStatus c jobId =
        .error ⟨.invalidData, "Job id must not be empty"⟩ := by
      unfold Client.Checked.jobStatus Client.Checked.refuseBlank
      rw [hb]
      rfl
    rw [he]
    exact ⟨fun h => (by cases h), fun h => (by cases hb.symm.trans h.named)⟩
  | false =>
    rw [Client.Checked.jobStatus_of_not_blank c hb]
    cases hq : c.jobStatus jobId with
    | error f =>
      refine ⟨fun h => (by cases h), fun h => ?_⟩
      have hr := h.request
      rw [hq] at hr
      cases hr
    | ok x =>
      have ha := Client.asked_of_jobStatus hq reply
      refine ⟨fun h => ⟨hb, by rw [hq]; rfl, ?_⟩, fun h => ?_⟩
      · have h : x.result reply = .ok t := h
        rw [h] at ha
        cases ha with
        | told hn hs hd => exact ⟨_, rfl, hs, hd⟩
      · obtain ⟨r, rfl, hs, hd⟩ := h.reply
        show x.result (some r) = .ok t
        generalize x.result (some r) = result at ha
        cases ha with
        | unknown hn => rw [Response.isSuccess, hn] at hs; cases hs
        | refused hn hs' => cases hs'.symm.trans hs
        | unread hn hs' hd' => cases hd'.symm.trans hd
        | told hn hs' hd' => rw [Option.some.inj (hd'.symm.trans hd)]

end Scan

end BackendMonitor
