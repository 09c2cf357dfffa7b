import BackendMonitor.Client
import BackendMonitor.Http.Message
import BackendMonitor.Proofs.Poller.Outcome

/-!
# Failures to learn the status of a job

What the client makes of all that can come of asking for the status of a job, and what that means to
the poller that asked. Trouble on the way to a response passes, and so does a refusal, whether its
reason comes in full or not. A response that says that all is well is taken at its word: when its
body breaks off it is read like a body that makes no sense, and the poller gives up at once.

* `Asked`: all that can come of it;
* `broken_body_ends_tracking`: which of it ends the tracking of the job, and how.
-/

namespace BackendMonitor

open Http

namespace Http

/-- Only the address can keep a request from being made. -/
theorem kind_of_request_error {method : Method} {address : String} {body : Option String}
    {f : Failure} (h : request method address body = .error f) : f.kind = .network := by
  unfold request at h
  split at h
  · cases h
    rfl
  · split at h
    · cases h
    · cases h
      rfl

namespace Response

theorem check_of_success (what : String) {r : Response} (h : r.isSuccess = true) :
    r.check what = .ok r :=
  if_pos h

theorem check_of_refusal (what : String) {r : Response} (h : r.isSuccess = false) :
    ∃ detail, r.check what = .error ⟨.api, detail⟩ := by
  refine ⟨_, if_neg ?_⟩
  rw [h]
  exact Bool.false_ne_true

/-- A body that breaks off says nothing, as one that makes no sense. -/
theorem document?_of_brokenOff {α : Type} (d : Json.Decoder α) {r : Response}
    (h : r.body = .brokenOff) : r.document? d = none := by
  rw [document?, h]

end Response

end Http

namespace Client

/-- What the client makes of the response to a request for the status of a job, if one came. -/
inductive Asked (jobId : String) : Option Response → Except Failure JobSnapshot → Prop where
  | unanswered {detail : String} : Asked jobId none (.error ⟨.network, detail⟩)
  /-- The server does not know the job. -/
  | unknown {r : Response} (hs : r.status = 404) : Asked jobId (some r) (.error (unknownJob jobId))
  | refused {r : Response} {detail : String} (hn : r.status ≠ 404) (hs : r.isSuccess = false) :
      Asked jobId (some r) (.error ⟨.api, detail⟩)
  /-- The body broke off, or is no snapshot. -/
  | unread {r : Response} (hn : r.status ≠ 404) (hs : r.isSuccess = true)
      (hb : r.document? JobSnapshot.decoder = none) :
      Asked jobId (some r) (.error ⟨.invalidData, "error decoding response body"⟩)
  | told {r : Response} {s : JobSnapshot} (hn : r.status ≠ 404) (hs : r.isSuccess = true)
      (hb : r.document? JobSnapshot.decoder = some s) : Asked jobId (some r) (.ok s)

theorem asked_of_jobStatus {c : Client} {jobId : String} {x : Exchange JobSnapshot}
    (hx : c.jobStatus jobId = .ok x) (response : Option Response) :
    Asked jobId response (x.result response) := by
  unfold jobStatus at hx
  cases hq : c.request .get s!"/jobs/{jobId}" none with
  | error f => rw [hq] at hx; cases hx
  | ok request =>
    rw [hq] at hx
    cases hx
    cases response with
    | none => exact .unanswered
    | some r =>
      simp only [Exchange.result]
      by_cases hn : r.status = 404
      · rw [if_pos hn]
        exact .unknown hn
      · rw [if_neg hn]
        cases hs : r.isSuccess with
        | false =>
          obtain ⟨detail, hd⟩ := Response.check_of_refusal "Job status" hs
          rw [hd]
          exact .refused hn hs
        | true =>
          rw [Response.check_of_success "Job status" hs]
          show Asked jobId (some r) (r.decode JobSnapshot.decoder)
          unfold Response.decode
          cases hb : r.document? JobSnapshot.decoder with
          | none => exact .unread hn hs hb
          | some s => exact .told hn hs hb

/-- Nothing but the address keeps the client from asking. -/
theorem kind_of_jobStatus_error {c : Client} {jobId : String} {f : Failure}
    (h : c.jobStatus jobId = .error f) : f.kind = .network := by
  unfold jobStatus at h
  cases hq : c.request .get s!"/jobs/{jobId}" none with
  | error f' =>
    rw [hq] at h
    cases h
    exact kind_of_request_error hq
  | ok request => rw [hq] at h; cases h

/-- A failure that does not pass: the server does not know the job, or it says that all is well and
its body is not read. -/
theorem Asked.fails_for_good_iff {jobId : String} {response : Option Response}
    {result : Except Failure JobSnapshot} (h : Asked jobId response result) :
    (∃ f, result = .error f ∧ f.isTransient = false) ↔
      ∃ r, response = some r ∧ (r.status = 404 ∨
        r.isSuccess = true ∧ r.document? JobSnapshot.decoder = none) := by
  cases h with
  | unanswered =>
    refine ⟨fun ⟨f, he, hf⟩ => ?_, fun ⟨_, hr, _⟩ => (by cases hr)⟩
    cases he
    cases hf
  | @unknown r hs => exact ⟨fun _ => ⟨r, rfl, .inl hs⟩, fun _ => ⟨_, rfl, rfl⟩⟩
  | @refused r detail hn hs =>
    refine ⟨fun ⟨f, he, hf⟩ => ?_, fun ⟨r', hr, h⟩ => ?_⟩
    · cases he
      cases hf
    · cases hr
      rcases h with h | ⟨h, -⟩
      · exact absurd h hn
      · cases hs.symm.trans h
  | @unread r hn hs hb => exact ⟨fun _ => ⟨r, rfl, .inr ⟨hs, hb⟩⟩, fun _ => ⟨_, rfl, rfl⟩⟩
  | @told r s hn hs hb =>
    refine ⟨fun ⟨_, he, _⟩ => (by cases he), fun ⟨r', hr, h⟩ => ?_⟩
    cases hr
    rcases h with h | ⟨-, h⟩
    · exact absurd h hn
    · cases hb.symm.trans h

/-- A failure that passes ends the tracking of a job just when it uses up the budget. -/
theorem isSome_ending?_of_transient (budget : Option UInt32) (rs : List Poller.Result)
    {f : Failure} (hf : f.isTransient = true) :
    (Poller.ending? budget (rs ++ [.error f])).isSome = true ↔
      (budget.any fun m => max m.toNat 1 ≤ Poller.failuresInARow rs + 1) = true := by
  rw [Poller.ending?_error, Poller.failuresInARow_error rs hf, hf, if_neg (by decide)]
  split
  · next h => exact ⟨fun _ => h, fun _ => rfl⟩
  · next h => exact ⟨fun h' => (by cases h'), fun h' => absurd h' h⟩

/-- A success whose body breaks off is no trouble on the way. -/
theorem Asked.eq_of_brokenOff {jobId : String} {r : Response} {result : Except Failure JobSnapshot}
    (h : Asked jobId (some r) result) (hs : r.isSuccess = true) (hb : r.body = .brokenOff) :
    result = .error ⟨.invalidData, "error decoding response body"⟩ := by
  cases h with
  | unknown hn =>
    rw [Response.isSuccess, hn] at hs
    cases hs
  | refused hn hs' => cases hs'.symm.trans hs
  | unread hn hs' hb' => rfl
  | told hn hs' hb' =>
    cases (Response.document?_of_brokenOff JobSnapshot.decoder hb).symm.trans hb'

theorem Checked.jobStatus_of_not_blank (c : Client) {jobId : String}
    (hb : Text.isBlankText jobId = false) : Checked.jobStatus c jobId = c.jobStatus jobId := by
  unfold Checked.jobStatus Checked.refuseBlank
  rw [hb]
  rfl

/-- Whatever comes of asking for the status of a job that is named: the failures that do not pass
are a response that the server does not know the job, and a response that says that all is well and
whose body breaks off, or comes in full and is no snapshot. A body that breaks off so ends the
tracking of the job at once, whatever the budget for failures. All other failures pass: that the
address cannot be asked, that no response comes, and refusals, whether their body breaks off or not.
They are counted, and end the tracking just when they use up the budget. -/
theorem broken_body_ends_tracking (c : Client) {jobId : String}
    (hb : Text.isBlankText jobId = false) :
    (∀ f, Checked.jobStatus c jobId = .error f → f.isTransient = true) ∧
    ∀ x, Checked.jobStatus c jobId = .ok x →
      ∀ (response : Option Response) (budget : Option UInt32) (rs : List Poller.Result),
        let result := x.result response
        let ending := Poller.ending? budget (rs ++ [result])
        ((∃ f, result = .error f ∧ f.isTransient = false) ↔
          ∃ r, response = some r ∧ (r.status = 404 ∨ r.isSuccess = true ∧ (r.body = .brokenOff ∨
            ∃ bytes, r.body = .complete bytes ∧ r.document? JobSnapshot.decoder = none))) ∧
        (∀ r, response = some r → r.isSuccess = true → r.body = .brokenOff →
          ending = some (.failed, some "Invalid data: error decoding response body")) ∧
        ∀ f, result = .error f → f.isTransient = true →
          (ending.isSome = true ↔
            (budget.any fun m => max m.toNat 1 ≤ Poller.failuresInARow rs + 1) = true) := by
  rw [Checked.jobStatus_of_not_blank c hb]
  refine ⟨fun f hf => ?_, fun x hx response budget rs => ?_⟩
  · rw [Failure.isTransient, kind_of_jobStatus_error hf]
  · have h := asked_of_jobStatus hx response
    refine ⟨h.fails_for_good_iff.trans ?_, ?_, fun f hf ht => ?_⟩
    · have hd (r : Response) : r.document? JobSnapshot.decoder = none ↔ r.body = .brokenOff ∨
          ∃ bytes, r.body = .complete bytes ∧ r.document? JobSnapshot.decoder = none := by
        cases hr : r.body with
        | brokenOff => simp [Response.document?_of_brokenOff _ hr]
        | complete bytes => simp
      simp only [← hd]
    · rintro r rfl hs hb
      rw [h.eq_of_brokenOff hs hb, Poller.ending?_error]
      rfl
    · rw [hf]
      exact isSome_ending?_of_transient budget rs ht

/-- A client of a server on the machine itself. -/
def loopback : Client := { baseUrl := "http://[::1]:8000" }

theorem exists_of_isOk {ε α : Type} {r : Except ε α} (h : r.isOk = true) : ∃ a, r = .ok a := by
  cases r with
  | ok a => exact ⟨a, rfl⟩
  | error e => cases h

theorem exists_exchange_loopback : ∃ x, Checked.jobStatus loopback "j1" = .ok x :=
  exists_of_isOk (by decide +kernel)

/-- Without a budget a poll that is not answered does not matter, but one whose answer breaks off
does. -/
theorem broken_body_ends_tracking_secondPoll :
    Text.isBlankText "j1" = false ∧
      ∃ x, Checked.jobStatus loopback "j1" = .ok x ∧
        Poller.ending? none [x.result none] = none ∧
        Poller.ending? none [x.result none, x.result (some ⟨200, .brokenOff⟩)] =
          some (.failed, some "Invalid data: error decoding response body") := by
  have hb : Text.isBlankText "j1" = false := by decide
  obtain ⟨x, hx⟩ := exists_exchange_loopback
  have h := (broken_body_ends_tracking loopback hb).2 x hx
  have hn : ¬ (Poller.ending? none ([] ++ [x.result none])).isSome = true :=
    fun hs => Bool.false_ne_true (((h none none []).2.2 _ rfl rfl).1 hs)
  refine ⟨hb, x, hx, Option.not_isSome_iff_eq_none.1 hn, ?_⟩
  exact (h (some ⟨200, .brokenOff⟩) none [x.result none]).2.1 _ rfl rfl rfl

/-- What arrives of a response before the stream breaks off. -/
def cutOff : List UInt8 :=
  Bytes.ofText "HTTP/1.1 200 OK\r\ncontent-length: 36\r\n\r\n\x7b"

/-- A server that accepts a job, and of which each poll learns the same. -/
def repeating (result : Poller.Result) : Poller.Server where
  submission := .ok "j1"
  status _ := result
  cancel _ := .ok ()

/-- A job is accepted and polled once. -/
def onePoll : List (Poller.Event String) :=
  [.submit "scan", .turn, .submissionAnswered, .turn, .pass 1000, .turn, .pollAnswered, .turn]

/-- A response to the status of a job that does not come in full is not taken for trouble on the
way: the failure does not pass, and even a poller without a budget gives up on the job. -/
theorem gives_up_cutOff :
    ∃ x, Checked.jobStatus loopback "j1" = .ok x ∧
      ∃ r, Response.ofBytes .lost cutOff = .complete r ∧
        (∃ f, x.result (some r) = .error f ∧ f.isTransient = false) ∧
        ((Poller.Run.start { period := 1000, period_pos := by decide, budget := none }).after
          (repeating (x.result (some r))) onePoll).poller.phase = .failed := by
  have hr : Response.ofBytes .lost cutOff = .complete ⟨200, .brokenOff⟩ := by decide +kernel
  obtain ⟨x, hx⟩ := exists_exchange_loopback
  have h := asked_of_jobStatus
    ((Checked.jobStatus_of_not_blank loopback (by decide)).symm.trans hx) (some ⟨200, .brokenOff⟩)
  refine ⟨x, hx, _, hr, ?_⟩
  rw [h.eq_of_brokenOff rfl rfl]
  exact ⟨⟨_, rfl, rfl⟩, by decide⟩

end Client

end BackendMonitor
