import BackendMonitor.Proofs.Client.JobStatus

/-!
# The text of a refusal

A refusal says why in its body, at one of three places. The client takes the first place that there
is, but for the details themselves, which it passes by if they are no text. So a message in the
details that is no text hides the message beside them.

* `Response.firstText?`: the first text at one of the places;
* `Response.isHidden`: whether a text is passed over;
* `Response.message?_eq`: what the client takes for the message;
* `refusal_gives_first_text`: what becomes of a refusal, for each call;
* `refusal_loses_text_beside_details`: a refusal whose message is lost.
-/

namespace BackendMonitor

open Json Http

namespace Http.Response

/-- The places of a message, in the order in which they count: in the details, the details, and
beside them. -/
def places (v : Value) : List (Option Value) :=
  [(v.get? "detail").bind (·.get? "message"), v.get? "detail", v.get? "message"]

/-- The first text at one of the places of a body. -/
def firstText? (body : String) : Option String :=
  match Value.ofText body with
  | .error _ => none
  | .ok v => (places v).findSome? (·.bind Value.text?)

/-- Whether the details have a message that is no text, and a message beside them is one. -/
def isHidden (body : String) : Bool :=
  match Value.ofText body with
  | .error _ => false
  | .ok v =>
    ((v.get? "detail").bind (·.get? "message")).any (·.text?.isNone) &&
      (v.get? "message").any (·.text?.isSome)

/-- Details that have a message in them are no text. -/
theorem text?_eq_none_of_get? {key : String} {v w : Value} (h : v.get? key = some w) :
    v.text? = none := by
  cases v with
  | object members => rfl
  | _ => cases h

/-- The first place that there is, apart from details that are no text, and the first text. -/
theorem bind_text?_eq {inner details beside : Option Value}
    (h : ∀ w ∈ inner, details.bind Value.text? = none) :
    (inner.or ((details.filter (·.text?.isSome)).or beside)).bind Value.text? =
      if inner.any (·.text?.isNone) && beside.any (·.text?.isSome) then none
      else [inner, details, beside].findSome? (·.bind Value.text?) := by
  cases inner with
  | some w =>
    cases hw : w.text? with
    | some s => simp [hw]
    | none =>
      have hd : details.bind Value.text? = none := h w rfl
      cases beside with
      | none => simp [hw, hd]
      | some b => cases hb : b.text? <;> simp [hw, hd, hb]
  | none =>
    cases details with
    | none => cases beside <;> simp
    | some d => cases hd : d.text? <;> cases beside <;> simp [Option.filter, hd]

/-- The message is the first text, unless that is hidden. -/
theorem message?_eq (body : String) :
    message? body = if isHidden body then none else firstText? body := by
  unfold message? isHidden firstText? places
  cases Value.ofText body with
  | error f => rfl
  | ok v =>
    refine bind_text?_eq fun w hw => ?_
    obtain ⟨d, hd, hw⟩ := Option.bind_eq_some_iff.1 hw
    rw [hd]
    exact text?_eq_none_of_get? hw

/-- A refusal without a message has one that names the call and the status. -/
theorem check_eq_of_refusal (what : String) {r : Response} (h : r.isSuccess = false) :
    r.check what = .error ⟨.api, (message? r.text).getD s!"{what} failed: HTTP {r.status}"⟩ := by
  unfold check
  rw [h]
  exact if_neg Bool.false_ne_true

end Http.Response

namespace Client

/-- The failure of a call that was refused: its text is the first one that the body has at one of the
places. Without one, or if it is hidden, the text names the call and the status. -/
def refusal (what : String) (r : Response) : Failure :=
  let unexplained := s!"{what} failed: HTTP {r.status}"
  ⟨.api, if Response.isHidden r.text then unexplained
    else (Response.firstText? r.text).getD unexplained⟩

theorem check_eq_refusal (what : String) {r : Response} (h : r.isSuccess = false) :
    r.check what = .error (refusal what r) := by
  rw [Response.check_eq_of_refusal what h, Response.message?_eq, refusal]
  split <;> rfl

/-- A response is read in the same way whatever the request was. -/
theorem result_of_map_eq_ok {α : Type} {request : Except Failure Request} {x : Exchange α}
    {read : Response → Except Failure α} (h : request.map (⟨·, read⟩) = .ok x) (r : Response) :
    x.result (some r) = read r := by
  cases request with
  | error f => cases h
  | ok q => cases h; rfl

/-- Whatever a server that refuses a call says in a body that comes in full, and whatever it was
asked for: the client takes the first text at one of the places in the body for the reason. It names
the call and the status instead just when the body is no document or has no text at any of the
places, and when the details have a message that is no text: then a text beside them is hidden. A job
that the server does not know is told apart by the status alone. -/
theorem refusal_gives_first_text (c : Client) {status : Nat} (hs : status < 200 ∨ 300 ≤ status)
    (bytes : List UInt8) :
    let r : Response := ⟨status, .complete bytes⟩
    (∀ scan x, c.submitScan scan = .ok x → x.result (some r) = .error (refusal "Scan" r)) ∧
    (∀ jobId x, c.jobStatus jobId = .ok x → x.result (some r) =
      .error (if status = 404 then unknownJob jobId else refusal "Job status" r)) ∧
    (∀ jobId x, c.cancelJob jobId = .ok x → x.result (some r) =
      .error (if status = 404 then unknownJob jobId else refusal "Cancel" r)) ∧
    ∀ effectType parameters x, c.previewEffect effectType parameters = .ok x →
      x.result (some r) = .error (refusal "Preview" r) := by
  intro r
  have hr : r.isSuccess = false := by
    simp only [Response.isSuccess, r, Bool.and_eq_false_iff, decide_eq_false_iff_not]
    omega
  have hc (what : String) : r.check what = .error (refusal what r) := check_eq_refusal what hr
  refine ⟨fun scan x hx => ?_, fun jobId x hx => ?_, fun jobId x hx => ?_, fun e p x hx => ?_⟩
  · refine (result_of_map_eq_ok hx r).trans ?_
    simp only [hc]
    rfl
  · refine (result_of_map_eq_ok hx r).trans ?_
    simp only [hc]
    split <;> rfl
  · refine (result_of_map_eq_ok hx r).trans ?_
    simp only [hc]
    split <;> rfl
  · refine (result_of_map_eq_ok hx r).trans ?_
    simp only [hc]
    rfl

/-- A job that cannot be stopped, with a reason beside details that give none. -/
def finishing : List UInt8 :=
  Bytes.ofText "\x7b\"detail\":\x7b\"code\":\"BUSY\"\x7d,\"message\":\"job is finishing\"\x7d"

theorem exists_cancel_loopback : ∃ x, loopback.cancelJob "j1" = .ok x :=
  exists_of_isOk (by decide +kernel)

theorem refusal_gives_first_text_finishing :
    (409 < 200 ∨ 300 ≤ 409) ∧
      ∃ x, loopback.cancelJob "j1" = .ok x ∧
        x.result (some ⟨409, .complete finishing⟩) = .error ⟨.api, "job is finishing"⟩ ∧
        x.result (some ⟨404, .complete finishing⟩) = .error ⟨.jobNotFound, "j1"⟩ := by
  obtain ⟨x, hx⟩ := exists_cancel_loopback
  refine ⟨by decide, x, hx, ?_, ?_⟩
  · have ht : refusal "Cancel" ⟨409, .complete finishing⟩ = ⟨.api, "job is finishing"⟩ := by
      decide +kernel
    rw [(refusal_gives_first_text loopback (.inr (by decide)) finishing).2.2.1 "j1" x hx, ht]
    rfl
  · exact (refusal_gives_first_text loopback (.inr (by decide)) finishing).2.2.1 "j1" x hx

/-- A body with a message in the details that is no text, and a text beside them. -/
def nullMessage : List UInt8 :=
  Bytes.ofText "\x7b\"detail\":\x7b\"message\":null\x7d,\"message\":\"boom\"\x7d"

/-- The first text at one of the places is lost: the failure names the call and the status only. -/
theorem refusal_loses_text_beside_details :
    ∃ x, loopback.cancelJob "j1" = .ok x ∧
      let r : Response := ⟨409, .complete nullMessage⟩
      Response.firstText? r.text = some "boom" ∧
        x.result (some r) = .error ⟨.api, "Cancel failed: HTTP 409"⟩ := by
  obtain ⟨x, hx⟩ := exists_cancel_loopback
  refine ⟨x, hx, by decide +kernel, ?_⟩
  refine (result_of_map_eq_ok hx _).trans ?_
  decide +kernel

end Client

end BackendMonitor
