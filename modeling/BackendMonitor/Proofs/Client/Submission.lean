import BackendMonitor.Proofs.Client.JobAddress
import BackendMonitor.Proofs.Json.Rendering
import BackendMonitor.Proofs.Text.Blank

/-!
# Submissions of scans

What a client sends when it is asked for a scan: nothing for a blank path, and otherwise one request
whose body says just which path is to be scanned, without the blanks around it, and how.

* `ScanRequest.ofText_written`: the body of a request is read as the scan that it is written for;
* `Http.request_body`: the address alone decides whether a request can be made;
* `Client.submission_carries_scan`: what is sent for a scan, and that it is sent again for the scan
  that its body means.
-/

namespace BackendMonitor

open Json Http Url

/-! ## The body -/

/-- The body of a request is read as the scan that it is written for. -/
theorem ScanRequest.ofText_written (r : ScanRequest) : decoder.ofText r.toText = .ok r := by
  rw [toText, toValue, Value.compactText_object]
  simp only [List.map_cons, List.map_nil]
  refine Record.ofText_of_takes ?_
  refine takes_written rfl (by decide) (Field.yields_of (yields_text r.path) _) ?_
  refine takes_written rfl (by decide) (Field.yields_of (yields_bool r.recursive) _) ?_
  exact .done rfl

/-- Whatever its body, a request can be made if its address can be asked. -/
theorem Http.request_body (method : Method) (address : String) (body : Option String) :
    Http.request method address body =
      (Http.request method address none).map fun r => { r with body := body } := by
  unfold Http.request
  cases Url.ofText? address with
  | none => rfl
  | some url =>
    simp only
    split <;> rfl

theorem exists_map_eq_ok_iff {ε α β : Type} (f : α → β) {e : Except ε α} :
    (∃ b, e.map f = .ok b) ↔ ∃ a, e = .ok a := by
  cases e with
  | error _ => exact ⟨nofun, nofun⟩
  | ok a => exact ⟨fun _ => ⟨a, rfl⟩, fun _ => ⟨f a, rfl⟩⟩

namespace Client

/-! ## The call -/

/-- Where scans are submitted. -/
def scanAddress (c : Client) : String :=
  c.baseUrl ++ "/api/v1/videos/scan"

variable {c : Client} {scan : ScanRequest}

namespace Checked

/-- A scan of a blank path is refused before anything is sent. -/
theorem submitScan_of_blank (c : Client) {request : ScanRequest}
    (hb : Text.isBlankText request.path = true) :
    Checked.submitScan c request = .error ⟨.invalidData, "Scan path must not be empty"⟩ := by
  unfold Checked.submitScan Checked.refuseBlank
  rw [hb]
  rfl

theorem submitScan_of_not_blank (c : Client) {request : ScanRequest}
    (hb : Text.isBlankText request.path = false) :
    Checked.submitScan c request = c.submitScan { request with path := Text.trim request.path } := by
  unfold Checked.submitScan Checked.refuseBlank
  rw [hb]
  rfl

end Checked

/-- What is sent for a scan, if anything is. -/
def scanRequest (c : Client) (scan : ScanRequest) : Except Failure Request :=
  (Checked.submitScan c scan).map (·.request)

theorem scanRequest_of_trim_ne (h : Text.trim scan.path ≠ "") :
    c.scanRequest scan = Http.request .post c.scanAddress
      (some (ScanRequest.toText { scan with path := Text.trim scan.path })) := by
  have hb : Text.isBlankText scan.path = false := by
    rwa [← Bool.not_eq_true, ← Text.trim_eq_empty_iff]
  have haddress : c.baseUrl ++ "/api/v1" ++ "/videos/scan" = c.scanAddress := String.append_assoc
  rw [scanRequest, Checked.submitScan_of_not_blank c hb, submitScan, request, haddress]
  cases Http.request .post c.scanAddress
    (some (ScanRequest.toText { scan with path := Text.trim scan.path })) <;> rfl

/-- Behind a plain origin scans are submitted at their place below its root. -/
theorem target_of_scanAddress (ho : PlainOrigin c.baseUrl) {body : Option String} {r : Request}
    (h : Http.request .post c.scanAddress body = .ok r) :
    r.url.target = "/api/v1/videos/scan".toList := by
  obtain ⟨host, port, hr⟩ := ho.exists_request
  have haddress : c.baseUrl ++ "/" ++ "api/v1/videos/scan" = c.scanAddress := String.append_assoc
  have hplace := hr .post "api/v1/videos/scan" body
  rw [haddress, h] at hplace
  simp only at hplace
  split at hplace
  · cases hplace
    rfl
  · cases hplace

/-- What is made of an address is a request with the method and the body that were asked for. -/
theorem request_eq_ok {method : Method} {address : String} {body : Option String} {r : Request}
    (h : Http.request method address body = .ok r) :
    r.method = method ∧ Url.ofText? address = some r.url ∧ r.body = body := by
  unfold Http.request at h
  split at h
  · cases h
  · next url hurl =>
    split at h
    · cases h
      exact ⟨rfl, hurl, rfl⟩
    · cases h

/-- The scan that a body means is submitted with this body again. -/
theorem scanRequest_again (h : Text.trim scan.path ≠ "") :
    c.scanRequest { scan with path := Text.trim scan.path } = c.scanRequest scan := by
  have hagain : Text.trim (ScanRequest.path { scan with path := Text.trim scan.path }) ≠ "" := by
    rwa [Text.trim_trim]
  rw [scanRequest_of_trim_ne h, scanRequest_of_trim_ne hagain]
  simp only [Text.trim_trim]

/-- What an exchange asks for that submits a scan: that the scan of the trimmed path be made. -/
structure AsksForScan (c : Client) (scan : ScanRequest) (x : Exchange String) : Prop where
  method : x.request.method = .post
  url : Url.ofText? (c.baseUrl ++ "/api/v1/videos/scan") = some x.request.url
  target : PlainOrigin c.baseUrl → x.request.url.target = "/api/v1/videos/scan".toList
  /-- The scan that is read of the body is submitted just as the first one was. -/
  body : ∃ body, x.request.body = some body ∧
    ScanRequest.decoder.ofText body = .ok ⟨Text.trim scan.path, scan.recursive⟩ ∧
    ∀ again, ScanRequest.decoder.ofText body = .ok again →
      ∃ y, Checked.submitScan c again = .ok y ∧ y.request = x.request

/-- What is sent for a scan. -/
structure CarriesScan (c : Client) (scan : ScanRequest) : Prop where
  /-- The path is taken without the blanks at its two ends, and kept as it is otherwise. -/
  trimmed : ∃ left right, scan.path.toList = left ++ (Text.trim scan.path).toList ++ right ∧
    (∀ c ∈ left, Text.isBlank c = true) ∧ (∀ c ∈ right, Text.isBlank c = true) ∧
    Text.IsTrimmed (Text.trim scan.path).toList
  refused : Text.trim scan.path = "" →
    Checked.submitScan c scan = .error ⟨.invalidData, "Scan path must not be empty"⟩
  /-- Something is sent, unless the address of the server cannot be asked. -/
  sent_iff : Text.trim scan.path ≠ "" →
    ((∃ x, Checked.submitScan c scan = .ok x) ↔
      ∃ r, Http.request .post (c.baseUrl ++ "/api/v1/videos/scan") none = .ok r)
  asks : Text.trim scan.path ≠ "" → ∀ x, Checked.submitScan c scan = .ok x → AsksForScan c scan x

/-- Whatever the path of a scan: if nothing is left of it without the blanks at its two ends, nothing
is sent. If something is, one request is sent, to the place where scans are submitted, with a body
that is read as the scan of the trimmed path. -/
theorem submission_carries_scan (c : Client) (scan : ScanRequest) : CarriesScan c scan where
  trimmed := by
    obtain ⟨left, right, heq, hl, hr⟩ := Text.exists_trim scan.path
    exact ⟨left, right, heq, hl, hr, Text.isTrimmed_trim scan.path⟩
  refused h := Checked.submitScan_of_blank c ((Text.trim_eq_empty_iff _).1 h)
  sent_iff h := by
    rw [← exists_map_eq_ok_iff (·.request)]
    show (∃ r, c.scanRequest scan = .ok r) ↔ _
    rw [scanRequest_of_trim_ne h, Http.request_body, exists_map_eq_ok_iff]
    rfl
  asks h x hx := by
    have hrequest : c.scanRequest scan = .ok x.request := by rw [scanRequest, hx]; rfl
    have hbody := ScanRequest.ofText_written { scan with path := Text.trim scan.path }
    have hagain := scanRequest_again (c := c) h
    rw [hrequest] at hagain
    rw [scanRequest_of_trim_ne h] at hrequest
    obtain ⟨hmethod, hurl, hb⟩ := request_eq_ok hrequest
    refine ⟨hmethod, hurl, fun ho => target_of_scanAddress ho hrequest, _, hb, hbody, ?_⟩
    intro again hread
    cases hbody.symm.trans hread
    cases hy : Checked.submitScan c { scan with path := Text.trim scan.path } with
    | error f => rw [scanRequest, hy] at hagain; cases hagain
    | ok y =>
      rw [scanRequest, hy] at hagain
      exact ⟨y, rfl, Except.ok.inj hagain⟩

/-- A path with blanks around it, and with quotes, backslashes, controls and a character of four bytes
inside. -/
def oddScan : ScanRequest where
  path := "\u3000/a \"b\"\\\x07\x0b😀/ \n"
  recursive := false

theorem submission_carries_scan_odd :
    ∃ x body, Checked.submitScan loopback oddScan = .ok x ∧
      x.request.url.target = "/api/v1/videos/scan".toList ∧ x.request.body = some body ∧
      ScanRequest.decoder.ofText body = .ok { oddScan with path := "/a \"b\"\\\x07\x0b😀/" } ∧
      Checked.submitScan loopback { path := "\u2003\x0b" } =
        .error ⟨.invalidData, "Scan path must not be empty"⟩ := by
  have htrim : Text.trim oddScan.path = "/a \"b\"\\\x07\x0b😀/" := by decide +kernel
  have hne : Text.trim oddScan.path ≠ "" := by decide +kernel
  have hsent := submission_carries_scan loopback oddScan
  obtain ⟨x, hx⟩ := (hsent.sent_iff hne).2 (exists_of_isOk (by decide +kernel))
  have hasks := hsent.asks hne x hx
  obtain ⟨body, hbody, hread, -⟩ := hasks.body
  rw [htrim] at hread
  exact ⟨x, body, hx, hasks.target plainOrigin_loopback, hbody, hread,
    (submission_carries_scan loopback _).refused (by decide +kernel)⟩

end Client

end BackendMonitor
