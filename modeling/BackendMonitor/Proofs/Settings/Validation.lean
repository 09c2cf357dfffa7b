import BackendMonitor.Connection.Backoff
import BackendMonitor.Proofs.Poller.Run
import BackendMonitor.Program

/-!
# What is built from settings

Settings without a problem are accepted by everything that is built from them, with one exception.
An address of nothing but slashes is not blank, and so no problem of settings; but as an origin it is
empty, and the client refuses it.

* `Settings.problem?_eq_none_iff`: what settings without a problem are like;
* `Client.ofSettings_eq`: what the client makes of settings;
* `Settings.accepted_unless_only_slashes`: what everything makes of settings without a problem;
* `Settings.refuses_onlySlashes`: a document that is accepted, with settings that are not.
-/

namespace BackendMonitor

/-! ## Validation -/

namespace Settings

variable {s s' : Settings}

theorem problem?_eq_none_iff :
    s.problem? = none ↔
      (0 < s.reconnect.baseDelayMs ∧ s.reconnect.baseDelayMs ≤ s.reconnect.maxDelayMs ∧
        0 < s.reconnect.connectTimeoutMs) ∧
      0 < s.poll.intervalMs ∧
      Text.isBlankText s.apiBaseUrl = false ∧ Text.isBlankText s.wsUrl = false := by
  simp only [UInt64.pos_iff_ne_zero, ← UInt64.not_lt, problem?]
  grind

/-- Validation changes nothing. -/
theorem validate_eq_ok_iff : s.validate = .ok s' ↔ s' = s ∧ s.problem? = none := by
  unfold validate
  cases s.problem? with
  | some p => simp
  | none => simp [eq_comm]

/-- Settings that were validated can be validated again. -/
theorem validate_of_validate (h : s.validate = .ok s') : s'.validate = .ok s' := by
  obtain ⟨rfl, -⟩ := validate_eq_ok_iff.1 h
  exact h

/-- Settings that are read from a document were validated. -/
theorem validate_of_ofText {text : String} (h : ofText text = .ok s) : s.validate = .ok s := by
  unfold ofText at h
  split at h
  · cases h
  · exact validate_of_validate h

end Settings

/-- Settings were validated with the options of the command line in place. -/
theorem Program.validate_of_settings {i : Invocation} {file : String → Except String (List UInt8)}
    {s : Settings} (h : Program.settings i file = .ok s) : s.validate = .ok s := by
  have accepts {s' : Settings} (h : (override i s').validate.mapError refused = .ok s) :
      s.validate = .ok s := by
    cases hv : (override i s').validate with
    | error f => rw [hv] at h; cases h
    | ok s'' =>
      rw [hv] at h
      cases h
      exact Settings.validate_of_validate hv
  unfold Program.settings at h
  cases hc : i.config with
  | none => rw [hc] at h; exact accepts h
  | some path =>
    rw [hc] at h
    cases hf : settingsOfFile path (file path) with
    | error o => simp only [hf] at h; cases h
    | ok s' => simp only [hf] at h; exact accepts h

/-! ## The client -/

namespace Client

theorem dropSlashes_eq_empty_iff (s : String) :
    dropSlashes s = "" ↔ s.toList.all (· = '/') = true := by
  rw [← String.toList_inj, dropSlashes, String.toList_ofList, String.toList_empty,
    List.reverse_eq_nil_iff, Text.dropWhile_eq_nil_iff, List.all_reverse]

/-- Whether an origin is nothing but slashes, apart from the blanks around it. -/
def isOnlySlashes (origin : String) : Bool :=
  (Text.trim origin).toList.all (· = '/')

/-- A client refuses an origin that is nothing but slashes, and no other one. -/
theorem ofSettings_eq (s : Settings) :
    ofSettings s =
      if isOnlySlashes s.apiBaseUrl then .error ⟨.invalidConfig, "API base URL is empty"⟩
      else .ok { baseUrl := dropSlashes (Text.trim s.apiBaseUrl)
                 timeoutMs := s.requestTimeoutMs.toNat } := by
  have h : (dropSlashes (Text.trim s.apiBaseUrl)).isEmpty = isOnlySlashes s.apiBaseUrl := by
    rw [Bool.eq_iff_iff, String.isEmpty_iff, dropSlashes_eq_empty_iff]
    rfl
  rw [ofSettings, ofBaseUrl, h]

end Client

/-! ## All that is built from settings -/

/-- A policy takes the delays that it is given, if the maximum is not below the base. -/
theorem ReconnectPolicy.ofDelays_of_le {base max : UInt64} (h : base ≤ max) (timeout : UInt64) :
    ofDelays base max timeout = ⟨base, max, timeout, h⟩ :=
  dif_pos h

namespace Settings

/-- Settings that are read from a document, or put together for a command line, were validated. To
validate settings is all that it takes to have them accepted: the poller takes its interval and its
budget for failures, and the policy for new attempts takes its delays just as they are, and they make
sense. The client accepts them as well, unless the origin is nothing but slashes: that is no
problem of settings, but the client refuses it. -/
theorem accepted_unless_only_slashes (s : Settings) :
    (∀ text, ofText text = .ok s → s.validate = .ok s) ∧
    (∀ i file, Program.settings i file = .ok s → s.validate = .ok s) ∧
    (s.validate = .ok s →
      (Client.isOnlySlashes s.apiBaseUrl = false → ∃ c, Client.ofSettings s = .ok c) ∧
      (Client.isOnlySlashes s.apiBaseUrl = true →
        Client.ofSettings s = .error ⟨.invalidConfig, "API base URL is empty"⟩) ∧
      (∃ p : Poller ScanRequest, Poller.ofSettings s.poll = .ok p ∧
        p.period = s.poll.intervalMs.toNat ∧ p.budget = s.poll.maxConsecutiveFailures) ∧
      let policy := ReconnectPolicy.ofSettings s.reconnect
      policy.baseMs = s.reconnect.baseDelayMs ∧ policy.maxMs = s.reconnect.maxDelayMs ∧
        policy.connectTimeoutMs = s.reconnect.connectTimeoutMs ∧
        0 < policy.baseMs ∧ policy.baseMs ≤ policy.maxMs ∧ 0 < policy.connectTimeoutMs) := by
  refine ⟨fun _ => validate_of_ofText, fun _ _ => Program.validate_of_settings, fun hs => ?_⟩
  obtain ⟨-, hp⟩ := validate_eq_ok_iff.1 hs
  obtain ⟨⟨hbase, hmax, htimeout⟩, hinterval, -, -⟩ := problem?_eq_none_iff.1 hp
  refine ⟨fun h => ?_, fun h => ?_, ?_, ?_⟩
  · exact ⟨_, (Client.ofSettings_eq s).trans (if_neg (by rw [h]; exact Bool.false_ne_true))⟩
  · exact (Client.ofSettings_eq s).trans (if_pos h)
  · have hinterval : 0 < s.poll.intervalMs.toNat := UInt64.lt_iff_toNat_lt.1 hinterval
    exact ⟨_, dif_pos hinterval, rfl, rfl⟩
  · intro policy
    have hpolicy : policy = ⟨_, _, _, hmax⟩ := ReconnectPolicy.ofDelays_of_le hmax _
    rw [hpolicy]
    exact ⟨rfl, rfl, rfl, hbase, hmax, htimeout⟩

/-- Settings with blanks and slashes around the address, and with one delay for all attempts. -/
def padded : Settings :=
  { apiBaseUrl := " http://localhost:8000// ", reconnect := { baseDelayMs := 30000 } }

theorem accepted_unless_only_slashes_padded :
    padded.validate = .ok padded ∧ (∃ c, Client.ofSettings padded = .ok c) ∧
      (ReconnectPolicy.ofSettings padded.reconnect).maxMs = 30000 := by
  have hv : padded.validate = .ok padded := validate_eq_ok_iff.2 ⟨rfl, by decide⟩
  obtain ⟨hc, -, -, -, hmax, -⟩ := (accepted_unless_only_slashes padded).2.2 hv
  exact ⟨hv, hc (by decide), hmax⟩

/-- A document with an address of slashes alone. -/
def onlySlashes : String := "\x7b\"api_base_url\":\"/\"\x7d"

/-- Such settings are validated, but there is no client for them. -/
theorem refuses_onlySlashes :
    ∃ s, ofText onlySlashes = .ok s ∧ s.validate = .ok s ∧
      Client.ofSettings s = .error ⟨.invalidConfig, "API base URL is empty"⟩ := by
  have h : (ofText onlySlashes).toOption = some { apiBaseUrl := "/" } := by decide +kernel
  cases hs : ofText onlySlashes with
  | error f => rw [hs] at h; cases h
  | ok s =>
    rw [hs] at h
    cases h
    exact ⟨_, rfl, validate_of_ofText hs, (Client.ofSettings_eq _).trans (if_pos (by decide))⟩

end Settings

end BackendMonitor
