import BackendMonitor.Proofs.Settings.Overlay

/-!
# Settings that are written and read again

* `Settings.ofText_toText`: settings without a problem are read again as they were written;
* `Settings.ofText_toText_fullRange`: settings with all that has to be escaped, and the greatest
  numbers.
-/

namespace BackendMonitor

open Json

/-! ## What is written -/

/-- Reconnect settings, as they are written. -/
def ReconnectSettings.written (s : ReconnectSettings) : Written :=
  .object
    [ ("base_delay_ms", .nat s.baseDelayMs.toNat),
      ("max_delay_ms", .nat s.maxDelayMs.toNat),
      ("connect_timeout_ms", .nat s.connectTimeoutMs.toNat) ]

/-- Poll settings, as they are written. -/
def PollSettings.written (s : PollSettings) : Written :=
  .object
    [ ("interval_ms", .nat s.intervalMs.toNat),
      ("max_consecutive_failures",
        match s.maxConsecutiveFailures with
        | some n => .nat n.toNat
        | none => .null) ]

/-- Debounce settings, as they are written. -/
def DebounceSettings.written (s : DebounceSettings) : Written :=
  .object [("window_ms", .nat s.windowMs.toNat)]

/-- The members of written settings. -/
def Settings.writtenMembers (s : Settings) : List (String × Written) :=
  [ ("api_base_url", .text s.apiBaseUrl),
    ("ws_url", .text s.wsUrl),
    ("request_timeout_ms", .nat s.requestTimeoutMs.toNat),
    ("reconnect", s.reconnect.written),
    ("poll", s.poll.written),
    ("debounce", s.debounce.written) ]

theorem PollSettings.value_written (s : PollSettings) : s.written.value = s.toValue := by
  obtain ⟨_, failures⟩ := s
  cases failures <;> rfl

theorem Settings.value_writtenMembers (s : Settings) :
    (Written.object s.writtenMembers).value = s.toValue := by
  simp only [Written.object, writtenMembers, List.map_cons, List.map_nil, PollSettings.value_written]
  rfl

/-- Written settings are a document. -/
theorem Settings.toText_eq (s : Settings) :
    s.toText = Document.text { members := Written.members s.writtenMembers } := by
  have hchars := (Written.object s.writtenMembers).chars_eq
  rw [value_writtenMembers] at hchars
  rw [toText, Value.compactText, ← hchars, Document.text]
  simp [Written.object, Blanks.none]

/-! ## What it overlays -/

theorem ReconnectSettings.spells_written (s : ReconnectSettings) :
    layout.kind.Spells s.written.spelling s :=
  Layout.spells_written
    (.cons ⟨rfl, Written.spells_nat _⟩
      (.cons ⟨rfl, Written.spells_nat _⟩
        (.cons ⟨rfl, Written.spells_nat _⟩ .nil)))

theorem PollSettings.spells_written (s : PollSettings) :
    layout.kind.Spells s.written.spelling s := by
  obtain ⟨interval, failures⟩ := s
  cases failures with
  | none =>
    exact Layout.spells_written (.cons ⟨rfl, Written.spells_nat _⟩ (.cons ⟨rfl, rfl⟩ .nil))
  | some n =>
    exact Layout.spells_written
      (.cons ⟨rfl, Written.spells_nat _⟩ (.cons ⟨rfl, Written.spells_nat n.toNat⟩ .nil))

theorem DebounceSettings.spells_written (s : DebounceSettings) :
    layout.kind.Spells s.written.spelling s :=
  Layout.spells_written (.cons ⟨rfl, Written.spells_nat _⟩ .nil)

namespace Settings

/-- Written settings overlay any settings with themselves: no field is left out. -/
theorem overlays_written (blank s : Settings) :
    layout.Overlays blank (Written.members s.writtenMembers) s :=
  Layout.overlays_written blank
    (.cons ⟨rfl, meaning?_spell _⟩
      (.cons ⟨rfl, meaning?_spell _⟩
        (.cons ⟨rfl, Written.spells_nat _⟩
          (.cons ⟨rfl, s.reconnect.spells_written⟩
            (.cons ⟨rfl, s.poll.spells_written⟩
              (.cons ⟨rfl, s.debounce.spells_written⟩ .nil))))))

/-- Settings that are validated are read again as they were written, whatever characters the addresses
have, and however large the numbers are. -/
theorem ofText_toText {s : Settings} (h : s.validate = .ok s) : ofText s.toText = .ok s := by
  have hread : record.decoder.ofText s.toText = .ok s := by
    rw [toText_eq]
    exact Layout.ofText_eq (l := layout) (by decide) _ (Written.isNamed_members _)
      (overlays_written _ s)
  rw [ofText_of_read hread, h]

/-- Settings with all that has to be escaped, with the greatest numbers and with the least. -/
def fullRange : Settings where
  apiBaseUrl := "\"\\/\n\x01\x7f \u00e9\u2028"
  wsUrl := "\t\ufeff"
  requestTimeoutMs := 0xFFFFFFFFFFFFFFFF
  reconnect :=
    { baseDelayMs := 1, maxDelayMs := 0xFFFFFFFFFFFFFFFF, connectTimeoutMs := 0xFFFFFFFFFFFFFFFF }
  poll := { intervalMs := 0xFFFFFFFFFFFFFFFF, maxConsecutiveFailures := some 0xFFFFFFFF }
  debounce := { windowMs := 0 }

theorem ofText_toText_fullRange :
    fullRange.validate = .ok fullRange ∧ ofText fullRange.toText = .ok fullRange := by
  have h : fullRange.validate = .ok fullRange := validate_eq_ok_iff.2 ⟨rfl, by decide +kernel⟩
  exact ⟨h, ofText_toText h⟩

end Settings

end BackendMonitor
