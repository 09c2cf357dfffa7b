import BackendMonitor.Json.Decoder
import BackendMonitor.Json.Printer
import BackendMonitor.Settings

/-!
# Settings documents

Settings as JSON. A document gives any of the fields, in any order; the others keep their defaults.
Written settings name every field, in the order of declaration.
-/

namespace BackendMonitor

open Json

/-! ## Reading -/

/-- The fields of reconnect settings. -/
def ReconnectSettings.record : Record ReconnectSettings where
  name := "ReconnectSettings"
  fields :=
    [ .of "base_delay_ms" false .word64 fun v s => { s with baseDelayMs := v },
      .of "max_delay_ms" false .word64 fun v s => { s with maxDelayMs := v },
      .of "connect_timeout_ms" false .word64 fun v s => { s with connectTimeoutMs := v } ]
  blank := {}

/-- The fields of poll settings. -/
def PollSettings.record : Record PollSettings where
  name := "PollSettings"
  fields :=
    [ .of "interval_ms" false .word64 fun v s => { s with intervalMs := v },
      .of "max_consecutive_failures" false (.optional .word32) fun v s =>
        { s with maxConsecutiveFailures := v } ]
  blank := {}

/-- The field of debounce settings. -/
def DebounceSettings.record : Record DebounceSettings where
  name := "DebounceSettings"
  fields := [.of "window_ms" false .word64 fun v s => { s with windowMs := v }]
  blank := {}

/-- The fields of settings. -/
def Settings.record : Record Settings where
  name := "ClientSettings"
  fields :=
    [ .of "api_base_url" false .text fun v s => { s with apiBaseUrl := v },
      .of "ws_url" false .text fun v s => { s with wsUrl := v },
      .of "request_timeout_ms" false .word64 fun v s => { s with requestTimeoutMs := v },
      .of "reconnect" false ReconnectSettings.record.decoder fun v s => { s with reconnect := v },
      .of "poll" false PollSettings.record.decoder fun v s => { s with poll := v },
      .of "debounce" false DebounceSettings.record.decoder fun v s => { s with debounce := v } ]
  blank := {}

/-- Reads settings, and accepts them if they have no problem. -/
def Settings.ofText (s : String) : Except Failure Settings :=
  match Settings.record.decoder.ofText s with
  | .error fault => .error (.ofFault fault)
  | .ok settings => settings.validate

/-! ## Writing -/

/-- Reconnect settings as a value. -/
def ReconnectSettings.toValue (s : ReconnectSettings) : Value :=
  .object
    [ ("base_delay_ms", .nat s.baseDelayMs.toNat),
      ("max_delay_ms", .nat s.maxDelayMs.toNat),
      ("connect_timeout_ms", .nat s.connectTimeoutMs.toNat) ]

/-- Poll settings as a value. -/
def PollSettings.toValue (s : PollSettings) : Value :=
  .object
    [ ("interval_ms", .nat s.intervalMs.toNat),
      ("max_consecutive_failures",
        match s.maxConsecutiveFailures with
        | some n => .nat n.toNat
        | none => .null) ]

/-- Debounce settings as a value. -/
def DebounceSettings.toValue (s : DebounceSettings) : Value :=
  .object [("window_ms", .nat s.windowMs.toNat)]

/-- Settings as a value. -/
def Settings.toValue (s : Settings) : Value :=
  .object
    [ ("api_base_url", .text s.apiBaseUrl),
      ("ws_url", .text s.wsUrl),
      ("request_timeout_ms", .nat s.requestTimeoutMs.toNat),
      ("reconnect", s.reconnect.toValue),
      ("poll", s.poll.toValue),
      ("debounce", s.debounce.toValue) ]

/-- Settings as a document. -/
def Settings.toText (s : Settings) : String :=
  s.toValue.compactText

end BackendMonitor
