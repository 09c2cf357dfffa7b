import BackendMonitor.Proofs.Json.Overlay
import BackendMonitor.Proofs.Json.Writing
import BackendMonitor.Proofs.Settings.Validation
import BackendMonitor.Settings.Document

/-!
# Settings that documents overlay

A document gives any part of the settings, in any order and among other things, and what it does not
give has its default.

* `ReconnectSettings.layout`, `PollSettings.layout`, `DebounceSettings.layout`, `Settings.layout`: the
  fields of settings;
* `Settings.document_overlays_defaults`: what a document is read as;
* `Settings.refuses_unpairedName`: a member that is no field, with a name that is no text.
-/

namespace BackendMonitor

open Json

/-! ## Fields -/

/-- Reconnect settings, field by field. -/
def ReconnectSettings.layout : Layout ReconnectSettings where
  record := record
  slots :=
    [ ⟨"base_delay_ms", UInt64, .word64, (·.baseDelayMs), fun v s => { s with baseDelayMs := v }⟩,
      ⟨"max_delay_ms", UInt64, .word64, (·.maxDelayMs), fun v s => { s with maxDelayMs := v }⟩,
      ⟨"connect_timeout_ms", UInt64, .word64, (·.connectTimeoutMs),
        fun v s => { s with connectTimeoutMs := v }⟩ ]
  depth := 0
  fields_eq := rfl
  nodup_names := by decide
  depth_le := by simp [Kind.word64]
  get_set := by simp
  get_set_of_ne := by simp
  ext := by
    rintro ⟨_, _, _⟩ ⟨_, _, _⟩
    simp

/-- Poll settings, field by field. -/
def PollSettings.layout : Layout PollSettings where
  record := record
  slots :=
    [ ⟨"interval_ms", UInt64, .word64, (·.intervalMs), fun v s => { s with intervalMs := v }⟩,
      ⟨"max_consecutive_failures", Option UInt32, .optional .word32 fun _ _ => rfl,
        (·.maxConsecutiveFailures), fun v s => { s with maxConsecutiveFailures := v }⟩ ]
  depth := 0
  fields_eq := rfl
  nodup_names := by decide
  depth_le := by simp [Kind.word64, Kind.word32, Kind.optional]
  get_set := by simp
  get_set_of_ne := by simp
  ext := by
    rintro ⟨_, _⟩ ⟨_, _⟩
    simp

/-- Debounce settings: their only field. -/
def DebounceSettings.layout : Layout DebounceSettings where
  record := record
  slots := [⟨"window_ms", UInt64, .word64, (·.windowMs), fun v s => { s with windowMs := v }⟩]
  depth := 0
  fields_eq := rfl
  nodup_names := by decide
  depth_le := by simp [Kind.word64]
  get_set := by simp
  get_set_of_ne := by simp
  ext := by
    rintro ⟨_⟩ ⟨_⟩
    simp

namespace Settings

/-- Settings, field by field. -/
def layout : Layout Settings where
  record := record
  slots :=
    [ ⟨"api_base_url", String, .text, (·.apiBaseUrl), fun v s => { s with apiBaseUrl := v }⟩,
      ⟨"ws_url", String, .text, (·.wsUrl), fun v s => { s with wsUrl := v }⟩,
      ⟨"request_timeout_ms", UInt64, .word64, (·.requestTimeoutMs),
        fun v s => { s with requestTimeoutMs := v }⟩,
      ⟨"reconnect", ReconnectSettings, ReconnectSettings.layout.kind, (·.reconnect),
        fun v s => { s with reconnect := v }⟩,
      ⟨"poll", PollSettings, PollSettings.layout.kind, (·.poll), fun v s => { s with poll := v }⟩,
      ⟨"debounce", DebounceSettings, DebounceSettings.layout.kind, (·.debounce),
        fun v s => { s with debounce := v }⟩ ]
  depth := 1
  fields_eq := rfl
  nodup_names := by decide
  depth_le := by simp [Kind.text, Kind.word64, Layout.kind, ReconnectSettings.layout,
    PollSettings.layout, DebounceSettings.layout]
  get_set := by simp
  get_set_of_ne := by simp
  ext := by
    rintro ⟨_, _, _, _, _, _⟩ ⟨_, _, _, _, _, _⟩
    simp +contextual

/-! ## Documents -/

/-- Settings are read if the document is read, and then they are validated. -/
theorem ofText_of_read {s : Settings} {text : String} (h : record.decoder.ofText text = .ok s) :
    ofText text = s.validate := by
  rw [ofText, h]

/-- A document may give any part of the settings. If it gives no field twice, and for each field that it
gives a value of its kind, then it is read, and as the only settings that have these values and the
defaults for all else. The same goes for the parts of the settings that are objects themselves: they
may be given in part. To accept the document is to validate these settings. Another order of the
members, at any level, and more or fewer members that are no fields, with whatever values, make no
difference. Only the names of members, among which the fields are looked for, have to be texts. -/
theorem document_overlays_defaults (d : Document) (hn : IsNamed d.members)
    (hf : layout.Fits d.members) :
    ∃ s : Settings, (∀ s', layout.Overlays {} d.members s' ↔ s' = s) ∧
      record.decoder.ofText d.text = .ok s ∧
      ofText d.text = s.validate ∧ (ofText d.text = .ok s ↔ s.validate = .ok s) ∧
      ∀ d' : Document, layout.Rearranged d.members d'.members →
        record.decoder.ofText d'.text = .ok s ∧ ofText d'.text = ofText d.text := by
  obtain ⟨s, hs⟩ := Layout.exists_overlays hf {}
  have hread {d' : Document} (hn' : IsNamed d'.members) (hs' : layout.Overlays {} d'.members s) :
      record.decoder.ofText d'.text = .ok s :=
    Layout.ofText_eq (l := layout) (by decide) d' hn' hs'
  have haccept := ofText_of_read (hread hn hs)
  refine ⟨s, fun s' => ⟨fun h => Layout.overlays_unique h hs, fun h => h ▸ hs⟩, hread hn hs, haccept,
    by rw [haccept], fun d' hd' => ?_⟩
  have hread' := hread (Layout.isNamed_of_rearranged hd' hn) (Layout.overlays_of_rearranged hd' hs)
  exact ⟨hread', (ofText_of_read hread').trans haccept.symm⟩

/-- A limit for failed polls, as it is given in a document. -/
def givenFailures : Member :=
  member "max_consecutive_failures" (.number ['5'] (IsWhole.isNumber (by decide)))

/-- A member that is no field, with half of a surrogate pair in its value. -/
def unpairedValue : Member :=
  member "x" (.text [.unit 'd' '8' '0' '0' 0xD800 rfl])

/-- A member that is no field, with containers in its value. -/
def laterValue : Member :=
  member "later" (.array .none
    [ { value := .number ['1'] (IsWhole.isNumber (by decide)), after := ⟨['\n'], by simp⟩ },
      { value := .object ⟨[' '], by simp⟩ [] } ])

/-- An address, as it is given in a document with an escape in the name of the field. -/
def givenUrl : Member where
  key := spell "ws" ++ .unit '0' '0' '5' 'f' 0x5F rfl :: spell "url"
  before := ⟨[' '], by simp⟩
  value := .text (spell "ws://h")

/-- A document of settings in part, among what is no field. -/
def inPart : Document where
  before := ⟨[' ', '\n'], by simp⟩
  members := [laterValue, member "poll" (.object .none [unpairedValue, givenFailures]), givenUrl]

/-- The same in another order, and without what is no field. -/
def inOrder : Document where
  members := [givenUrl, member "poll" (.object .none [givenFailures])]

/-- The settings that both documents mean. -/
def fromPart : Settings :=
  { wsUrl := "ws://h", poll := { maxConsecutiveFailures := some 5 } }

theorem name?_givenUrl : givenUrl.name? = some "ws_url" := by
  decide +kernel

theorem overlays_givenFailures :
    PollSettings.layout.Overlays {} [unpairedValue, givenFailures] fromPart.poll := by
  simp only [Layout.Overlays, PollSettings.layout, List.forall_mem_cons, valuesOf_cons, valuesOf_nil,
    unpairedValue, givenFailures, name?_member, value_member, Option.some_inj, String.reduceEq,
    reduceIte]
  exact ⟨rfl, ⟨by decide, by decide⟩, List.forall_mem_nil _⟩

theorem overlays_inPart : layout.Overlays {} inPart.members fromPart := by
  have hnamed : IsNamed [unpairedValue, givenFailures] := by
    simp [IsNamed, unpairedValue, givenFailures]
  simp only [Layout.Overlays, layout, List.forall_mem_cons, valuesOf_cons, valuesOf_nil, inPart,
    laterValue, name?_member, name?_givenUrl, value_member, Option.some_inj, String.reduceEq,
    reduceIte]
  exact ⟨rfl, meaning?_spell "ws://h", rfl, rfl, ⟨hnamed, overlays_givenFailures⟩, rfl,
    List.forall_mem_nil _⟩

theorem rearranged_inPart : layout.Rearranged inPart.members inOrder.members := by
  have hinner : PollSettings.layout.Rearranged [unpairedValue, givenFailures] [givenFailures] :=
    .remove (by simp [PollSettings.layout, unpairedValue])
  have hpoll : layout.Rearranged
      [member "poll" (.object .none [unpairedValue, givenFailures]), givenUrl]
      [member "poll" (.object .none [givenFailures]), givenUrl] :=
    .replace (s := ⟨"poll", _, PollSettings.layout.kind, (·.poll), fun v s => { s with poll := v }⟩)
      (by simp [layout]) (name?_member ..) (name?_member ..) hinner
  exact .trans (.remove (by simp [layout, laterValue])) (.trans hpoll (.perm (.swap ..)))

theorem document_overlays_defaults_inPart :
    inPart.text =
        " \n\x7b\"later\":[1\n,\x7b \x7d]," ++
          "\"poll\":\x7b\"x\":\"\\ud800\",\"max_consecutive_failures\":5\x7d," ++
            "\"ws\\u005furl\": \"ws://h\"\x7d" ∧
      IsNamed inPart.members ∧ layout.Fits inPart.members ∧
      record.decoder.ofText inPart.text = .ok fromPart ∧ ofText inPart.text = .ok fromPart ∧
      ofText inOrder.text = .ok fromPart := by
  refine ⟨by decide +kernel, ?_⟩
  have hnamed : IsNamed inPart.members := by
    simp [IsNamed, inPart, laterValue, name?_givenUrl]
  have hfits := Layout.fits_of_overlays overlays_inPart
  obtain ⟨s, hs, hread, -, haccept, harranged⟩ := document_overlays_defaults inPart hnamed hfits
  obtain rfl := (hs fromPart).1 overlays_inPart
  have hvalid : fromPart.validate = .ok fromPart := validate_eq_ok_iff.2 ⟨rfl, by decide⟩
  have hdocument := haccept.2 hvalid
  exact ⟨hnamed, hfits, hread, hdocument, (harranged inOrder rearranged_inPart).2.trans hdocument⟩

/-- A member that is no field, whose name is half of a surrogate pair. -/
def loneHalf : Member where
  key := [.unit 'd' '8' '0' '0' 0xD800 rfl]
  value := .number ['0'] (IsWhole.isNumber (by decide))

/-- A document with such a member. -/
def unpairedName : Document where
  members := [loneHalf]

/-- No field is given, so the settings of such a document would be the defaults. But it is not read. -/
theorem refuses_unpairedName :
    unpairedName.text = "\x7b\"\\ud800\":0\x7d" ∧
      layout.Fits unpairedName.members ∧ layout.Overlays {} unpairedName.members {} ∧
      (∀ s, record.decoder.ofText unpairedName.text ≠ .ok s) ∧
      ∀ s, ofText unpairedName.text ≠ .ok s := by
  have hname : loneHalf.name? = none := rfl
  have hoverlays : layout.Overlays {} unpairedName.members {} := by
    intro s _
    simp only [unpairedName, valuesOf_cons, hname, reduceCtorEq, reduceIte, valuesOf_nil]
    rfl
  have hread : (record.decoder.ofText unpairedName.text).toOption = none := by decide +kernel
  have haccept : (ofText unpairedName.text).toOption = none := by decide +kernel
  refine ⟨by decide +kernel, Layout.fits_of_overlays hoverlays, hoverlays, fun s h => ?_,
    fun s h => ?_⟩
  · rw [h] at hread
    cases hread
  · rw [h] at haccept
    cases haccept

end Settings

end BackendMonitor
