import BackendMonitor.Event
import BackendMonitor.Proofs.Json.Record
import BackendMonitor.Proofs.Json.Rendering

/-!
# Events that are written and read again

An event is a type, which may have any name, with a payload of any kind. What is read of a frame is
written as a frame that is read as the same event.

* `EventType.name_ofName`: a type keeps the name that it is given by;
* `Event.ofFrame?_eq`: an event is what its frame says, with the type that the name is of;
* `Event.frame_kept`: an event that is read stays the same, and keeps the name of its type; to leave a
  payload, a correlation or a time out is to say that it is `null`.
-/

namespace BackendMonitor

open Json

/-! ## Types -/

namespace EventType

theorem name_ofName (s : String) : (ofName s).name = s := by
  unfold ofName
  cases h : known.find? (·.name == s) with
  | none => rfl
  | some t => simpa using List.find?_some h

/-- A name that is known is that of no other type. -/
theorem not_mem_known_of_other {s s' : String} (h : ofName s = .other s') :
    s' ∉ known.map name := by
  have hs : s' = s := by
    have hname := name_ofName s
    rwa [h] at hname
  subst hs
  rw [List.mem_map]
  rintro ⟨t, ht, hname⟩
  unfold ofName at h
  cases hfind : known.find? (·.name == s') with
  | none => exact List.find?_eq_none.1 hfind t ht (beq_iff_eq.2 hname)
  | some t' =>
    rw [hfind, Option.getD_some] at h
    have hmem : t' ∈ known := List.mem_of_find?_eq_some hfind
    rw [h] at hmem
    simp [known] at hmem

end EventType

namespace Event

/-! ## Names of types -/

/-- The fields of an event whose type is left as its name. -/
def verbatim : Record Event :=
  recordWith .other

/-- The name of the type in a frame, as it stands there, if there is an event in the frame. -/
def typeName? (frame : String) : Option String :=
  (verbatim.decoder.ofText frame).toOption.map (·.type.name)

/-- An event with the type that has the name of its own type. -/
def classified (e : Event) : Event :=
  { e with type := .ofName e.type.name }

/-- An event is what its frame says, with the type that the name is of. -/
theorem ofFrame?_eq (frame : String) :
    ofFrame? frame = (verbatim.decoder.ofText frame).toOption.map classified := by
  have halike : Record.Alike (fun e w => e = classified w) (depthLimit - 1) record verbatim := by
    refine ⟨rfl, .cons ?_ <| .cons ?_ <| .cons ?_ <| .cons ?_ .nil, rfl⟩
    all_goals
      refine Record.fieldsAlike_of ?_
      rintro v _ w rfl
      rfl
  have hrel := Record.toOption_ofText_alike halike frame
  rw [ofFrame?]
  generalize (record.decoder.ofText frame).toOption = x,
    (verbatim.decoder.ofText frame).toOption = y at hrel ⊢
  cases hrel with
  | none => rfl
  | some h => rw [h]; rfl

/-- The type of an event has the name that stands in the frame. -/
theorem typeName?_of_ofFrame? {frame : String} {e : Event} (h : ofFrame? frame = some e) :
    typeName? frame = some e.type.name ∧ e.classified = e := by
  rw [ofFrame?_eq, Option.map_eq_some_iff] at h
  obtain ⟨w, hw, rfl⟩ := h
  rw [typeName?, hw, Option.map_some]
  simp [classified, EventType.name_ofName]

/-! ## Payloads -/

theorem isRead_payload {room : Nat} {ts rest : List Token} {e : Event}
    (h : record.read room ts = .ok (e, rest)) : e.payload.IsRead (room - 1) := by
  have stays {β : Type} {name : String} {required : Bool} {d : Decoder β}
      {set : β → Event → Event} (hs : ∀ b e, (set b e).payload = e.payload) :
      Record.Keeps (fun e => e.payload.IsRead (room - 1)) (room - 1) (Field.of name required d set) :=
    Record.keeps_of fun _ b _ _ e he => by rwa [hs]
  have hblank : record.blank.payload.IsRead (room - 1) := .null
  refine Record.read_induction (motive := fun e => e.payload.IsRead (room - 1)) hblank
    (fun field hf => ?_) h
  simp only [record, recordWith, List.mem_cons, List.not_mem_nil, or_false] at hf
  rcases hf with rfl | rfl | rfl | rfl
  · exact stays fun _ _ => rfl
  · exact Record.keeps_of fun ts b rest hb e _ => isRead_of_readValue hb
  · exact stays fun _ _ => rfl
  · exact stays fun _ _ => rfl

/-- An event is written as a frame that is read as the event. -/
theorem ofText_toFrame {e : Event} (h : e.payload.IsRead (depthLimit - 1)) (hp : e.payload.ReadsBack) :
    record.decoder.ofText e.toFrame = .ok e.classified := by
  rw [toFrame, toValue, Value.compactText_object]
  simp only [List.map_cons, List.map_nil]
  refine Record.ofText_of_takes ?_
  refine takes_written rfl (by decide) (Field.yields_of (yields_text e.type.name) _) ?_
  refine takes_written rfl (by decide) (Field.yields_of (yields_any h hp) _) ?_
  refine takes_written rfl (by decide) (Field.yields_of (yields_textOrNull e.correlationId) _) ?_
  refine takes_written rfl (by decide) (Field.yields_of (yields_textOrNull e.timestamp) _) ?_
  exact .done rfl

theorem ofFrame?_toFrame {frame : String} {e : Event} (h : ofFrame? frame = some e)
    (hp : e.payload.ReadsBack) : ofFrame? e.toFrame = some e := by
  have hread : record.decoder.ofText frame = .ok e := eq_ok_of_toOption h
  have hpayload : e.payload.IsRead (depthLimit - 1) := isRead_payload (Decoder.read_of_ofGlyphs hread)
  rw [ofFrame?, ofText_toFrame hpayload hp, (typeName?_of_ofFrame? h).2]
  rfl

/-! ## Members that are `null` -/

theorem decides (f : Json.Field Event) (hf : f ∈ record.fields) (v : Spelling) (e : Event)
    (room : Nat) : v.Decides (f.read room · e) := by
  simp only [record, recordWith, List.mem_cons, List.not_mem_nil, or_false] at hf
  rcases hf with rfl | rfl | rfl | rfl
  · exact Field.decides_of (v.decides_text room) e
  · exact Field.decides_of (v.decides_any room) e
  · exact Field.decides_of (Spelling.decides_optional (v.decides_text room)) e
  · exact Field.decides_of (Spelling.decides_optional (v.decides_text room)) e

/-- A field that is read leaves the fields with other names as they are. -/
theorem eq_of_yields {f : Json.Field Event} (hf : f ∈ record.fields) {v : Spelling} {e e' : Event}
    {room : Nat} (h : v.Yields (f.read room · e) e') :
    (f.name ≠ "payload" → e'.payload = e.payload) ∧
      (f.name ≠ "correlation_id" → e'.correlationId = e.correlationId) ∧
      (f.name ≠ "timestamp" → e'.timestamp = e.timestamp) := by
  simp only [record, recordWith, List.mem_cons, List.not_mem_nil, or_false] at hf
  rcases hf with rfl | rfl | rfl | rfl <;> obtain ⟨b, rfl⟩ := Field.exists_of_yields h
  · exact ⟨fun _ => rfl, fun _ => rfl, fun _ => rfl⟩
  · exact ⟨fun hne => absurd rfl hne, fun _ => rfl, fun _ => rfl⟩
  · exact ⟨fun _ => rfl, fun hne => absurd rfl hne, fun _ => rfl⟩
  · exact ⟨fun _ => rfl, fun _ => rfl, fun hne => absurd rfl hne⟩

/-- A field that is `null` adds nothing to an event that lacks it. -/
theorem addsNothing_of_null {m : Member} {name : String}
    (hname : name ∈ ["payload", "correlation_id", "timestamp"]) (hm : m.name? = some name)
    (hv : m.value = .null) (room : Nat) :
    ∃ P : Event → Prop, P record.blank ∧ record.AddsNothing room P name m := by
  have hnull : m.value.Yields (Decoder.text.optional.read room) none := by
    rw [hv]
    exact Spelling.yields_optional_null
  have hvalue : m.value.Yields (Decoder.any.read room) .null := by
    rw [hv]
    exact Spelling.yields_any rfl
  simp only [List.mem_cons, List.not_mem_nil, or_false] at hname
  rcases hname with rfl | rfl | rfl
  · exact ⟨fun e => e.payload = .null, rfl, Record.addsNothing_of payload hm rfl hvalue
      (fun _ => rfl) (by simp [record, recordWith, Field.of])
      fun g hg hne v e e' h => (eq_of_yields hg h).1 hne⟩
  · exact ⟨fun e => e.correlationId = none, rfl, Record.addsNothing_of correlationId hm rfl hnull
      (fun _ => rfl) (by simp [record, recordWith, Field.of])
      fun g hg hne v e e' h => (eq_of_yields hg h).2.1 hne⟩
  · exact ⟨fun e => e.timestamp = none, rfl, Record.addsNothing_of timestamp hm rfl hnull
      (fun _ => rfl) (by simp [record, recordWith, Field.of])
      fun g hg hne v e e' h => (eq_of_yields hg h).2.2 hne⟩

/-! ## Frames -/

/-- An event that is read of a frame is written as a frame with the same event, if the floating point
numbers of its payload are read back. Its type has the very name that stands in the frame, and has this
name as another one only if no type is known by it. A payload, a correlation or a time that is `null` is
none. -/
theorem frame_kept :
    (∀ frame e, ofFrame? frame = some e →
      (e.payload.ReadsBack → ofFrame? e.toFrame = some e) ∧ typeName? frame = some e.type.name ∧
      ∀ s, e.type = .other s → s ∉
        ["health_status", "scan_started", "scan_completed", "project_created", "heartbeat"]) ∧
    ∀ (d d' : Document) (before after : List Member) (m : Member) (name : String),
      name ∈ ["payload", "correlation_id", "timestamp"] → m.name? = some name → m.value = .null →
      (∀ m' ∈ d.members, m'.name? ≠ some name) →
      d.members = before ++ after → d'.members = before ++ m :: after →
      ofFrame? d'.text = ofFrame? d.text := by
  refine ⟨fun frame e h => ⟨ofFrame?_toFrame h, (typeName?_of_ofFrame? h).1, fun s hs => ?_⟩, ?_⟩
  · have hclassified := congrArg Event.type (typeName?_of_ofFrame? h).2
    exact EventType.not_mem_known_of_other (hclassified.trans hs)
  · intro d d' before after m name hname hm hv hother hd hd'
    obtain ⟨P, hblank, hnothing⟩ := addsNothing_of_null hname hm hv (depthLimit - 1)
    exact Record.ofText_insert (fun f hf v e => decides f hf v e _) hnothing hblank hd hd' hother

/-- An event of a type that is not known, whose name has to be written with a backslash. -/
def quoted : Event where
  type := .other "a\"b"
  payload := .array [.float 0.5]

theorem readsBack_quoted : quoted.payload.ReadsBack := by
  intro x hx
  obtain rfl : x = 0.5 := List.mem_singleton.1 hx
  exact Number.readsBack_half

theorem frame_kept_quoted :
    ofFrame? quoted.toFrame = some quoted ∧
      "a\"b" ∉ ["health_status", "scan_started", "scan_completed", "project_created", "heartbeat"] ∧
      ofFrame? (Document.text { members := [] ++
          [member "payload" .null, member "type" (.text (spell "heartbeat"))] }) =
        ofFrame? (Document.text { members := [] ++ [member "type" (.text (spell "heartbeat"))] }) := by
  have hread : ofFrame? ("\x7b\"payload\":[5e-1],\"x\":[\x7b\x7d],\"timestamp\":null," ++
      "\"type\":\"a\\\"\\u0062\"\x7d") = some quoted := rfl
  obtain ⟨hkept, -, hother⟩ := frame_kept.1 _ quoted hread
  refine ⟨hkept readsBack_quoted, hother "a\"b" rfl, ?_⟩
  refine frame_kept.2 _ _ [] _ (member "payload" .null) "payload" (by decide) (name?_member _ _) rfl ?_
    rfl rfl
  simp

end Event

end BackendMonitor
