import BackendMonitor.Job.Snapshot
import BackendMonitor.Proofs.Json.Record
import BackendMonitor.Proofs.Json.Rendering

/-!
# Snapshots that are written and read again

A report may spell a status in several ways, leave the reason of a timeout to its status, and say
`null` where it might say nothing. Reading settles all this: the snapshot that is read is written as a
report that means this snapshot again, and nothing is left to settle.

* `JobReport.HasResult`: a result that is read is not `null`;
* `JobReport.snapshot_report`: a snapshot is what its report means;
* `JobSnapshot.reading_settles_snapshot`: what is read is written as itself; what is refused, and what
  is made of errors.
-/

namespace BackendMonitor

open Json

/-! ## Statuses -/

namespace JobStatus

/-- The spellings of a status in reports, in lower case. -/
def reported : List String :=
  ["pending", "queued", "running", "complete", "completed", "failed", "timeout", "cancelled",
    "canceled"]

theorem lowerAscii_eq (c : Char) : lowerAscii c = c.toLower := by
  have hletters : ∀ n : Fin 26, lowerAscii (Char.ofNat ('A'.toNat + n)) =
      (Char.ofNat ('A'.toNat + n)).toLower := by decide
  by_cases h : 'A' ≤ c ∧ c ≤ 'Z'
  · obtain ⟨hlow, hhigh⟩ : 65 ≤ c.toNat ∧ c.toNat ≤ 90 := h
    have hc := hletters ⟨c.toNat - 65, by omega⟩
    have hn : 'A'.toNat + (c.toNat - 65) = c.toNat := by
      show 65 + (c.toNat - 65) = c.toNat
      omega
    rwa [hn, Char.ofNat_toNat] at hc
  · have hother : c.toLower = c := dif_neg h
    rw [lowerAscii, if_neg (by simpa using h), hother]

/-- What a report spells is looked up in lower case. -/
theorem reported?_eq (raw : String) :
    reported? raw = (spellings.find? (·.1 == raw.toLower)).map (·.2) := by
  have h : String.ofList (raw.toList.map lowerAscii) = raw.toLower := by
    change _ = raw.map Char.toLower
    rw [← String.toList_inj, String.toList_ofList, String.toList_map]
    exact List.map_congr_left fun c _ => lowerAscii_eq c
  rw [reported?, h]

theorem reported?_eq_none {raw : String} (h : raw.toLower ∉ reported) : reported? raw = none := by
  rw [reported?_eq, Option.map_eq_none_iff, List.find?_eq_none]
  intro entry hmem heq
  rw [← beq_iff_eq.1 heq] at h
  exact h (List.mem_map_of_mem (f := Prod.fst) hmem)

/-- A spelling that is known means a status, and the one of a timeout means a reason, too. -/
theorem reported?_eq_some {raw : String} (h : raw.toLower ∈ reported) :
    ∃ s implied, reported? raw = some (s, implied) ∧ (raw.toLower, s, implied) ∈ spellings ∧
      implied = if raw.toLower = "timeout" then some "job timed out" else none := by
  rw [reported?_eq]
  generalize raw.toLower = low at h ⊢
  simp only [reported, List.mem_cons, List.not_mem_nil, or_false] at h
  rcases h with rfl | rfl | rfl | rfl | rfl | rfl | rfl | rfl | rfl <;>
    exact ⟨_, _, rfl, by decide, rfl⟩

theorem reported?_name (s : JobStatus) : reported? s.name = some (s, none) := by
  cases s <;> rfl

end JobStatus

namespace Progress

/-- Progress that was read is read again as it is. -/
theorem ofFloat?_value {x : Float} {p : Progress} (h : ofFloat? x = some p) :
    ofFloat? p.value = some p := by
  have hcopy := h
  unfold ofFloat? at h
  split at h
  · cases h
  · split at h
    · cases h; rfl
    · split at h
      · cases h; rfl
      · cases h; exact hcopy

theorem bind_ofFloat?_value (o : Option Float) :
    ((o.bind ofFloat?).map (·.value)).bind ofFloat? = o.bind ofFloat? := by
  cases o with
  | none => rfl
  | some x =>
    cases hp : ofFloat? x with
    | none => simp [hp]
    | some p => simp [hp, ofFloat?_value hp]

end Progress

/-! ## Reports -/

namespace JobReport

/-- A result that is given is a value of a document, and not `null`. -/
def HasResult (room : Nat) (r : JobReport) : Prop :=
  ∀ v, r.result = some v → v ≠ .null ∧ v.IsRead room

theorem hasResult_of_read {room : Nat} {ts rest : List Token} {r : JobReport}
    (h : record.read room ts = .ok (r, rest)) : r.HasResult (room - 1) := by
  have stays {β : Type} {name : String} {required : Bool} {d : Decoder β}
      {set : β → JobReport → JobReport} (hs : ∀ b a, (set b a).result = a.result) :
      Record.Keeps (HasResult (room - 1)) (room - 1) (Field.of name required d set) :=
    Record.keeps_of fun _ b _ _ a ha v hv => ha v (hs b a ▸ hv)
  have hblank : record.blank.HasResult (room - 1) := nofun
  refine Record.read_induction hblank (fun field hf => ?_) h
  simp only [record, List.mem_cons, List.not_mem_nil, or_false] at hf
  rcases hf with rfl | rfl | rfl | rfl | rfl
  · exact stays fun _ _ => rfl
  · exact stays fun _ _ => rfl
  · exact stays fun _ _ => rfl
  · refine Record.keeps_of fun ts b rest hb a _ v hv => ?_
    obtain rfl : b = some v := hv
    exact isRead_of_optional hb
  · exact stays fun _ _ => rfl

theorem result_snapshot {r : JobReport} {s : JobSnapshot} (h : r.snapshot = .ok s) :
    s.result = r.result := by
  unfold snapshot at h
  split at h
  · cases h
  · cases h
    rfl

/-! ### Members that are `null` -/

theorem decides (f : Json.Field JobReport) (hf : f ∈ record.fields) (v : Spelling) (r : JobReport)
    (room : Nat) : v.Decides (f.read room · r) := by
  simp only [record, List.mem_cons, List.not_mem_nil, or_false] at hf
  rcases hf with rfl | rfl | rfl | rfl | rfl
  · exact Field.decides_of (v.decides_text room) r
  · exact Field.decides_of (v.decides_text room) r
  · exact Field.decides_of (Spelling.decides_optional (v.decides_float room)) r
  · exact Field.decides_of (Spelling.decides_optional (v.decides_any room)) r
  · exact Field.decides_of (Spelling.decides_optional (v.decides_text room)) r

/-- A field that is read leaves the optional fields with other names as they are. -/
theorem eq_of_yields {f : Json.Field JobReport} (hf : f ∈ record.fields) {v : Spelling}
    {r r' : JobReport} {room : Nat} (h : v.Yields (f.read room · r) r') :
    (f.name ≠ "progress" → r'.progress = r.progress) ∧ (f.name ≠ "result" → r'.result = r.result) ∧
      (f.name ≠ "error" → r'.error = r.error) := by
  simp only [record, List.mem_cons, List.not_mem_nil, or_false] at hf
  rcases hf with rfl | rfl | rfl | rfl | rfl <;> obtain ⟨b, rfl⟩ := Field.exists_of_yields h
  · exact ⟨fun _ => rfl, fun _ => rfl, fun _ => rfl⟩
  · exact ⟨fun _ => rfl, fun _ => rfl, fun _ => rfl⟩
  · exact ⟨fun hne => absurd rfl hne, fun _ => rfl, fun _ => rfl⟩
  · exact ⟨fun _ => rfl, fun hne => absurd rfl hne, fun _ => rfl⟩
  · exact ⟨fun _ => rfl, fun _ => rfl, fun hne => absurd rfl hne⟩

/-- An optional field that is `null` adds nothing to a report that lacks it. -/
theorem addsNothing_of_null {m : Member} {name : String}
    (hname : name ∈ ["progress", "result", "error"]) (hm : m.name? = some name)
    (hv : m.value = .null) (room : Nat) :
    ∃ P : JobReport → Prop, P record.blank ∧ record.AddsNothing room P name m := by
  have hnull {β : Type} (d : Decoder β) : m.value.Yields (d.optional.read room) none := by
    rw [hv]
    exact Spelling.yields_optional_null
  simp only [List.mem_cons, List.not_mem_nil, or_false] at hname
  rcases hname with rfl | rfl | rfl
  · exact ⟨fun r => r.progress = none, rfl, Record.addsNothing_of progress hm rfl (hnull _)
      (fun _ => rfl) (by simp [record, Field.of]) fun g hg hne v a a' h => (eq_of_yields hg h).1 hne⟩
  · exact ⟨fun r => r.result = none, rfl, Record.addsNothing_of result hm rfl (hnull _) (fun _ => rfl)
      (by simp [record, Field.of]) fun g hg hne v a a' h => (eq_of_yields hg h).2.1 hne⟩
  · exact ⟨fun r => r.error = none, rfl, Record.addsNothing_of error hm rfl (hnull _) (fun _ => rfl)
      (by simp [record, Field.of]) fun g hg hne v a a' h => (eq_of_yields hg h).2.2 hne⟩

end JobReport

namespace JobSnapshot

/-- The report that a snapshot is written as. -/
def report (s : JobSnapshot) : JobReport where
  jobId := s.jobId
  status := s.status.name
  progress := s.progress.map (·.value)
  result := s.result
  error := s.error

/-- A snapshot is what its report means. -/
theorem snapshot_report {r : JobReport} {s : JobSnapshot} (h : r.snapshot = .ok s) :
    s.report.snapshot = .ok s := by
  unfold JobReport.snapshot at h
  split at h
  · cases h
  · cases h
    simp only [JobReport.snapshot, report, JobStatus.reported?_name, Progress.bind_ofFloat?_value]
    cases r.error <;> simp

/-- The floating point numbers of a snapshot are read back as they are written. -/
def ReadsBack (s : JobSnapshot) : Prop :=
  (∀ p, s.progress = some p → (Number.float p.value).ReadsBack) ∧ ∀ v, s.result = some v → v.ReadsBack

/-- A snapshot that was read is written as a document that is read as its report. -/
theorem ofText_written {s : JobSnapshot} (h : s.ReadsBack)
    (hresult : s.report.HasResult (depthLimit - 1)) :
    JobReport.record.decoder.ofText s.toText = .ok s.report := by
  have hprogress : ((s.progress.map fun p => Value.float p.value).getD .null).spelling.Yields
      (Decoder.float.optional.read (depthLimit - 1)) (s.progress.map (·.value)) := by
    have hmap : (s.progress.map fun p => Value.float p.value) =
        (s.progress.map (·.value)).map Value.float := by cases s.progress <;> rfl
    rw [hmap]
    refine yields_floatOrNull fun x hx => ?_
    obtain ⟨p, hp, rfl⟩ := Option.map_eq_some_iff.1 hx
    exact h.1 p hp
  have hvalue : (s.result.getD .null).spelling.Yields
      (Decoder.any.optional.read (depthLimit - 1)) s.result :=
    yields_anyOrNull fun v hv => ⟨(hresult v hv).1, (hresult v hv).2, h.2 v hv⟩
  rw [toText, toValue, Value.compactText_object]
  simp only [List.map_cons, List.map_nil]
  refine Record.ofText_of_takes ?_
  refine takes_written rfl (by decide) (Field.yields_of (yields_text s.jobId) _) ?_
  refine takes_written rfl (by decide) (Field.yields_of (yields_text s.status.name) _) ?_
  refine takes_written rfl (by decide) (Field.yields_of hprogress _) ?_
  refine takes_written rfl (by decide) (Field.yields_of hvalue _) ?_
  refine takes_written rfl (by decide) (Field.yields_of (yields_textOrNull s.error) _) ?_
  exact .done rfl

theorem ofText_written_of_read {text : String} {s : JobSnapshot} (h : decoder.ofText text = .ok s)
    (hs : s.ReadsBack) : decoder.ofText s.toText = .ok s := by
  obtain ⟨r, hr, hsnapshot⟩ := Decoder.ofGlyphs_refine_eq_ok h
  have hresult : s.report.HasResult (depthLimit - 1) := fun v hv => by
    refine JobReport.hasResult_of_read (Decoder.read_of_ofGlyphs hr) v ?_
    rwa [← JobReport.result_snapshot hsnapshot]
  exact (Decoder.ofGlyphs_refine_of_ok (ofText_written hs hresult)).trans (snapshot_report hsnapshot)

/-- Reading settles a snapshot: it is written as a document that is read as the same snapshot again, if
its floating point numbers are read back. A document that is a report but for its status is refused for
this status, if it is none that is known in lower case; and is read as what it says otherwise, with the
reason of a timeout only if it gives none itself. To say `null` is to say nothing. -/
theorem reading_settles_snapshot :
    (∀ text s, decoder.ofText text = .ok s → s.ReadsBack → decoder.ofText s.toText = .ok s) ∧
    (∀ text r, JobReport.record.decoder.ofText text = .ok r →
      (r.status.toLower ∉ JobStatus.reported →
        decoder.ofText text = .error (.rejected s!"unknown job status '{r.status}'")) ∧
      (r.status.toLower ∈ JobStatus.reported →
        ∃ s implied, decoder.ofText text = .ok s ∧
          (r.status.toLower, s.status, implied) ∈ JobStatus.spellings ∧ s.jobId = r.jobId ∧
          s.progress = r.progress.bind Progress.ofFloat? ∧ s.result = r.result ∧
          s.error = r.error.or (if r.status.toLower = "timeout" then some "job timed out" else none))) ∧
    ∀ (d d' : Document) (before after : List Member) (m : Member) (name : String),
      name ∈ ["progress", "result", "error"] → m.name? = some name → m.value = .null →
      (∀ m' ∈ d.members, m'.name? ≠ some name) →
      d.members = before ++ after → d'.members = before ++ m :: after →
      (decoder.ofText d'.text).toOption = (decoder.ofText d.text).toOption := by
  refine ⟨fun _ _ => ofText_written_of_read, fun text r hr => ⟨fun hstatus => ?_, fun hstatus => ?_⟩, ?_⟩
  · refine (Decoder.ofGlyphs_refine_of_ok hr).trans ?_
    rw [JobReport.snapshot, JobStatus.reported?_eq_none hstatus]
  · obtain ⟨status, implied, hreported, hmem, rfl⟩ := JobStatus.reported?_eq_some hstatus
    have hs : decoder.ofText text = r.snapshot := Decoder.ofGlyphs_refine_of_ok hr
    rw [JobReport.snapshot, hreported] at hs
    refine ⟨_, _, hs, hmem, rfl, rfl, rfl, ?_⟩
    cases r.error <;> rfl
  · intro d d' before after m name hname hm hv hother hd hd'
    obtain ⟨P, hblank, hnothing⟩ := JobReport.addsNothing_of_null hname hm hv (depthLimit - 1)
    have hsame := Record.ofText_insert (fun f hf v r => JobReport.decides f hf v r _) hnothing hblank
      hd hd' hother
    have hcheck (text : String) : (decoder.ofText text).toOption =
        (JobReport.record.decoder.ofText text).toOption.bind fun r => r.snapshot.toOption :=
      Decoder.toOption_ofGlyphs_refine
    rw [hcheck, hcheck, hsame]

/-- The snapshot of a job that timed out halfway. -/
def timedOut : JobSnapshot where
  jobId := "j"
  status := .failed
  progress := some ⟨0.5⟩
  result := some (.object [("a", .array [.null, .nat 2]), ("b", .float 0.5)])
  error := some "job timed out"

theorem readsBack_timedOut : timedOut.ReadsBack := by
  refine ⟨fun p hp => ?_, fun v hv x hx => ?_⟩
  · cases hp
    exact Number.readsBack_half
  · cases hv
    obtain rfl : x = 0.5 := List.mem_singleton.1 hx
    exact Number.readsBack_half

/-- A timeout in letters of both cases, a status that is not known, and an error that is `null`. -/
theorem reading_settles_snapshot_timedOut :
    decoder.ofText timedOut.toText = .ok timedOut ∧
      decoder.ofText "\x7b\"job_id\":\"j\",\"status\":\"Done\"\x7d" =
        .error (.rejected "unknown job status 'Done'") ∧
      (decoder.ofText (Document.text { members := [member "status" (.text (spell "queued"))] ++
          [member "error" .null, member "job_id" (.text (spell "j"))] })).toOption =
        (decoder.ofText (Document.text { members := [member "status" (.text (spell "queued"))] ++
          [member "job_id" (.text (spell "j"))] })).toOption := by
  have hread : decoder.ofText ("\x7b\"status\":\"TimeOut\",\"job_id\":\"j\",\"progress\":0.5," ++
      "\"result\":\x7b\"b\":0.5,\"a\":[null,2]\x7d\x7d") = .ok timedOut := rfl
  have hdone : JobReport.record.decoder.ofText "\x7b\"job_id\":\"j\",\"status\":\"Done\"\x7d" =
      .ok { jobId := "j", status := "Done" } := rfl
  refine ⟨reading_settles_snapshot.1 _ timedOut hread readsBack_timedOut,
    (reading_settles_snapshot.2.1 _ _ hdone).1 (by decide +kernel), ?_⟩
  refine reading_settles_snapshot.2.2 _ _ _ _ (member "error" .null) "error" (by decide)
    (name?_member _ _) rfl ?_ rfl rfl
  simp

end JobSnapshot

end BackendMonitor
