import BackendMonitor.Proofs.Client.JobStatus
import BackendMonitor.Proofs.Text.Utf8
import BackendMonitor.Proofs.Url.Origin

/-!
# Addresses of jobs

Which job a server is asked for. The name of a job is put into an address as it is, and the address
is read as browsers do. So not every name is one segment of the path that means this name: slashes
make more segments, dot segments vanish, question marks and number signs end the path, tabs and line
ends are dropped, and what looks like an escape is taken for one.

* `Names`: a target names a job;
* `meansItself`: the names of jobs that an address keeps;
* `addresses_job_iff`: a job is asked for and cancelled under its name just when it has such a name.
-/

namespace BackendMonitor.Client

open Http Url

/-! ## Names of jobs -/

/-- A target names a job: behind the directory of jobs stands one segment that means its name, then
`back`, and there is no query. -/
def Names (target back : List Char) (jobId : String) : Prop :=
  ∃ segment, target = "/api/v1/jobs/".toList ++ segment ++ back ∧ '/' ∉ segment ∧ '?' ∉ segment ∧
    unescape segment = Bytes.ofText jobId

/-- Whether a name is kept by an address in which something stands behind it. -/
def meansItself (jobId : String) : Bool :=
  jobId.toList.all (fun c => !(['/', '\\', '?', '#', '\t', '\n', '\r'].contains c)) &&
    !isDot jobId.toList && !isDoubleDot jobId.toList && !hasEscape jobId.toList

/-- Whether a name is kept at the end of an address, where controls and blanks do not count. -/
def meansItselfAtEnd (jobId : String) : Bool :=
  meansItself jobId && !jobId.toList.getLast?.any isEdge

theorem ofText_injective {a b : String} (h : Bytes.ofText a = Bytes.ofText b) : a = b :=
  Option.some.inj ((Text.Utf8.text?_eq_some_iff.2 rfl).symm.trans (Text.Utf8.text?_eq_some_iff.2 h))

/-- A target names one job at most. -/
theorem Names.unique {target back : List Char} {jobId other : String} (h : Names target back jobId)
    (h' : Names target back other) : jobId = other := by
  obtain ⟨segment, ht, -, -, hu⟩ := h
  obtain ⟨segment', ht', -, -, hu'⟩ := h'
  rw [ht, List.append_left_inj, List.append_right_inj] at ht'
  rw [ht', hu'] at hu
  exact (ofText_injective hu).symm

/-! ## The directory of jobs -/

/-- The segments of the directory. -/
def directory : List (List Char) :=
  ["api".toList, "v1".toList, "jobs".toList]

/-- The place of something in the directory. -/
def inDirectory (cs : List Char) : List Char :=
  "api/v1/jobs/".toList ++ cs

variable {host : Host} {port : Option Nat} {cs : List Char}

theorem path_inDirectory :
    (below host port (inDirectory cs)).path =
      .segments (follow directory (pieces .web (beforeQuery cs))) := by
  have hq : beforeQuery (inDirectory cs) = "api/v1/jobs/".toList ++ beforeQuery cs :=
    List.takeWhile_append_of_pos (List.all_eq_true.1 (by decide))
  have hp : pieces .web ("api".toList ++ '/' :: ("v1".toList ++ '/' ::
      ("jobs".toList ++ '/' :: beforeQuery cs))) = directory ++ pieces .web (beforeQuery cs) := by
    rw [pieces_append_slash, pieces_append_slash, pieces_append_slash]
    rfl
  have hf (rest : List (List Char)) : follow [] (directory ++ rest) = follow directory rest := by
    rw [directory, List.cons_append, follow_cons (by decide) (by decide), List.cons_append,
      follow_cons (by decide) (by decide), List.cons_append,
      follow_cons (by decide) (by decide)]
    rfl
  show Path.segments (follow [] (pieces .web (beforeQuery (inDirectory cs)))) = _
  rw [hq]
  exact congrArg Path.segments ((congrArg (follow []) hp).trans (hf _))

theorem query_inDirectory (h : ∀ c ∈ cs, (c ≠ '?' && c ≠ '#') = true) :
    (below host port (inDirectory cs)).query = none := by
  have hd : ('/' :: inDirectory cs).dropWhile (fun c => c ≠ '?' && c ≠ '#') = [] := by
    refine List.dropWhile_eq_nil_iff.2 (List.forall_mem_cons.2 ⟨by decide, ?_⟩)
    exact List.forall_mem_append.2 ⟨List.all_eq_true.1 (by decide), h⟩
  simp only [below, addRest, hd]

/-- Segments in front of which the directory stands, as they stand in a target. -/
theorem toText_directory (segments : List (List Char)) :
    (Path.segments (directory ++ segments)).toText =
      "/api/v1/jobs".toList ++ segments.flatMap ('/' :: ·) :=
  List.flatMap_append

/-- What it takes that a place in the directory names a job. -/
theorem names_inDirectory_iff {jobId : String} (back : List (List Char))
    (hs : ∀ s ∈ back, '/' ∉ s) (hq : ∀ s ∈ back, '?' ∉ s) :
    Names (below host port (inDirectory cs)).target (back.flatMap ('/' :: ·)) jobId ↔
      (below host port (inDirectory cs)).query = none ∧
      ∃ segment, follow directory (pieces .web (beforeQuery cs)) = directory ++ segment :: back ∧
        '?' ∉ segment ∧ unescape segment = Bytes.ofText jobId := by
  have hdir : ∀ s ∈ directory, '/' ∉ s := by decide
  have hfollow : ∀ s ∈ follow directory (pieces .web (beforeQuery cs)), '/' ∉ s := by
    intro s hm
    rcases mem_drop_follow (n := 0) hm with hm | rfl | ⟨piece, hp, rfl⟩
    · exact hdir s hm
    · exact List.not_mem_nil
    · exact slash_notMem_escape (Text.notMem_of_mem_pieces hp)
  have htext (segment : List Char) : (Path.segments (directory ++ segment :: back)).toText =
      "/api/v1/jobs/".toList ++ segment ++ back.flatMap ('/' :: ·) := by
    rw [toText_directory, List.flatMap_cons, List.append_assoc]
    rfl
  have hback : '?' ∉ back.flatMap ('/' :: ·) := by
    intro hm
    obtain ⟨s, hb, hm⟩ := List.mem_flatMap.1 hm
    rcases List.mem_cons.1 hm with h | h
    · exact absurd h (by decide)
    · exact hq s hb h
  rw [target, path_inDirectory]
  constructor
  · rintro ⟨segment, ht, hslash, hmark, hu⟩
    cases hquery : (below host port (inDirectory cs)).query with
    | some q =>
      rw [hquery] at ht
      have hm : '?' ∈ "/api/v1/jobs/".toList ++ segment ++ back.flatMap ('/' :: ·) := by
        rw [← ht]
        exact List.mem_append_right _ List.mem_cons_self
      rw [List.append_assoc, List.mem_append, List.mem_append] at hm
      rcases hm with hm | hm | hm
      · exact absurd hm (by decide)
      · exact absurd hm hmark
      · exact absurd hm hback
    | none =>
      rw [hquery, List.append_nil] at ht
      refine ⟨rfl, segment, segments_eq_of_toText_eq hfollow ?_ (ht.trans (htext segment).symm),
        hmark, hu⟩
      exact List.forall_mem_append.2 ⟨hdir, List.forall_mem_cons.2 ⟨hslash, hs⟩⟩
  · rintro ⟨hquery, segment, hf, hmark, hu⟩
    rw [hquery, hf, List.append_nil]
    refine ⟨segment, htext segment, hfollow segment ?_, hmark, hu⟩
    rw [hf]
    exact List.mem_append_right _ List.mem_cons_self

/-! ## What becomes of a name -/

/-- A segment that means the name of a job comes from a piece that means it. -/
theorem exists_piece {jobId : String} {pieces back : List (List Char)} {segment : List Char}
    (hn : jobId.toList ≠ []) (hf : follow directory pieces = directory ++ segment :: back)
    (hu : unescape segment = Bytes.ofText jobId) :
    segment ≠ [] ∧ ∃ piece ∈ pieces, unescape piece = jobId.toList.flatMap String.utf8EncodeChar := by
  rw [Bytes.ofText_eq] at hu
  have hne : segment ≠ [] := by
    rintro rfl
    rw [unescape_nil, eq_comm, List.flatMap_eq_nil_iff] at hu
    obtain ⟨c, hc⟩ := List.exists_mem_of_ne_nil _ hn
    exact Text.Utf8.encode_ne_nil c (hu c hc)
  have hm : segment ∈ (follow directory pieces).drop directory.length := by
    rw [hf, List.drop_left]
    exact List.mem_cons_self
  rcases mem_drop_follow hm with hm | hm | ⟨piece, hp, rfl⟩
  · rw [List.drop_length] at hm
    cases hm
  · exact absurd hm hne
  · exact ⟨hne, piece, hp, (unescape_escape .path piece).symm.trans hu⟩

theorem beforeQuery_eq_self_iff :
    beforeQuery cs = cs ↔ ∀ c ∈ cs, (c ≠ '?' && c ≠ '#') = true :=
  List.takeWhile_eq_self_iff

/-- If a piece of the path means a text, the text has come through as one piece. -/
theorem keeps_of_piece {text kept piece : List Char} (hk : kept.Sublist text)
    (hp : piece ∈ pieces .web (beforeQuery kept))
    (hu : unescape piece = text.flatMap String.utf8EncodeChar) :
    kept = text ∧ beforeQuery text = text ∧ '/' ∉ text ∧ '\\' ∉ text ∧ hasEscape text = false := by
  have hq : (beforeQuery kept).Sublist kept := List.takeWhile_sublist _
  obtain ⟨hpart, -, hs, hb, he⟩ := eq_of_unescape_piece (hq.trans hk) hp hu
  have hkept : kept = text := hk.antisymm (hpart ▸ hq)
  rw [hkept] at hpart
  exact ⟨hkept, hpart, hs, hb, he⟩

/-- A name that comes through as a segment of its own is no dot segment. -/
theorem isDot_of_follow {segment : List Char} {back : List (List Char)} (hn : segment ≠ [])
    (hb : back = [] ∨ back = ["cancel".toList])
    (h : follow directory (cs :: back) = directory ++ segment :: back) :
    isDot cs = false ∧ isDoubleDot cs = false := by
  have hd : isDoubleDot cs = false := by
    cases hd : isDoubleDot cs with
    | false => rfl
    | true =>
      rw [follow, if_pos hd] at h
      have hl := congrArg List.length h
      rcases hb with rfl | rfl
      · exact absurd (show 3 = 4 from hl) (by decide)
      · exact absurd (show 3 = 5 from hl) (by decide)
  refine ⟨?_, hd⟩
  cases hs : isDot cs with
  | false => rfl
  | true =>
    rw [follow, hd, if_neg Bool.false_ne_true, if_pos hs] at h
    rcases hb with rfl | rfl
    · have h : directory ++ [[]] = directory ++ [segment] := h
      rw [List.append_right_inj] at h
      exact absurd (List.head_eq_of_cons_eq h).symm hn
    · exact absurd (show 4 = 5 from congrArg List.length h) (by decide)

theorem tidy_eq_self_iff :
    tidy cs = cs ↔ (∀ c ∈ cs, (c ≠ '\t' && c ≠ '\n' && c ≠ '\r') = true) ∧
      cs.getLast?.any isEdge = false := by
  constructor
  · intro h
    refine ⟨fun c hc => ?_, ?_⟩
    · rw [← h] at hc
      exact (List.mem_filter.1 hc).2
    · have hl : cs.reverse.length ≤ (cs.reverse.dropWhile isEdge).length := by
        have hr : (cs.reverse.dropWhile isEdge).reverse.length =
            (cs.reverse.dropWhile isEdge).length := List.length_reverse
        rw [List.length_reverse, ← hr]
        exact Nat.le_trans (Nat.le_of_eq (congrArg List.length h.symm)) List.filter_sublist.length_le
      have hd := Text.head_dropWhile isEdge cs.reverse
      rw [(List.dropWhile_sublist isEdge).eq_of_length_le hl, ← List.getLast?_eq_head?_reverse] at hd
      cases hg : cs.getLast? with
      | none => rfl
      | some c => exact hd c hg
  · rintro ⟨hk, hl⟩
    have hd : cs.reverse.dropWhile isEdge = cs.reverse := by
      rw [List.getLast?_eq_head?_reverse] at hl
      cases hr : cs.reverse with
      | nil => rfl
      | cons c more =>
        rw [hr] at hl
        exact List.dropWhile_cons_of_neg (by rw [show isEdge c = false from hl]; decide)
    rw [tidy, hd, List.reverse_reverse, List.filter_eq_self.2 hk]

theorem meansItself_iff {jobId : String} :
    meansItself jobId = true ↔
      (∀ c ∈ jobId.toList, (c ≠ '\t' && c ≠ '\n' && c ≠ '\r') = true) ∧
        beforeQuery jobId.toList = jobId.toList ∧ '/' ∉ jobId.toList ∧ '\\' ∉ jobId.toList ∧
        (isDot jobId.toList = false ∧ isDoubleDot jobId.toList = false) ∧
        hasEscape jobId.toList = false := by
  have hc (c : Char) : (!(['/', '\\', '?', '#', '\t', '\n', '\r'].contains c)) = true ↔
      (c ≠ '/' ∧ c ≠ '\\') ∧ (c ≠ '?' && c ≠ '#') = true ∧
        (c ≠ '\t' && c ≠ '\n' && c ≠ '\r') = true := by
    simp [and_assoc]
  have hall : jobId.toList.all
        (fun c => !(['/', '\\', '?', '#', '\t', '\n', '\r'].contains c)) = true ↔
      (∀ c ∈ jobId.toList, (c ≠ '\t' && c ≠ '\n' && c ≠ '\r') = true) ∧
        beforeQuery jobId.toList = jobId.toList ∧ '/' ∉ jobId.toList ∧ '\\' ∉ jobId.toList := by
    rw [beforeQuery_eq_self_iff, List.all_eq_true]
    simp only [hc]
    constructor
    · intro h
      exact ⟨fun c hm => (h c hm).2.2, fun c hm => (h c hm).2.1, fun hm => (h _ hm).1.1 rfl,
        fun hm => (h _ hm).1.2 rfl⟩
    · rintro ⟨ht, hq, hs, hb⟩ c hm
      exact ⟨⟨fun he => hs (he ▸ hm), fun he => hb (he ▸ hm)⟩, hq c hm, ht c hm⟩
  rw [meansItself, Bool.and_eq_true, Bool.and_eq_true, Bool.and_eq_true, hall, Bool.not_eq_eq_eq_not,
    Bool.not_true, Bool.not_eq_eq_eq_not, Bool.not_true, Bool.not_eq_eq_eq_not, Bool.not_true]
  simp only [and_assoc]

theorem names_status_iff {jobId : String} (hn : jobId.toList ≠ []) :
    Names (below host port (inDirectory (tidy jobId.toList))).target [] jobId ↔
      meansItselfAtEnd jobId = true := by
  rw [meansItselfAtEnd, Bool.and_eq_true, meansItself_iff, Bool.not_eq_eq_eq_not, Bool.not_true]
  refine (names_inDirectory_iff [] (by simp) (by simp)).trans ?_
  constructor
  · rintro ⟨-, segment, hf, -, hu⟩
    obtain ⟨hne, piece, hp, hu⟩ := exists_piece hn hf hu
    obtain ⟨hkept, hq, hs, hb, he⟩ := keeps_of_piece (tidy_sublist _) hp hu
    rw [hkept, hq, pieces_of_notMem hs hb] at hf
    obtain ⟨ht, hl⟩ := tidy_eq_self_iff.1 hkept
    exact ⟨⟨ht, hq, hs, hb, isDot_of_follow hne (.inl rfl) hf, he⟩, hl⟩
  · rintro ⟨⟨ht, hq, hs, hb, ⟨hd, hdd⟩, he⟩, hl⟩
    rw [tidy_eq_self_iff.2 ⟨ht, hl⟩]
    refine ⟨query_inDirectory (beforeQuery_eq_self_iff.1 hq), escape .path jobId.toList, ?_, ?_, ?_⟩
    · rw [hq, pieces_of_notMem hs hb, follow_cons hdd hd]
      rfl
    · exact fun hm => (Uri.ne_of_isPathChar (isPathChar_of_mem_escape hm)).1 rfl
    · rw [unescape_escape, unescape_of_plain he, Bytes.ofText_eq]

/-- The pieces of a path behind which `cancel` stands. -/
theorem mem_pieces_cancel {piece : List Char}
    (h : piece ∈ pieces .web (beforeQuery (cs ++ "/cancel".toList))) :
    piece ∈ pieces .web (beforeQuery cs) ∨ piece = "cancel".toList := by
  rw [beforeQuery, List.takeWhile_append] at h
  split at h
  · next hl =>
    have hcs : beforeQuery cs = cs := (List.takeWhile_prefix _).eq_of_length hl
    have hp : piece ∈ pieces .web (cs ++ '/' :: "cancel".toList) := h
    rw [pieces_append_slash, List.mem_append] at hp
    rw [hcs]
    exact hp.imp_right List.mem_singleton.1
  · exact .inl h

theorem beforeQuery_cancel (h : beforeQuery cs = cs) :
    beforeQuery (cs ++ "/cancel".toList) = cs ++ "/cancel".toList :=
  beforeQuery_eq_self_iff.2
    (List.forall_mem_append.2 ⟨beforeQuery_eq_self_iff.1 h, List.all_eq_true.1 (by decide)⟩)

theorem pieces_cancel (hs : '/' ∉ cs) (hb : '\\' ∉ cs) :
    pieces .web (cs ++ "/cancel".toList) = [cs, "cancel".toList] := by
  show pieces .web (cs ++ '/' :: "cancel".toList) = _
  rw [pieces_append_slash, pieces_of_notMem hs hb]
  rfl

theorem names_cancel_iff {jobId : String} (hn : jobId.toList ≠ []) :
    Names (below host port (inDirectory (tidy (jobId.toList ++ "/cancel".toList)))).target
      "/cancel".toList jobId ↔ meansItself jobId = true := by
  rw [tidy_append_end (by decide) (by decide), meansItself_iff]
  refine (names_inDirectory_iff ["cancel".toList] (by decide) (by decide)).trans ?_
  constructor
  · rintro ⟨-, segment, hf, -, hu⟩
    obtain ⟨hne, piece, hp, hu⟩ := exists_piece hn hf hu
    rcases mem_pieces_cancel hp with hp | rfl
    · obtain ⟨hkept, hq, hs, hb, he⟩ := keeps_of_piece List.filter_sublist hp hu
      rw [hkept, beforeQuery_cancel hq, pieces_cancel hs hb] at hf
      exact ⟨List.filter_eq_self.1 hkept, hq, hs, hb, isDot_of_follow hne (.inr rfl) hf, he⟩
    · -- The piece behind the name means the name: the job is called like what is done to it.
      rw [unescape_of_plain (by decide), ← Bytes.ofText_eq, ← Bytes.ofText_eq] at hu
      obtain rfl := ofText_injective hu
      exact meansItself_iff.1 (by decide)
  · rintro ⟨ht, hq, hs, hb, ⟨hd, hdd⟩, he⟩
    rw [List.filter_eq_self.2 ht]
    refine ⟨query_inDirectory (beforeQuery_eq_self_iff.1 (beforeQuery_cancel hq)),
      escape .path jobId.toList, ?_, ?_, ?_⟩
    · rw [beforeQuery_cancel hq, pieces_cancel hs hb, follow_cons hdd hd,
        follow_cons (by decide) (by decide)]
      rfl
    · exact fun hm => (Uri.ne_of_isPathChar (isPathChar_of_mem_escape hm)).1 rfl
    · rw [unescape_escape, unescape_of_plain he, Bytes.ofText_eq]

/-! ## Calls -/

/-- What comes of a call for an address: a request, unless the address is too long for one. -/
def Sends {α : Type} (call : Except Failure (Exchange α)) (method : Method) (url : Url) : Prop :=
  if url.toText.utf8ByteSize ≤ Uri.maxLength then
    ∃ x, call = .ok x ∧ x.request = { method := method, url := url }
  else call = .error ⟨.network, s!"builder error for url ({url.toText})"⟩

theorem sends_map {α : Type} {request : Except Failure Request} {method : Method} {url : Url}
    (h : request = if url.toText.utf8ByteSize ≤ Uri.maxLength then
        .ok { method := method, url := url }
      else .error ⟨.network, s!"builder error for url ({url.toText})"⟩)
    (read : Response → Except Failure α) :
    Sends (request.map fun request => { request := request, read := read }) method url := by
  rw [Sends, h]
  split
  · exact ⟨_, rfl, rfl⟩
  · rfl

theorem Checked.cancelJob_of_not_blank (c : Client) {jobId : String}
    (hb : Text.isBlankText jobId = false) : Checked.cancelJob c jobId = c.cancelJob jobId := by
  unfold Checked.cancelJob Checked.refuseBlank
  rw [hb]
  rfl

theorem toList_ne_nil_of_not_blank {s : String} (h : Text.isBlankText s = false) :
    s.toList ≠ [] := by
  intro hs
  rw [Text.isBlankText, hs] at h
  cases h

theorem tidy_directory (rest : String) :
    tidy ("api/v1/jobs/" ++ rest).toList = inDirectory (tidy rest.toList) := by
  rw [String.toList_append]
  exact tidy_append (by decide) _

theorem directory_append (base rest : String) :
    base ++ "/api/v1" ++ ("/jobs/" ++ rest) = base ++ "/" ++ ("api/v1/jobs/" ++ rest) := by
  rw [← String.toList_inj]
  simp only [String.toList_append, List.append_assoc]
  rfl

/-- The calls on a job at a plain origin are requests for addresses in the directory of jobs. -/
theorem exists_addresses {c : Client} (ho : PlainOrigin c.baseUrl) :
    ∃ host port, ∀ jobId, Text.isBlankText jobId = false →
      Sends (Checked.jobStatus c jobId) .get
        (below host port (inDirectory (tidy jobId.toList))) ∧
      Sends (Checked.cancelJob c jobId) .post
        (below host port (inDirectory (tidy (jobId.toList ++ "/cancel".toList)))) := by
  obtain ⟨host, port, hr⟩ := ho.exists_request
  have place (method : Method) (rest : String) := hr method ("api/v1/jobs/" ++ rest) none
  simp only [tidy_directory] at place
  refine ⟨host, port, fun jobId hb => ?_⟩
  rw [Checked.jobStatus_of_not_blank c hb, Checked.cancelJob_of_not_blank c hb]
  refine ⟨sends_map ?_ _, sends_map ?_ _⟩
  · rw [← place .get jobId, ← directory_append]
    rfl
  · have h := place .post (jobId ++ "/cancel")
    rw [String.toList_append, ← directory_append] at h
    rw [← h]
    exact congrArg (fun path => Http.request .post (c.baseUrl ++ "/api/v1" ++ path) none)
      String.append_assoc

/-- Which job a call on a job at a plain origin is about. For every name that is not blank a request
is sent, unless its address is too long. The request for the status goes to the directory of jobs
and one segment that means the name, with nothing behind it, just when the name means itself and
does not end with a control or a blank; the request to cancel the job goes there, with `cancel`
behind it, just when the name means itself. Two names of which this holds never make the same
request. -/
theorem addresses_job_iff {c : Client} (ho : PlainOrigin c.baseUrl) :
    ∃ status cancel : String → Url, ∀ jobId, Text.isBlankText jobId = false →
      Sends (Checked.jobStatus c jobId) .get (status jobId) ∧
      Sends (Checked.cancelJob c jobId) .post (cancel jobId) ∧
      (Names (status jobId).target [] jobId ↔ meansItselfAtEnd jobId = true) ∧
      (Names (cancel jobId).target "/cancel".toList jobId ↔ meansItself jobId = true) ∧
      ∀ other, Text.isBlankText other = false →
        (meansItselfAtEnd jobId = true → meansItselfAtEnd other = true →
          status jobId = status other → jobId = other) ∧
        (meansItself jobId = true → meansItself other = true →
          cancel jobId = cancel other → jobId = other) := by
  obtain ⟨host, port, hsends⟩ := exists_addresses ho
  refine ⟨fun jobId => below host port (inDirectory (tidy jobId.toList)),
    fun jobId => below host port (inDirectory (tidy (jobId.toList ++ "/cancel".toList))),
    fun jobId hb => ?_⟩
  have hn := toList_ne_nil_of_not_blank hb
  refine ⟨(hsends jobId hb).1, (hsends jobId hb).2, names_status_iff hn, names_cancel_iff hn,
    fun other hb' => ⟨fun hm hm' he => ?_, fun hm hm' he => ?_⟩⟩
  · have hn' := toList_ne_nil_of_not_blank hb'
    have h : Names (below host port _).target _ jobId := (names_status_iff hn).2 hm
    rw [show below host port _ = below host port _ from he] at h
    exact h.unique ((names_status_iff hn').2 hm')
  · have hn' := toList_ne_nil_of_not_blank hb'
    have h : Names (below host port _).target _ jobId := (names_cancel_iff hn).2 hm
    rw [show below host port _ = below host port _ from he] at h
    exact h.unique ((names_cancel_iff hn').2 hm')

theorem plainOrigin_loopback : PlainOrigin loopback.baseUrl where
  out := ⟨"[::1]:8000".toList, by decide +kernel, by decide, List.all_eq_true.1 (by decide)⟩
  asked := exists_of_isOk (by decide +kernel)

/-- Blanks, percent signs and letters beyond ASCII do no harm; a question mark does. -/
theorem addresses_job_iff_percent :
    PlainOrigin loopback.baseUrl ∧ ∃ status cancel : String → Url,
      Sends (Checked.jobStatus loopback "näch%st \"%5\"") .get (status "näch%st \"%5\"") ∧
      Names (status "näch%st \"%5\"").target [] "näch%st \"%5\"" ∧
      Names (cancel "näch%st \"%5\"").target "/cancel".toList "näch%st \"%5\"" ∧
      ¬ Names (status "next?").target [] "next?" := by
  obtain ⟨status, cancel, h⟩ := addresses_job_iff plainOrigin_loopback
  obtain ⟨hs, -, hn, hc, -⟩ := h "näch%st \"%5\"" (by decide +kernel)
  obtain ⟨-, -, hn', -, -⟩ := h "next?" (by decide +kernel)
  refine ⟨plainOrigin_loopback, status, cancel, hs, hn.2 (by decide +kernel), hc.2 (by decide +kernel),
    fun hf => ?_⟩
  exact absurd (hn'.1 hf) (by decide +kernel)

/-- The names of two jobs for which the same is asked: the segment above a dot segment vanishes. -/
theorem same_requests_above :
    PlainOrigin loopback.baseUrl ∧ Text.isBlankText "a/../b" = false ∧
      Text.isBlankText "b" = false ∧
      ∃ x y u v, Checked.jobStatus loopback "a/../b" = .ok x ∧ Checked.jobStatus loopback "b" = .ok y ∧
        Checked.cancelJob loopback "a/../b" = .ok u ∧ Checked.cancelJob loopback "b" = .ok v ∧
        x.request = y.request ∧ u.request = v.request := by
  have hs : (Checked.jobStatus loopback "a/../b").toOption.map Exchange.request =
      (Checked.jobStatus loopback "b").toOption.map Exchange.request := by decide +kernel
  have hc : (Checked.cancelJob loopback "a/../b").toOption.map Exchange.request =
      (Checked.cancelJob loopback "b").toOption.map Exchange.request := by decide +kernel
  obtain ⟨x, hx⟩ := exists_of_isOk (r := Checked.jobStatus loopback "a/../b") (by decide +kernel)
  obtain ⟨y, hy⟩ := exists_of_isOk (r := Checked.jobStatus loopback "b") (by decide +kernel)
  obtain ⟨u, hu⟩ := exists_of_isOk (r := Checked.cancelJob loopback "a/../b") (by decide +kernel)
  obtain ⟨v, hv⟩ := exists_of_isOk (r := Checked.cancelJob loopback "b") (by decide +kernel)
  rw [hx, hy] at hs
  rw [hu, hv] at hc
  exact ⟨plainOrigin_loopback, by decide, by decide, x, y, u, v, hx, hy, hu, hv,
    Option.some.inj hs, Option.some.inj hc⟩

end BackendMonitor.Client
