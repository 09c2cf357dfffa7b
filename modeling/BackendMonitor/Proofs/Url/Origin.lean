import BackendMonitor.Http
import BackendMonitor.Proofs.Uri
import BackendMonitor.Proofs.Url.Path

/-!
# Plain origins

A plain origin names a host and at most a port. What is put behind it is read as a path with a
query and a fragment; the host stays what it is, and nothing but its length keeps an address behind
such an origin from being asked (`exists_root`).
-/

namespace BackendMonitor.Url

/-! ## Characters that count -/

/-- What counts of the end of an address. -/
def tidy (cs : List Char) : List Char :=
  (cs.reverse.dropWhile isEdge).reverse.filter fun c => c ≠ '\t' && c ≠ '\n' && c ≠ '\r'

theorem counts_of_not_isEdge {c : Char} (h : isEdge c = false) :
    (c ≠ '\t' && c ≠ '\n' && c ≠ '\r') = true := by
  rw [isEdge, decide_eq_false_iff_not] at h
  have hne {d : Char} (hd : d.toNat ≤ 0x20) : c ≠ d := fun he => h (he ▸ hd)
  simp [hne (d := '\t') (by decide), hne (d := '\n') (by decide), hne (d := '\r') (by decide)]

theorem dropWhile_of_forall {α : Type} {p : α → Bool} {l : List α} (h : ∀ a ∈ l, p a = false) :
    l.dropWhile p = l := by
  cases l with
  | nil => rfl
  | cons a l => exact List.dropWhile_cons_of_neg (by rw [h a List.mem_cons_self]; decide)

/-- Nothing is lost in front of what counts. -/
theorem tidy_append {front : List Char} (h : front.any isEdge = false) (cs : List Char) :
    tidy (front ++ cs) = front ++ tidy cs := by
  have hf (c : Char) (hc : c ∈ front) : isEdge c = false :=
    Bool.eq_false_iff.2 (List.any_eq_false.1 h c hc)
  have hr : front.reverse.dropWhile isEdge = front.reverse :=
    dropWhile_of_forall fun c hc => hf c (List.mem_reverse.1 hc)
  have hk : (front.filter fun c => c ≠ '\t' && c ≠ '\n' && c ≠ '\r') = front :=
    List.filter_eq_self.2 fun c hc => counts_of_not_isEdge (hf c hc)
  rw [tidy, List.reverse_append, List.dropWhile_append]
  split
  · next he =>
    rw [tidy, List.isEmpty_iff.1 he, hr, List.reverse_reverse, hk, List.reverse_nil,
      List.filter_nil, List.append_nil]
  · rw [List.reverse_append, List.reverse_reverse, List.filter_append, hk, tidy]

/-- In front of an end that counts only tabs and line ends are lost. -/
theorem tidy_append_end {back : List Char} (hn : back ≠ []) (h : back.any isEdge = false)
    (cs : List Char) :
    tidy (cs ++ back) = (cs.filter fun c => c ≠ '\t' && c ≠ '\n' && c ≠ '\r') ++ back := by
  have hb (c : Char) (hc : c ∈ back) : isEdge c = false :=
    Bool.eq_false_iff.2 (List.any_eq_false.1 h c hc)
  have hr : (cs ++ back).reverse.dropWhile isEdge = (cs ++ back).reverse := by
    rw [List.reverse_append]
    cases hd : back.reverse with
    | nil => exact absurd (List.reverse_eq_nil_iff.1 hd) hn
    | cons c more =>
      refine List.dropWhile_cons_of_neg ?_
      rw [hb c (List.mem_reverse.1 (hd ▸ List.mem_cons_self))]
      decide
  rw [tidy, hr, List.reverse_reverse, List.filter_append,
    List.filter_eq_self.2 fun c hc => counts_of_not_isEdge (hb c hc)]

theorem tidy_sublist (cs : List Char) : (tidy cs).Sublist cs := by
  have h := (List.dropWhile_sublist (l := cs.reverse) isEdge).reverse
  rw [List.reverse_reverse] at h
  exact List.filter_sublist.trans h

theorem essential_cons {c : Char} (h : isEdge c = false) (cs : List Char) :
    essential (c :: cs) = tidy (c :: cs) := by
  rw [essential, List.dropWhile_cons_of_neg (by rw [h]; decide), tidy]

/-! ## Authorities -/

/-- Whether a character may stand in a plain origin. -/
def isPlain (c : Char) : Bool :=
  !isEdge c && !Kind.web.endsAuthority c && c ≠ '@'

theorem cutAtLast?_of_notMem {separator : Char} {cs : List Char} (h : separator ∉ cs) :
    Text.cutAtLast? separator cs = none := by
  cases hc : Text.cutAtLast? separator cs with
  | none => rfl
  | some p =>
    rw [Text.eq_append_of_cutAtLast? hc] at h
    exact absurd (List.mem_append_right _ List.mem_cons_self) h

theorem mem_of_mem_cutAtPort {c : Char} {inside : Bool} {cs : List Char}
    (h : c ∈ (cutAtPort inside cs).2) : c ∈ cs := by
  induction cs generalizing inside with
  | nil => exact h
  | cons d cs ih =>
    rw [cutAtPort] at h
    split at h
    · exact h
    · exact List.mem_cons_of_mem _ (ih h)

/-- Only a backslash parts a port from what follows. -/
theorem rest_of_port? {cs rest : List Char} {port : Option Nat} (hb : '\\' ∉ cs)
    (h : port? cs = some (port, rest)) : rest = [] := by
  unfold port? at h
  split at h
  · cases h
    rfl
  · next ds =>
    simp only at h
    cases hd : ds.dropWhile Char.isDigit with
    | nil =>
      rw [hd] at h
      split at h
      · cases h
      · split at h
        · cases h
          rfl
        · obtain ⟨n, -, he⟩ := Option.map_eq_some_iff.1 h
          cases he
          rfl
    | cons c more =>
      have hc : c ∈ ds := (List.dropWhile_sublist _).subset (hd ▸ List.mem_cons_self)
      have hne : c ≠ '\\' := fun he => hb (List.mem_cons_of_mem _ (he ▸ hc))
      rw [hd, if_pos (by simpa using hne)] at h
      cases h
  · cases h

theorem takeWhile_of_plain {authority after : List Char} (ha : ∀ c ∈ authority, isPlain c = true)
    (hf : after = [] ∨ ∃ more, after = '/' :: more) :
    ((authority ++ after).takeWhile fun c => !Kind.web.endsAuthority c) = authority ∧
      ((authority ++ after).dropWhile fun c => !Kind.web.endsAuthority c) = after := by
  have hp : ∀ c ∈ authority, (!Kind.web.endsAuthority c) = true := fun c hc =>
    (Bool.and_eq_true_iff.1 (Bool.and_eq_true_iff.1 (ha c hc)).1).2
  rw [List.takeWhile_append_of_pos hp, List.dropWhile_append_of_pos hp]
  rcases hf with rfl | ⟨more, rfl⟩
  · exact ⟨List.append_nil authority, rfl⟩
  · rw [List.takeWhile_cons_of_neg (by decide), List.dropWhile_cons_of_neg (by decide)]
    exact ⟨List.append_nil authority, rfl⟩

/-- How a plain origin is read, with what stands behind it. -/
theorem withHost?_of_plain {scheme : String} {authority after : List Char}
    (ha : ∀ c ∈ authority, isPlain c = true) (hf : after = [] ∨ ∃ more, after = '/' :: more) :
    withHost? .web scheme (authority ++ after) =
      (Host.ofText? (cutAtPort false authority).1).bind fun host =>
        if (cutAtPort false authority).1.isEmpty && !(cutAtPort false authority).2.isEmpty then none
        else
          (port? (cutAtPort false authority).2).map fun p =>
            addRest .web after
              { scheme := scheme
                host := some host
                port := p.1.filter fun n => webSchemes.lookup scheme != some n
                path := pathOf .web (beforeQuery after) } := by
  obtain ⟨ht, hd⟩ := takeWhile_of_plain ha hf
  have hc : Text.cutAtLast? '@' authority = none := cutAtLast?_of_notMem fun hm => by
    have := ha _ hm
    contradiction
  have hb : '\\' ∉ (cutAtPort false authority).2 := fun hm => by
    have := ha _ (mem_of_mem_cutAtPort hm)
    contradiction
  unfold withHost?
  simp only [ht, hd, hc, Option.any_none, Bool.or_false, reduceCtorEq, decide_false, Bool.and_false,
    Bool.false_and, Bool.false_eq_true, if_false]
  refine Option.bind_congr fun host _ => ?_
  split
  · rfl
  · cases hp : port? (cutAtPort false authority).2 with
    | none => rfl
    | some p =>
      obtain ⟨port, rest⟩ := p
      cases rest_of_port? hb hp
      rfl

/-- The host and the port of a plain origin stay, whatever stands behind it. -/
theorem exists_host {scheme : String} {authority : List Char} {u : Url}
    (ha : ∀ c ∈ authority, isPlain c = true) (h : withHost? .web scheme authority = some u) :
    ∃ host port, ∀ after, (after = [] ∨ ∃ more, after = '/' :: more) →
      withHost? .web scheme (authority ++ after) = some (addRest .web after
        { scheme := scheme, host := some host, port := port
          path := pathOf .web (beforeQuery after) }) := by
  rw [← List.append_nil authority, withHost?_of_plain ha (.inl rfl),
    Option.bind_eq_some_iff] at h
  obtain ⟨host, hh, h⟩ := h
  split at h
  · cases h
  · next hn =>
    obtain ⟨p, hp, -⟩ := Option.map_eq_some_iff.1 h
    refine ⟨host, p.1.filter fun n => webSchemes.lookup scheme != some n, fun after hf => ?_⟩
    rw [withHost?_of_plain ha hf, hh, Option.bind_some, if_neg hn, hp, Option.map_some]

/-! ## Addresses behind an origin -/

theorem scheme?_http (rest : List Char) :
    scheme? ('h' :: 't' :: 't' :: 'p' :: ':' :: rest) = some ("http", rest) := rfl

theorem ofText?_webText {authority : List Char} (ha : ∀ c ∈ authority, isPlain c = true)
    (hn : authority ≠ []) (after : List Char) :
    ofText? (Uri.webText (authority ++ after)) = withHost? .web "http" (authority ++ tidy after) := by
  have hf : (['h', 't', 't', 'p', ':', '/', '/'] ++ authority).any isEdge = false := by
    have hw : ['h', 't', 't', 'p', ':', '/', '/'].any isEdge = false := by decide
    rw [List.any_append, hw, Bool.false_or]
    refine List.any_eq_false.2 fun c hc he => ?_
    have := (Bool.and_eq_true_iff.1 (Bool.and_eq_true_iff.1 (ha c hc)).1).1
    rw [he] at this
    cases this
  have he : essential (Uri.webText (authority ++ after)).toList =
      'h' :: 't' :: 't' :: 'p' :: ':' :: '/' :: '/' :: (authority ++ tidy after) := by
    rw [Uri.webText, String.toList_ofList, essential_cons (by decide)]
    exact tidy_append hf after
  have hs : (authority ++ tidy after).dropWhile Kind.web.isSlash = authority ++ tidy after := by
    cases authority with
    | nil => exact absurd rfl hn
    | cons c more =>
      have := (Bool.and_eq_true_iff.1 (Bool.and_eq_true_iff.1 (ha c List.mem_cons_self)).1).2
      rw [Kind.endsAuthority, Bool.not_eq_eq_eq_not, Bool.not_true, Bool.or_eq_false_iff,
        Bool.or_eq_false_iff] at this
      exact List.dropWhile_cons_of_neg (by rw [this.1.1]; decide)
  rw [ofText?, he, scheme?_http]
  show withHost? .web "http" ((authority ++ tidy after).dropWhile Kind.web.isSlash) = _
  rw [hs]

/-- The address at a place below the root of an origin. -/
def below (host : Host) (port : Option Nat) (place : List Char) : Url :=
  addRest .web ('/' :: place)
    { scheme := "http"
      host := some host
      port := port
      path := .segments (follow [] (pieces .web (beforeQuery place))) }

/-- A host and a port as they stand in an address. -/
def hostPort (host : Host) (port : Option Nat) : List Char :=
  host.toText ++
    (match port with
    | some n => ':' :: Nat.toDigits 10 n
    | none => [])

theorem follow_ne_nil (above : List (List Char)) {segments : List (List Char)}
    (h : segments ≠ []) : follow above segments ≠ [] := by
  induction segments generalizing above with
  | nil => exact absurd rfl h
  | cons s rest ih =>
    rw [follow]
    cases rest with
    | nil =>
      simp only [follow]
      split
      · simp
      · split <;> simp
    | cons next rest =>
      have ih := fun above => ih above (List.cons_ne_nil next rest)
      split
      · exact ih _
      · split <;> exact ih _

theorem toText_of_host {u : Url} {host : Host} (hs : u.scheme = "http") (hh : u.host = some host) :
    u.toText = Uri.webText (hostPort host u.port ++ (u.target ++
      (match u.fragment with
      | some f => '#' :: f
      | none => []))) := by
  rw [← String.toList_inj, toText, authorityText, hs, hh, Uri.webText, String.toList_append]
  simp only [hostPort, String.toList_ofList, List.append_assoc, List.cons_append]
  rfl

theorem query_below (host : Host) (port : Option Nat) (place : List Char) :
    (below host port place).query = none ∨
      ∃ q, (below host port place).query = some (escape .webQuery q) := by
  simp only [below, addRest]
  split
  · exact .inr ⟨_, rfl⟩
  · exact .inl rfl

/-- What an address below a root consists of can be written into a request. -/
theorem exists_toText_below (host : Host) (port : Option Nat) (place : List Char) :
    ∃ path query fragment, Uri.Continues path query fragment ∧
      (below host port place).toText =
        Uri.webText (hostPort host port ++ '/' :: (path ++ (query ++ fragment))) := by
  obtain ⟨s, more, hs⟩ : ∃ s more, follow [] (pieces .web (beforeQuery place)) = s :: more :=
    List.exists_cons_of_ne_nil (follow_ne_nil [] (Text.pieces_ne_nil _ _))
  have hsegment {r : List Char} (hr : r ∈ s :: more) {c : Char} (hc : c ∈ r) :
      ∃ p, c ∈ escape .path p := by
    rw [← hs] at hr
    rcases mem_drop_follow (n := 0) hr with hr | rfl | ⟨p, -, rfl⟩
    · cases hr
    · cases hc
    · exact ⟨p, hc⟩
  have hpath {c : Char} (hc : c ∈ s ++ more.flatMap ('/' :: ·)) :
      c = '/' ∨ ∃ p, c ∈ escape .path p := by
    rcases List.mem_append.1 hc with hc | hc
    · exact .inr (hsegment List.mem_cons_self hc)
    · obtain ⟨r, hr, hc⟩ := List.mem_flatMap.1 hc
      exact (List.mem_cons.1 hc).imp_right (hsegment (List.mem_cons_of_mem _ hr))
  refine ⟨s ++ more.flatMap ('/' :: ·), (match (below host port place).query with
    | some q => '?' :: q
    | none => []), (match (below host port place).fragment with
    | some f => '#' :: f
    | none => []), ⟨fun c hc => ?_, fun c hc => ?_, ?_, ?_⟩, ?_⟩
  · rcases hpath hc with rfl | ⟨p, hp⟩
    · decide
    · exact isPathChar_of_mem_escape hp
  · rcases hpath hc with rfl | ⟨p, hp⟩
    · decide
    · exact forall_mem_escape p (by decide) c hp
  · rcases query_below host port place with hq | ⟨q, hq⟩
    · exact .inl (by rw [hq])
    · rw [hq]
      exact .inr ⟨_, rfl, fun c => isQueryChar_of_mem_escape⟩
  · split
    · exact .inr ⟨_, rfl⟩
    · exact .inl rfl
  · have hp : (below host port place).path = .segments (s :: more) := congrArg Path.segments hs
    rw [toText_of_host (u := below host port place) rfl rfl, target, hp, Path.toText,
      List.flatMap_cons]
    simp only [List.append_assoc, List.cons_append]
    rfl

/-- A text is a plain origin: it names a host and at most a port, and can be asked. -/
structure PlainOrigin (origin : String) : Prop where
  out : ∃ authority, origin = Uri.webText authority ∧ authority ≠ [] ∧
    ∀ c ∈ authority, isPlain c = true
  asked : ∃ r, Http.request .get origin none = .ok r

theorem ofText?_behind {authority : List Char} {host : Host} {port : Option Nat}
    (ha : ∀ c ∈ authority, isPlain c = true) (hn : authority ≠ [])
    (hw : ∀ after, (after = [] ∨ ∃ more, after = '/' :: more) →
      withHost? .web "http" (authority ++ after) = some (addRest .web after
        { scheme := "http", host := some host, port := port
          path := pathOf .web (beforeQuery after) })) (place : String) :
    ofText? (Uri.webText authority ++ "/" ++ place) =
      some (below host port (tidy place.toList)) := by
  have ht : Uri.webText authority ++ "/" ++ place =
      Uri.webText (authority ++ '/' :: place.toList) := by
    rw [← String.toList_inj, String.toList_append, String.toList_append]
    simp [Uri.webText]
  have hs : tidy (['/'] ++ place.toList) = ['/'] ++ tidy place.toList :=
    tidy_append (by decide) place.toList
  rw [List.cons_append, List.cons_append, List.nil_append, List.nil_append] at hs
  rw [ht, ofText?_webText ha hn, hs, hw _ (.inr ⟨_, rfl⟩)]
  rfl

/-- Every text behind a plain origin is the address of a place below its root, which can be asked
for unless it is too long. -/
theorem PlainOrigin.exists_request {origin : String} (h : PlainOrigin origin) :
    ∃ host port, ∀ (method : Http.Method) (place : String) (body : Option String),
      let url := below host port (tidy place.toList)
      Http.request method (origin ++ "/" ++ place) body =
        if url.toText.utf8ByteSize ≤ Uri.maxLength then
          .ok { method := method, url := url, body := body }
        else .error ⟨.network, s!"builder error for url ({url.toText})"⟩ := by
  obtain ⟨authority, rfl, hn, ha⟩ := h.out
  obtain ⟨r, hr⟩ := h.asked
  unfold Http.request at hr
  split at hr
  · cases hr
  · next u hu =>
    split at hr
    · next hok =>
      have ht := ofText?_webText ha hn []
      rw [List.append_nil, hu, show tidy [] = [] from rfl, List.append_nil] at ht
      obtain ⟨host, port, hw⟩ := exists_host ha ht.symm
      have hroot := hw [] (.inl rfl)
      rw [List.append_nil, ← ht, Option.some.injEq] at hroot
      have htext : u.toText = Uri.webText (hostPort host port ++ ['/']) := by
        rw [hroot]
        exact toText_of_host rfl rfl
      rw [htext, Bool.and_eq_true] at hok
      refine ⟨host, port, fun method place body => ?_⟩
      obtain ⟨path, query, fragment, hc, htext⟩ := exists_toText_below host port (tidy place.toList)
      have hiff := Uri.isOk_ofText_webText hok.2 hc
      rw [← htext] at hiff
      have hhttp : (below host port (tidy place.toList)).isHttp = true := rfl
      simp only [Http.request, ofText?_behind ha hn hw, hhttp, Bool.true_and, hiff]
    · cases hr

end BackendMonitor.Url
