import BackendMonitor.Uri
import Mathlib.Data.List.TakeWhile

/-!
# Identifiers of the web

When an identifier of the web is read. It has to be short, and what stands before its path has to
be right; then every path of characters that may stand in one can take the place of the root
(`isOk_ofText_web`).
-/

namespace BackendMonitor.Uri

theorem ne_of_isPathChar {c : Char} (h : isPathChar c = true) : c ≠ '?' ∧ c ≠ '#' := by
  refine ⟨fun he => ?_, fun he => ?_⟩
  · rw [he] at h
    cases h
  · rw [he] at h
    cases h

theorem ne_of_isQueryChar {c : Char} (h : isQueryChar c = true) : c ≠ '#' := by
  intro he
  rw [he] at h
  cases h

/-! ## Targets -/

theorem isOk_targetOf (cs : List Char) :
    (targetOf cs).isOk = (((cs.takeWhile (· ≠ '#')).takeWhile (· ≠ '?')).all isPathChar &&
      (((cs.takeWhile (· ≠ '#')).dropWhile (· ≠ '?')).drop 1).all isQueryChar) := by
  rw [targetOf]
  split
  · next h => exact h.symm
  · next h => exact (Bool.eq_false_iff.2 h).symm

/-- What may stand behind the start of a target: the rest of a path, a query and a fragment. -/
structure Continues (path query fragment : List Char) : Prop where
  inPath : ∀ c ∈ path, isPathChar c = true
  /-- The start may end in a query, of which the path is a part then. -/
  inQuery : ∀ c ∈ path, isQueryChar c = true
  ofQuery : query = [] ∨ ∃ q, query = '?' :: q ∧ ∀ c ∈ q, isQueryChar c = true
  ofFragment : fragment = [] ∨ ∃ f, fragment = '#' :: f

theorem isOk_targetOf_append {front path query fragment : List Char}
    (hf : (targetOf front).isOk = true) (h : Continues path query fragment) :
    (targetOf (front ++ (path ++ (query ++ fragment)))).isOk = true := by
  have hq : ∀ c ∈ query, isQueryChar c = true := by
    rcases h.ofQuery with rfl | ⟨q, rfl, hq⟩
    · exact fun c hc => by cases hc
    · exact List.forall_mem_cons.2 ⟨by decide, hq⟩
  -- What counts of the rest are its path and its query.
  have hcut : (path ++ (query ++ fragment)).takeWhile (· ≠ '#') = path ++ query := by
    rw [List.takeWhile_append_of_pos fun c hc => by simpa using (ne_of_isPathChar (h.inPath c hc)).2,
      List.takeWhile_append_of_pos fun c hc => by simpa using ne_of_isQueryChar (hq c hc)]
    rcases h.ofFragment with rfl | ⟨f, rfl⟩
    · rw [List.takeWhile_nil, List.append_nil]
    · rw [List.takeWhile_cons_of_neg (by decide), List.append_nil]
  rw [isOk_targetOf] at hf ⊢
  rw [List.takeWhile_append, hcut]
  split
  · next hl =>
    rw [(List.takeWhile_prefix _).eq_of_length hl] at hf
    obtain ⟨hfp, hfq⟩ := Bool.and_eq_true_iff.1 hf
    by_cases hm : '?' ∈ front
    · obtain ⟨before, behind, rfl, hb⟩ := List.eq_append_cons_of_mem hm
      have hpos : ∀ c ∈ before, (decide (c ≠ '?')) = true := fun c hc =>
        decide_eq_true fun he => hb (he ▸ hc)
      rw [List.takeWhile_append_of_pos hpos, List.takeWhile_cons_of_neg (by decide)] at hfp
      rw [List.dropWhile_append_of_pos hpos, List.dropWhile_cons_of_neg (by decide)] at hfq
      rw [List.append_assoc, List.takeWhile_append_of_pos hpos, List.cons_append,
        List.takeWhile_cons_of_neg (by decide), List.dropWhile_append_of_pos hpos,
        List.dropWhile_cons_of_neg (by decide), Bool.and_eq_true]
      refine ⟨hfp, ?_⟩
      rw [List.drop_succ_cons, List.drop_zero] at hfq ⊢
      rw [List.all_append, List.all_append, hfq, Bool.true_and, Bool.and_eq_true,
        List.all_eq_true, List.all_eq_true]
      exact ⟨h.inQuery, hq⟩
    · have hpos : ∀ c ∈ front, (decide (c ≠ '?')) = true := fun c hc =>
        decide_eq_true fun he => hm (he ▸ hc)
      have hpos' : ∀ c ∈ path, (decide (c ≠ '?')) = true := fun c hc =>
        decide_eq_true (ne_of_isPathChar (h.inPath c hc)).1
      rw [List.takeWhile_eq_self_iff.2 hpos] at hfp
      rw [List.takeWhile_append_of_pos hpos, List.takeWhile_append_of_pos hpos',
        List.dropWhile_append_of_pos hpos, List.dropWhile_append_of_pos hpos', List.all_append,
        List.all_append, hfp, Bool.true_and, List.all_eq_true.2 h.inPath, Bool.true_and]
      rcases h.ofQuery with rfl | ⟨q, rfl, hq'⟩
      · rfl
      · rw [List.takeWhile_cons_of_neg (by decide), List.dropWhile_cons_of_neg (by decide)]
        exact List.all_eq_true.2 hq'
  · exact hf

/-! ## Identifiers of the web -/

theorem cutScheme_web (rest : List Char) :
    cutScheme ('h' :: 't' :: 't' :: 'p' :: ':' :: '/' :: '/' :: rest) = .ok (some "http", rest) := by
  have hd : ('h' :: 't' :: 't' :: 'p' :: ':' :: '/' :: '/' :: rest).dropWhile isSchemeChar =
      ':' :: '/' :: '/' :: rest := rfl
  have ht : ('h' :: 't' :: 't' :: 'p' :: ':' :: '/' :: '/' :: rest).takeWhile isSchemeChar =
      ['h', 't', 't', 'p'] := rfl
  have hl : (String.ofList ['h', 't', 't', 'p']).toLower = "http" := by decide +kernel
  unfold cutScheme
  rw [hd]
  simp only [ht, hl]
  rw [if_neg (by simp), if_pos (by decide)]

theorem isOk_full_web {rest : List Char} (h : rest ≠ []) :
    (full ('h' :: 't' :: 't' :: 'p' :: ':' :: '/' :: '/' :: rest)).isOk =
      ((checkAuthority (rest.takeWhile (!endsAuthority ·))).isOk &&
        !(rest.takeWhile (!endsAuthority ·)).isEmpty &&
        (targetOf (rest.dropWhile (!endsAuthority ·))).isOk) := by
  rw [full, cutScheme_web]
  simp only [bind, Except.bind]
  rw [if_neg (by rwa [List.isEmpty_iff])]
  cases checkAuthority (rest.takeWhile (!endsAuthority ·)) with
  | error f => rfl
  | ok u =>
    cases (rest.takeWhile (!endsAuthority ·)).isEmpty with
    | true => rfl
    | false => cases targetOf (rest.dropWhile (!endsAuthority ·)) <;> rfl

/-- The text of an identifier of the web. -/
def webText (rest : List Char) : String :=
  String.ofList ('h' :: 't' :: 't' :: 'p' :: ':' :: '/' :: '/' :: rest)

theorem ofText_webText (rest : List Char) :
    ofText (webText rest) = if maxLength < (webText rest).utf8ByteSize then .error .tooLong
      else full ('h' :: 't' :: 't' :: 'p' :: ':' :: '/' :: '/' :: rest) := by
  rw [ofText, webText, String.toList_ofList]
  rfl

/-- A slash ends the authority at the latest. -/
theorem takeWhile_authority (host more : List Char) :
    (host ++ '/' :: more).takeWhile (!endsAuthority ·) = host.takeWhile (!endsAuthority ·) := by
  rw [List.takeWhile_append]
  split
  · next hl =>
    rw [List.takeWhile_cons_of_neg (by decide), List.append_nil]
    exact ((List.takeWhile_prefix _).eq_of_length hl).symm
  · rfl

theorem dropWhile_authority (host more : List Char) :
    (host ++ '/' :: more).dropWhile (!endsAuthority ·) =
      host.dropWhile (!endsAuthority ·) ++ '/' :: more := by
  rw [List.dropWhile_append]
  split
  · next he => rw [List.isEmpty_iff.1 he, List.dropWhile_cons_of_neg (by decide), List.nil_append]
  · rfl

/-- If the root of a host is an identifier, so is everything behind it that is not too long. -/
theorem isOk_ofText_webText {host path query fragment : List Char}
    (ho : (ofText (webText (host ++ ['/']))).isOk = true) (h : Continues path query fragment) :
    (ofText (webText (host ++ '/' :: (path ++ (query ++ fragment))))).isOk = true ↔
      (webText (host ++ '/' :: (path ++ (query ++ fragment)))).utf8ByteSize ≤ maxLength := by
  rw [ofText_webText] at ho ⊢
  split at ho
  · cases ho
  · split
    · next hl => exact ⟨fun hf => (by cases hf), fun hle => absurd hl (Nat.not_lt.2 hle)⟩
    · next hl =>
      refine ⟨fun _ => Nat.not_lt.1 hl, fun _ => ?_⟩
      rw [isOk_full_web (by simp), takeWhile_authority, dropWhile_authority, Bool.and_eq_true]
        at ho ⊢
      refine ⟨ho.1, ?_⟩
      rw [List.append_cons]
      exact isOk_targetOf_append ho.2 h

end BackendMonitor.Uri
