import Mathlib.Data.String.Basic
import BackendMonitor.Json.Reader

/-!
# Values that are read

A reader of values goes from token to token, with the containers that are open on a stack. `Steps`
says what one token does to them, and whatever every token keeps is had by the value at the end.

* `readTokens_induction`: from what one token keeps to what reading gives;
* `readValue_eq_null`: what is read as `null` is the token `null`;
* `Value.IsRead`, `isRead_of_readValue`: what is read has numbers that literals mean, members in the
  order of their keys, each key once, and no more containers within one another than there was room for.
-/

namespace BackendMonitor.Json

variable {room : Nat} {expect : Expect} {stack : List Frame} {t : Token} {p : Progress Frame}
  {v : Value}

/-! ## Objects as they are read -/

namespace Value

/-- Members in the order of their keys, each key once. -/
def IsSorted (ms : List (String × Value)) : Prop :=
  ms.Pairwise fun m m' => m.1 < m'.1

variable {key : String} {m : String × Value} {ms ms' : List (String × Value)}

theorem mem_of_mem_insertMember (h : m ∈ insertMember key v ms) : m = (key, v) ∨ m ∈ ms := by
  fun_induction insertMember key v ms with
  | case1 => simpa using h
  | case2 k x rest hlt => simpa using h
  | case3 x rest =>
    rcases List.mem_cons.1 h with rfl | h
    · exact .inl rfl
    · exact .inr (List.mem_cons_of_mem _ h)
  | case4 k x rest hlt heq ih =>
    rcases List.mem_cons.1 h with rfl | h
    · exact .inr List.mem_cons_self
    · exact (ih h).imp_right (List.mem_cons_of_mem _)

theorem isSorted_insertMember (h : IsSorted ms) : IsSorted (insertMember key v ms) := by
  fun_induction insertMember key v ms with
  | case1 => exact List.pairwise_singleton _ _
  | case2 k x rest hlt =>
    refine List.pairwise_cons.2 ⟨fun m hm => ?_, h⟩
    rcases List.mem_cons.1 hm with rfl | hm
    · exact hlt
    · exact hlt.trans ((List.pairwise_cons.1 h).1 m hm)
  | case3 x rest =>
    obtain ⟨hfirst, hrest⟩ := List.pairwise_cons.1 h
    exact List.pairwise_cons.2 ⟨hfirst, hrest⟩
  | case4 k x rest hlt heq ih =>
    obtain ⟨hfirst, hrest⟩ := List.pairwise_cons.1 h
    refine List.pairwise_cons.2 ⟨fun m hm => ?_, ih hrest⟩
    rcases mem_of_mem_insertMember hm with rfl | hm
    · exact lt_of_le_of_ne (not_lt.1 hlt) (Ne.symm heq)
    · exact hfirst m hm

/-- A key behind all others goes to the end. -/
theorem insertMember_of_lt (h : ∀ m ∈ ms, m.1 < key) :
    insertMember key v ms = ms ++ [(key, v)] := by
  induction ms with
  | nil => rfl
  | cons m ms ih =>
    obtain ⟨hm, hms⟩ := List.forall_mem_cons.1 h
    rw [insertMember, if_neg hm.not_gt, if_neg hm.ne', ih hms, List.cons_append]

/-- The object of members that are in order holds just these. -/
theorem ofMembers_of_isSorted (h : IsSorted ms) : ofMembers ms = .object ms := by
  have hfold (before : List (String × Value)) (hall : IsSorted (before ++ ms)) :
      ms.foldl (fun acc m => insertMember m.1 m.2 acc) before = before ++ ms := by
    induction ms generalizing before with
    | nil => simp
    | cons m ms ih =>
      have hlast : ∀ m' ∈ before, m'.1 < m.1 := fun m' hm' =>
        (List.pairwise_append.1 hall).2.2 m' hm' m List.mem_cons_self
      rw [List.append_cons] at hall
      rw [List.foldl_cons, insertMember_of_lt hlast, ih (List.pairwise_cons.1 h).2 _ hall,
        ← List.append_cons]
  rw [ofMembers, hfold [] h, List.nil_append]

/-- Whatever is put into an object, its members are in order. -/
theorem ofMembers_eq (ms : List (String × Value)) :
    ∃ ms', ofMembers ms = .object ms' ∧ IsSorted ms' ∧ ∀ m ∈ ms', m ∈ ms := by
  have hfold (acc : List (String × Value)) (hs : IsSorted acc) :
      IsSorted (ms.foldl (fun acc m => insertMember m.1 m.2 acc) acc) ∧
        ∀ m ∈ ms.foldl (fun acc m => insertMember m.1 m.2 acc) acc, m ∈ acc ∨ m ∈ ms := by
    induction ms generalizing acc with
    | nil => exact ⟨hs, fun m hm => .inl hm⟩
    | cons m ms ih =>
      obtain ⟨hsorted, hmem⟩ := ih _ (isSorted_insertMember hs)
      refine ⟨hsorted, fun m' hm' => ?_⟩
      rcases hmem m' hm' with h | h
      · exact (mem_of_mem_insertMember h).symm.imp_right (by rintro rfl; exact List.mem_cons_self)
      · exact .inr (List.mem_cons_of_mem _ h)
  obtain ⟨hsorted, hmem⟩ := hfold [] List.Pairwise.nil
  exact ⟨_, rfl, hsorted, fun m hm => (hmem m hm).resolve_left List.not_mem_nil⟩

/-- What a document can say in a value with `room` containers within one another: numbers that
literals mean, and objects whose members are in order. -/
inductive IsRead : Nat → Value → Prop where
  | null {room : Nat} : IsRead room .null
  | bool {room : Nat} (b : Bool) : IsRead room (.bool b)
  | number {room : Nat} {l : Literal} {n : Number} (h : l.value = .ok n) : IsRead room (.number n)
  | text {room : Nat} (s : String) : IsRead room (.text s)
  | array {room : Nat} {xs : List Value} (h : ∀ x ∈ xs, IsRead room x) :
      IsRead (room + 1) (.array xs)
  | object {room : Nat} {ms : List (String × Value)} (hs : IsSorted ms)
      (h : ∀ m ∈ ms, IsRead room m.2) : IsRead (room + 1) (.object ms)

end Value

/-! ## Token by token -/

/-- The values that an open container holds so far. -/
def Frame.values : Frame → List Value
  | .array done => done
  | .object done | .member done _ => done.map (·.2)

/-- What the token does that starts a value. -/
inductive Starts (room : Nat) (t : Token) (stack : List Frame) : Progress Frame → Prop where
  /-- A value of one token is handed on. -/
  | word {v : Value} (hnull : v = .null → t = .null) (h : ∀ room, v.IsRead room) :
      Starts room t stack (deliver v stack)
  /-- Another container is opened. -/
  | enter {expect : Expect} {frame : Frame} (h : stack.length < room) (hf : frame.values = []) :
      Starts room t stack (.more expect (frame :: stack))

/-- What reading one token does to the containers that are open. -/
inductive Steps (room : Nat) (t : Token) : List Frame → Progress Frame → Prop where
  | start {stack : List Frame} {p : Progress Frame} (h : Starts room t stack p) :
      Steps room t stack p
  /-- A key waits for its value. -/
  | key {done : List (String × Value)} {name : String} {stack : List Frame} :
      Steps room t (.object done :: stack) (.more .colon (.member done name :: stack))
  /-- What is open stays as it is. -/
  | stay {expect : Expect} {stack : List Frame} : Steps room t stack (.more expect stack)
  /-- An array is handed on. -/
  | array {done : List Value} {stack : List Frame} :
      Steps room t (.array done :: stack) (deliver (.array done.reverse) stack)
  /-- An object is handed on. -/
  | object {done : List (String × Value)} {stack : List Frame} :
      Steps room t (.object done :: stack) (deliver (.ofMembers done.reverse) stack)

theorem starts_of_enter {frame : Frame} (hf : frame.values = [])
    (h : enter room expect frame stack = .ok p) : Starts room t stack p := by
  unfold enter at h
  split at h
  · next hroom => cases h; exact .enter hroom hf
  · cases h

theorem starts_of_startValue (h : startValue room stack t = .ok p) : Starts room t stack p := by
  cases t with
  | null => cases h; exact .word (fun _ => rfl) fun _ => .null
  | bool b => cases h; exact .word nofun fun _ => .bool b
  | number l =>
    cases hl : l.value with
    | error f => rw [startValue, hl] at h; cases h
    | ok n => rw [startValue, hl] at h; cases h; exact .word nofun fun _ => .number hl
  | text content =>
    cases content with
    | error f => cases h
    | ok s => cases h; exact .word nofun fun _ => .text s
  | openBracket | openBrace => exact starts_of_enter rfl h
  | _ => cases h

theorem steps_of_startKey (h : startKey stack t = .ok p) : Steps room t stack p := by
  cases t with
  | text content =>
    cases content with
    | error f => cases h
    | ok name =>
      cases h
      simp only
      split
      · exact .key
      · exact .stay
  | _ => cases h

theorem steps_of_separate {t' : Token} (h : separate stack t' = .ok p) : Steps room t stack p := by
  unfold separate at h
  split at h
  · cases h; exact .stay
  · cases h; exact .array
  · cases h
  · cases h; exact .stay
  · cases h; exact .object
  · cases h

/-- Whatever comes next, a token that is read does one of these things. -/
theorem steps_of_readToken (h : readToken room expect stack t = .ok p) : Steps room t stack p := by
  unfold readToken at h
  split at h
  · exact .start (starts_of_startValue h)
  · exact steps_of_separate h
  · exact .start (starts_of_startValue h)
  · cases h
  · exact .start (starts_of_startValue h)
  · exact steps_of_separate h
  · exact steps_of_startKey h
  · cases h
  · exact steps_of_startKey h
  · cases h; exact .stay
  · cases h
  · exact steps_of_separate h

/-! ## Many tokens -/

/-- What is said of the containers that are open, and of a value that is complete. -/
def Progress.Has (P : List Frame → Prop) (Q : Value → Prop) : Progress Frame → Prop
  | .more _ stack => P stack
  | .done v => Q v

variable {P : List Frame → Prop} {Q : Value → Prop} {ts rest : List Token}

/-- What every token keeps is had by the value that is read. -/
theorem readTokens_induction
    (hkeep : ∀ t stack p, Steps room t stack p → P stack → p.Has P Q) (hp : P stack)
    (h : readTokens room expect stack ts = .ok (v, rest)) : Q v := by
  induction ts generalizing expect stack with
  | nil => cases h
  | cons t ts ih =>
    rw [readTokens] at h
    split at h
    · cases h
    · next hdone => cases h; exact hkeep _ _ _ (steps_of_readToken hdone) hp
    · next hmore => exact ih (hkeep _ _ _ (steps_of_readToken hmore) hp) h

/-! ### Values that are `null` -/

theorem has_deliver_of_ne_nil (hs : stack ≠ []) (v : Value) :
    (deliver v stack).Has (· ≠ []) Q := by
  obtain ⟨frame, stack, rfl⟩ := List.exists_cons_of_ne_nil hs
  cases frame <;> exact List.cons_ne_nil _ _

/-- A value that is no `null` leads to one that is none, and so does every container. -/
theorem has_deliver_of_ne_null (h : v ≠ .null) (stack : List Frame) :
    (deliver v stack).Has (· ≠ []) (· ≠ .null) := by
  cases stack with
  | nil => exact h
  | cons frame stack => exact has_deliver_of_ne_nil (List.cons_ne_nil _ _) v

/-- A value that starts with another token than `null` is none. -/
theorem Starts.has_ne_null (h : Starts room t stack p) (ht : t ≠ .null) :
    p.Has (· ≠ []) (· ≠ .null) := by
  cases h with
  | word hnull => exact has_deliver_of_ne_null (fun hv => ht (hnull hv)) stack
  | enter => exact List.cons_ne_nil _ _

/-- A value that has a container around it, or is one, is no `null`. -/
theorem Steps.has_ne_null (h : Steps room t stack p) (hs : stack ≠ []) :
    p.Has (· ≠ []) (· ≠ .null) := by
  cases h with
  | start h =>
    cases h with
    | word => exact has_deliver_of_ne_nil hs _
    | enter => exact List.cons_ne_nil _ _
  | key => exact List.cons_ne_nil _ _
  | stay => exact hs
  | @array done => exact has_deliver_of_ne_null (v := .array done.reverse) nofun _
  | @object done => exact has_deliver_of_ne_null (v := .ofMembers done.reverse) nofun _

/-- What is read as `null` is the token `null`. -/
theorem readValue_eq_null (h : readValue room ts = .ok (.null, rest)) : ts = .null :: rest := by
  cases ts with
  | nil => cases h
  | cons t ts =>
    by_cases ht : t = .null
    · subst ht
      cases h
      rfl
    · rw [readValue, readTokens] at h
      split at h
      · cases h
      · next hdone =>
        cases h
        exact absurd rfl ((starts_of_startValue hdone).has_ne_null ht)
      · next hmore =>
        have hkeep (t : Token) (stack : List Frame) (p : Progress Frame) (hstep : Steps room t stack p) :
            stack ≠ [] → p.Has (· ≠ []) (· ≠ .null) := hstep.has_ne_null
        have hstack := (starts_of_startValue hmore).has_ne_null ht
        exact absurd rfl (readTokens_induction hkeep hstack h)

/-! ### Values of documents -/

/-- What the open containers hold is as it can be read there. -/
def Holds (room : Nat) : List Frame → Prop
  | [] => True
  | frame :: stack => stack.length < room ∧
      (∀ x ∈ frame.values, x.IsRead (room - stack.length - 1)) ∧ Holds room stack

theorem has_deliver_of_holds (hv : v.IsRead (room - stack.length)) (h : Holds room stack) :
    (deliver v stack).Has (Holds room) (·.IsRead room) := by
  cases stack with
  | nil => exact hv
  | cons frame stack =>
    obtain ⟨hlength, hvalues, hstack⟩ := h
    rw [List.length_cons, ← Nat.sub_sub] at hv
    cases frame with
    | array | member => exact ⟨hlength, List.forall_mem_cons.2 ⟨hv, hvalues⟩, hstack⟩
    | object => exact ⟨hlength, hvalues, hstack⟩

theorem Steps.has_holds (h : Steps room t stack p) (hs : Holds room stack) :
    p.Has (Holds room) (·.IsRead room) := by
  cases h with
  | start h =>
    cases h with
    | word _ hv => exact has_deliver_of_holds (hv _) hs
    | enter hroom hf => exact ⟨hroom, by simp [hf], hs⟩
  | key => exact hs
  | stay => exact hs
  | @array done stack =>
    obtain ⟨hlength, hvalues, hstack⟩ := hs
    obtain ⟨n, hn⟩ : ∃ n, room - stack.length = n + 1 := ⟨room - stack.length - 1, by omega⟩
    refine has_deliver_of_holds ?_ hstack
    rw [hn] at hvalues ⊢
    exact .array fun x hx => hvalues x (List.mem_reverse.1 hx)
  | @object done stack =>
    obtain ⟨hlength, hvalues, hstack⟩ := hs
    obtain ⟨n, hn⟩ : ∃ n, room - stack.length = n + 1 := ⟨room - stack.length - 1, by omega⟩
    obtain ⟨ms, hms, hsorted, hmem⟩ := Value.ofMembers_eq done.reverse
    refine has_deliver_of_holds ?_ hstack
    rw [hn] at hvalues ⊢
    rw [hms]
    refine .object hsorted fun m hm => hvalues m.2 (List.mem_map_of_mem ?_)
    exact List.mem_reverse.1 (hmem m hm)

/-- What is read is a value that a document can say. -/
theorem isRead_of_readValue (h : readValue room ts = .ok (v, rest)) : v.IsRead room :=
  have hkeep (t : Token) (stack : List Frame) (p : Progress Frame) (hstep : Steps room t stack p) :
      Holds room stack → p.Has (Holds room) (·.IsRead room) := hstep.has_holds
  have hopen : Holds room [] := trivial
  readTokens_induction hkeep hopen h

end BackendMonitor.Json
