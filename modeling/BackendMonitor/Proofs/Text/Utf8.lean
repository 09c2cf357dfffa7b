import BackendMonitor.Bytes
import BackendMonitor.Text.Utf8
import Mathlib.Tactic.SplitIfs

/-!
# Texts as UTF-8

A byte sequence is UTF-8 just when it is how some text is written, and then this is the text that
is read (`text?_eq_some_iff`). One character of it at a time: the first piece of a sequence is a
character just when the sequence starts with the bytes of that character (`piece_eq_char_iff`).
-/

namespace BackendMonitor

/-! ## Bytes of a text -/

theorem Bytes.toList_loop (b : ByteArray) (i : Nat) (r : List UInt8) :
    ByteArray.toList.loop b i r = r.reverse ++ b.data.toList.drop i := by
  fun_induction ByteArray.toList.loop b i r with
  | case1 i r h ih =>
    have hi : i < b.data.toList.length := by simpa using h
    have hb : b.get! i = b.data.toList[i] := by simp [ByteArray.get!, h]
    rw [ih, List.reverse_cons, List.append_assoc, hb, List.drop_eq_getElem_cons hi]
    rfl
  | case2 i r h =>
    have hi : b.data.toList.length ≤ i := by simpa using h
    rw [List.drop_eq_nil_of_le hi, List.append_nil]

/-- The bytes of a text are those of its characters, one after the other. -/
theorem Bytes.ofText_eq (s : String) : ofText s = s.toList.flatMap String.utf8EncodeChar := by
  have hl : s.toUTF8 = (s.toList.flatMap String.utf8EncodeChar).toByteArray := by
    rw [String.toUTF8_eq_toByteArray, ← String.utf8Encode_toList]
    rfl
  rw [ofText, ByteArray.toList, toList_loop, hl, List.toList_data_toByteArray]
  rfl

namespace Text.Utf8

/-! ## Bytes of a character -/

/-- The bytes that follow the first one. -/
theorem finish_eq_char_iff {seen value owed : Nat} {low high : UInt8} {bytes rest : List UInt8}
    {c : Char} :
    finish seen low high value (owed + 1) bytes = (.char c, rest) ↔
      ∃ b more, bytes = b :: more ∧ low.toNat ≤ b.toNat ∧ b.toNat ≤ high.toNat ∧
        finish (seen + 1) 0x80 0xBF (value * 64 + (b.toNat - 0x80)) owed more =
          (.char c, rest) := by
  cases bytes with
  | nil => simp [finish]
  | cons b more =>
    rw [finish]
    by_cases hb : low ≤ b ∧ b ≤ high
    · have hn : low.toNat ≤ b.toNat ∧ b.toNat ≤ high.toNat := hb
      rw [if_pos (by simpa using hb)]
      refine ⟨fun h => ⟨b, more, rfl, hn.1, hn.2, h⟩, ?_⟩
      rintro ⟨_, _, h, -, -, hf⟩
      cases h
      exact hf
    · rw [if_neg (by simpa using hb)]
      refine ⟨fun h => (by cases h), ?_⟩
      rintro ⟨_, _, h, hl, hh, -⟩
      cases h
      exact absurd ⟨hl, hh⟩ hb

theorem finish_zero_eq_char_iff {seen value : Nat} {low high : UInt8} {bytes rest : List UInt8}
    {c : Char} :
    finish seen low high value 0 bytes = (.char c, rest) ↔ c = Char.ofNat value ∧ bytes = rest := by
  simp [finish, eq_comm]

/-- The byte that starts a character tells how many bytes follow, and which bounds the next of them
has. -/
theorem lead?_eq_some {b : UInt8} {l : Lead} (h : lead? b = some l) :
    (l.owed = 1 ∧ b.toNat = 0xC0 + l.value ∧ 2 ≤ l.value ∧ l.value < 32 ∧ l.low.toNat = 0x80 ∧
      l.high.toNat = 0xBF) ∨
    (l.owed = 2 ∧ b.toNat = 0xE0 + l.value ∧ l.value < 16 ∧
      (l.value = 0 ∧ l.low.toNat = 0xA0 ∨ l.value ≠ 0 ∧ l.low.toNat = 0x80) ∧
      (l.value = 13 ∧ l.high.toNat = 0x9F ∨ l.value ≠ 13 ∧ l.high.toNat = 0xBF)) ∨
    (l.owed = 3 ∧ b.toNat = 0xF0 + l.value ∧ l.value < 5 ∧
      (l.value = 0 ∧ l.low.toNat = 0x90 ∨ l.value ≠ 0 ∧ l.low.toNat = 0x80) ∧
      (l.value = 4 ∧ l.high.toNat = 0x8F ∨ l.value ≠ 4 ∧ l.high.toNat = 0xBF)) := by
  obtain ⟨owed, low, high, value⟩ := l
  dsimp only
  simp only [lead?, Bool.and_eq_true, decide_eq_true_eq, beq_iff_eq] at h
  split_ifs at h <;> cases h
  · exact .inl ⟨rfl, by omega, by omega, by omega, rfl, rfl⟩
  · exact .inr (.inl ⟨rfl, by omega, by omega, .inl ⟨rfl, rfl⟩, .inr ⟨by omega, rfl⟩⟩)
  · exact .inr (.inl ⟨rfl, by omega, by omega, .inr ⟨by omega, rfl⟩, .inl ⟨rfl, rfl⟩⟩)
  · exact .inr (.inl ⟨rfl, by omega, by omega, .inr ⟨by omega, rfl⟩, .inr ⟨by omega, rfl⟩⟩)
  · exact .inr (.inr ⟨rfl, by omega, by omega, .inl ⟨rfl, rfl⟩, .inr ⟨by omega, rfl⟩⟩)
  · exact .inr (.inr ⟨rfl, by omega, by omega, .inr ⟨by omega, rfl⟩, .inr ⟨by omega, rfl⟩⟩)
  · exact .inr (.inr ⟨rfl, by omega, by omega, .inr ⟨by omega, rfl⟩, .inl ⟨rfl, rfl⟩⟩)

theorem exists_lead? {b : UInt8} (h : 0xC2 ≤ b.toNat) (h' : b.toNat ≤ 0xF4) :
    ∃ l, lead? b = some l := by
  simp only [lead?, Bool.and_eq_true, decide_eq_true_eq, beq_iff_eq]
  split_ifs
  case neg => omega
  all_goals exact ⟨_, rfl⟩

section Char

variable {u x y z : Nat}

theorem toNat_ofNat_of_valid {n : Nat} (h : n.isValidChar) : (Char.ofNat n).toNat = n := by
  rw [Char.ofNat, dif_pos h]
  rfl

/-! How a character is written, given the parts of its number. -/

theorem encode_one (hu : u < 0x80) : String.utf8EncodeChar (Char.ofNat u) = [UInt8.ofNat u] := by
  have hn : (Char.ofNat u).val.toNat = u := toNat_ofNat_of_valid (.inl (by omega))
  simp only [String.utf8EncodeChar, hn]
  rw [if_pos (by omega)]

theorem encode_two (hu : 2 ≤ u) (hu' : u < 32) (hx : x < 64) :
    String.utf8EncodeChar (Char.ofNat (u * 64 + x)) =
      [UInt8.ofNat (0xC0 + u), UInt8.ofNat (0x80 + x)] := by
  have hn : (Char.ofNat (u * 64 + x)).val.toNat = u * 64 + x :=
    toNat_ofNat_of_valid (.inl (by omega))
  simp only [String.utf8EncodeChar, hn]
  rw [if_neg (by omega), if_pos (by omega), show (u * 64 + x) / 64 % 32 + 192 = 0xC0 + u by omega,
    show (u * 64 + x) % 64 + 128 = 0x80 + x by omega]

theorem encode_three (hu : u < 16) (hx : x < 64) (hy : y < 64) (h₀ : u = 0 → 32 ≤ x)
    (h₁ : u = 13 → x < 32) :
    String.utf8EncodeChar (Char.ofNat ((u * 64 + x) * 64 + y)) =
      [UInt8.ofNat (0xE0 + u), UInt8.ofNat (0x80 + x), UInt8.ofNat (0x80 + y)] := by
  have hv : ((u * 64 + x) * 64 + y).isValidChar := by
    show _ < 0xD800 ∨ 0xDFFF < _ ∧ _ < 0x110000
    omega
  have hn : (Char.ofNat ((u * 64 + x) * 64 + y)).val.toNat = (u * 64 + x) * 64 + y :=
    toNat_ofNat_of_valid hv
  simp only [String.utf8EncodeChar, hn]
  rw [if_neg (by omega), if_neg (by omega), if_pos (by omega),
    show ((u * 64 + x) * 64 + y) / 4096 % 16 + 224 = 0xE0 + u by omega,
    show ((u * 64 + x) * 64 + y) / 64 % 64 + 128 = 0x80 + x by omega,
    show ((u * 64 + x) * 64 + y) % 64 + 128 = 0x80 + y by omega]

theorem encode_four (hu : u < 5) (hx : x < 64) (hy : y < 64) (hz : z < 64) (h₀ : u = 0 → 16 ≤ x)
    (h₁ : u = 4 → x < 16) :
    String.utf8EncodeChar (Char.ofNat (((u * 64 + x) * 64 + y) * 64 + z)) =
      [UInt8.ofNat (0xF0 + u), UInt8.ofNat (0x80 + x), UInt8.ofNat (0x80 + y),
        UInt8.ofNat (0x80 + z)] := by
  have hv : (((u * 64 + x) * 64 + y) * 64 + z).isValidChar := by
    show _ < 0xD800 ∨ 0xDFFF < _ ∧ _ < 0x110000
    omega
  have hn : (Char.ofNat (((u * 64 + x) * 64 + y) * 64 + z)).val.toNat =
      ((u * 64 + x) * 64 + y) * 64 + z := toNat_ofNat_of_valid hv
  simp only [String.utf8EncodeChar, hn]
  rw [if_neg (by omega), if_neg (by omega), if_neg (by omega),
    show (((u * 64 + x) * 64 + y) * 64 + z) / 262144 % 8 + 240 = 0xF0 + u by omega,
    show (((u * 64 + x) * 64 + y) * 64 + z) / 4096 % 64 + 128 = 0x80 + x by omega,
    show (((u * 64 + x) * 64 + y) * 64 + z) / 64 % 64 + 128 = 0x80 + y by omega,
    show (((u * 64 + x) * 64 + y) * 64 + z) % 64 + 128 = 0x80 + z by omega]

end Char

section Piece

variable {b : UInt8} {rest rest' : List UInt8} {c : Char}

theorem piece_of_lead {l : Lead} (h : lead? b = some l) (rest : List UInt8) :
    piece b rest = finish 1 l.low l.high l.value l.owed rest := by
  have hb : ¬b < 0x80 := by
    show ¬b.toNat < 0x80
    rcases lead?_eq_some h with h | h | h <;> omega
  simp only [piece, if_neg hb, h]

/-- A byte with a number. -/
theorem toNat_ofNat_of_lt {n : Nat} (h : n < 256) : (UInt8.ofNat n).toNat = n :=
  UInt8.toNat_ofNat_of_lt' h

theorem ofNat_add_sub (h : 0x80 ≤ b.toNat) : UInt8.ofNat (0x80 + (b.toNat - 0x80)) = b := by
  rw [Nat.add_sub_of_le h, UInt8.ofNat_toNat]

/-- The first piece is a character where the bytes of a character stand. -/
theorem eq_encode_of_piece (h : piece b rest = (.char c, rest')) :
    b :: rest = String.utf8EncodeChar c ++ rest' := by
  cases hl : lead? b with
  | none =>
    simp only [piece, hl] at h
    split at h
    · next hb =>
      obtain ⟨hc, rfl⟩ := Prod.mk.inj h
      have he := encode_one (u := b.toNat) hb
      rw [UInt8.ofNat_toNat] at he
      rw [← Piece.char.inj hc, he]
      rfl
    · cases h
  | some l =>
    rw [piece_of_lead hl] at h
    rcases lead?_eq_some hl with ⟨ho, hb, hv, hv', hlow, hhigh⟩ | ⟨ho, hb, hv, hlow, hhigh⟩ |
      ⟨ho, hb, hv, hlow, hhigh⟩
    · rw [ho] at h
      obtain ⟨b₁, more, rfl, h₁, h₁', h⟩ := finish_eq_char_iff.1 h
      obtain ⟨hc, rfl⟩ := finish_zero_eq_char_iff.1 h
      have he := encode_two (x := b₁.toNat - 0x80) hv hv' (by omega)
      rw [← hb, UInt8.ofNat_toNat, ofNat_add_sub (by omega)] at he
      rw [hc, he]
      rfl
    · rw [ho] at h
      obtain ⟨b₁, more, rfl, h₁, h₁', h⟩ := finish_eq_char_iff.1 h
      obtain ⟨b₂, more, rfl, h₂, h₂', h⟩ := finish_eq_char_iff.1 h
      obtain ⟨hc, rfl⟩ := finish_zero_eq_char_iff.1 h
      have h₂ : 0x80 ≤ b₂.toNat := h₂
      have h₂' : b₂.toNat ≤ 0xBF := h₂'
      have he := encode_three (x := b₁.toNat - 0x80) (y := b₂.toNat - 0x80) hv (by omega) (by omega)
        (by omega) (by omega)
      rw [← hb, UInt8.ofNat_toNat, ofNat_add_sub (by omega), ofNat_add_sub h₂] at he
      rw [hc, he]
      rfl
    · rw [ho] at h
      obtain ⟨b₁, more, rfl, h₁, h₁', h⟩ := finish_eq_char_iff.1 h
      obtain ⟨b₂, more, rfl, h₂, h₂', h⟩ := finish_eq_char_iff.1 h
      obtain ⟨b₃, more, rfl, h₃, h₃', h⟩ := finish_eq_char_iff.1 h
      obtain ⟨hc, rfl⟩ := finish_zero_eq_char_iff.1 h
      have h₂ : 0x80 ≤ b₂.toNat := h₂
      have h₂' : b₂.toNat ≤ 0xBF := h₂'
      have h₃ : 0x80 ≤ b₃.toNat := h₃
      have h₃' : b₃.toNat ≤ 0xBF := h₃'
      have he := encode_four (x := b₁.toNat - 0x80) (y := b₂.toNat - 0x80) (z := b₃.toNat - 0x80)
        hv (by omega) (by omega) (by omega) (by omega) (by omega)
      rw [← hb, UInt8.ofNat_toNat, ofNat_add_sub (by omega), ofNat_add_sub h₂,
        ofNat_add_sub h₃] at he
      rw [hc, he]
      rfl

/-- A byte that follows the first one. -/
theorem finish_ofNat {seen value owed x : Nat} {low high : UInt8} (hx : x < 64)
    (hl : low.toNat ≤ 0x80 + x) (hh : 0x80 + x ≤ high.toNat)
    (h : finish (seen + 1) 0x80 0xBF (value * 64 + x) owed rest = (.char c, rest')) :
    finish seen low high value (owed + 1) (UInt8.ofNat (0x80 + x) :: rest) = (.char c, rest') := by
  have hn : (UInt8.ofNat (0x80 + x)).toNat = 0x80 + x := toNat_ofNat_of_lt (by omega)
  refine finish_eq_char_iff.2 ⟨_, _, rfl, by omega, by omega, ?_⟩
  rwa [hn, Nat.add_sub_cancel_left]

section Parts

variable {u x y z : Nat} (rest : List UInt8)

theorem piece_one (hu : u < 0x80) :
    piece (UInt8.ofNat u) rest = (.char (Char.ofNat u), rest) := by
  have hn : (UInt8.ofNat u).toNat = u := toNat_ofNat_of_lt (by omega)
  have hb : UInt8.ofNat u < 0x80 := by
    show (UInt8.ofNat u).toNat < 0x80
    omega
  simp only [piece, if_pos hb, hn]

theorem piece_two (hu : 2 ≤ u) (hu' : u < 32) (hx : x < 64) :
    piece (UInt8.ofNat (0xC0 + u)) (UInt8.ofNat (0x80 + x) :: rest) =
      (.char (Char.ofNat (u * 64 + x)), rest) := by
  have hn : (UInt8.ofNat (0xC0 + u)).toNat = 0xC0 + u := toNat_ofNat_of_lt (by omega)
  obtain ⟨l, hl⟩ := exists_lead? (b := UInt8.ofNat (0xC0 + u)) (by omega) (by omega)
  rcases lead?_eq_some hl with ⟨ho, hb, -, -, hlow, hhigh⟩ | ⟨-, hb, -⟩ | ⟨-, hb, -⟩
  · obtain rfl : u = l.value := by omega
    rw [piece_of_lead hl, ho]
    exact finish_ofNat hx (by omega) (by omega) rfl
  · omega
  · omega

theorem piece_three (hu : u < 16) (hx : x < 64) (hy : y < 64) (h₀ : u = 0 → 32 ≤ x)
    (h₁ : u = 13 → x < 32) :
    piece (UInt8.ofNat (0xE0 + u)) (UInt8.ofNat (0x80 + x) :: UInt8.ofNat (0x80 + y) :: rest) =
      (.char (Char.ofNat ((u * 64 + x) * 64 + y)), rest) := by
  have hn : (UInt8.ofNat (0xE0 + u)).toNat = 0xE0 + u := toNat_ofNat_of_lt (by omega)
  obtain ⟨l, hl⟩ := exists_lead? (b := UInt8.ofNat (0xE0 + u)) (by omega) (by omega)
  rcases lead?_eq_some hl with ⟨-, hb, -, hv, -⟩ | ⟨ho, hb, -, hlow, hhigh⟩ | ⟨-, hb, -⟩
  · omega
  · obtain rfl : u = l.value := by omega
    rw [piece_of_lead hl, ho]
    refine finish_ofNat hx (by omega) (by omega) ?_
    exact finish_ofNat hy (Nat.le_add_right 0x80 y) (show 0x80 + y ≤ 0xBF by omega) rfl
  · omega

theorem piece_four (hu : u < 5) (hx : x < 64) (hy : y < 64) (hz : z < 64) (h₀ : u = 0 → 16 ≤ x)
    (h₁ : u = 4 → x < 16) :
    piece (UInt8.ofNat (0xF0 + u))
        (UInt8.ofNat (0x80 + x) :: UInt8.ofNat (0x80 + y) :: UInt8.ofNat (0x80 + z) :: rest) =
      (.char (Char.ofNat (((u * 64 + x) * 64 + y) * 64 + z)), rest) := by
  have hn : (UInt8.ofNat (0xF0 + u)).toNat = 0xF0 + u := toNat_ofNat_of_lt (by omega)
  obtain ⟨l, hl⟩ := exists_lead? (b := UInt8.ofNat (0xF0 + u)) (by omega) (by omega)
  rcases lead?_eq_some hl with ⟨-, hb, -, hv, -⟩ | ⟨-, hb, hv, -⟩ | ⟨ho, hb, -, hlow, hhigh⟩
  · omega
  · omega
  · obtain rfl : u = l.value := by omega
    rw [piece_of_lead hl, ho]
    refine finish_ofNat hx (by omega) (by omega) ?_
    refine finish_ofNat hy (Nat.le_add_right 0x80 y) (show 0x80 + y ≤ 0xBF by omega) ?_
    exact finish_ofNat hz (Nat.le_add_right 0x80 z) (show 0x80 + z ≤ 0xBF by omega) rfl

end Parts

theorem piece_of_eq_encode (h : b :: rest = String.utf8EncodeChar c ++ rest') :
    piece b rest = (.char c, rest') := by
  have hvalid : c.toNat < 0xD800 ∨ 0xDFFF < c.toNat ∧ c.toNat < 0x110000 := c.valid
  rw [← Char.ofNat_toNat c] at h ⊢
  generalize c.toNat = v at h hvalid ⊢
  by_cases h₁ : v < 0x80
  · rw [encode_one h₁] at h
    obtain ⟨rfl, rfl⟩ := List.cons.inj h
    exact piece_one _ h₁
  · by_cases h₂ : v < 0x800
    · obtain ⟨u, x, hx, rfl⟩ : ∃ u x, x < 64 ∧ v = u * 64 + x :=
        ⟨v / 64, v % 64, by omega, by omega⟩
      rw [encode_two (by omega) (by omega) hx] at h
      obtain ⟨rfl, rfl⟩ := List.cons.inj h
      exact piece_two _ (by omega) (by omega) hx
    · by_cases h₃ : v < 0x10000
      · obtain ⟨u, x, y, hx, hy, rfl⟩ : ∃ u x y, x < 64 ∧ y < 64 ∧ v = (u * 64 + x) * 64 + y :=
          ⟨v / 4096, v / 64 % 64, v % 64, by omega, by omega, by omega⟩
        rw [encode_three (by omega) hx hy (by omega) (by omega)] at h
        obtain ⟨rfl, rfl⟩ := List.cons.inj h
        exact piece_three _ (by omega) hx hy (by omega) (by omega)
      · obtain ⟨u, x, y, z, hx, hy, hz, rfl⟩ : ∃ u x y z, x < 64 ∧ y < 64 ∧ z < 64 ∧
            v = ((u * 64 + x) * 64 + y) * 64 + z :=
          ⟨v / 262144, v / 4096 % 64, v / 64 % 64, v % 64, by omega, by omega, by omega, by omega⟩
        rw [encode_four (by omega) hx hy hz (by omega) (by omega)] at h
        obtain ⟨rfl, rfl⟩ := List.cons.inj h
        exact piece_four _ (by omega) hx hy hz (by omega) (by omega)

theorem piece_eq_char_iff :
    piece b rest = (.char c, rest') ↔ b :: rest = String.utf8EncodeChar c ++ rest' :=
  ⟨eq_encode_of_piece, piece_of_eq_encode⟩

end Piece

/-! ## Whole sequences -/

theorem Piece.char?_eq_some_iff {p : Piece} {c : Char} : p.char? = some c ↔ p = .char c := by
  cases p <;> simp [Piece.char?]

theorem encode_ne_nil (c : Char) : String.utf8EncodeChar c ≠ [] := by
  rw [← List.length_pos_iff, String.length_utf8EncodeChar]
  exact c.utf8Size_pos

/-- The pieces of a sequence are characters just when it consists of their bytes. -/
theorem mapM_pieces_eq_some_iff {bytes : List UInt8} {cs : List Char} :
    (pieces bytes).mapM Piece.char? = some cs ↔ bytes = cs.flatMap String.utf8EncodeChar := by
  fun_induction pieces bytes generalizing cs with
  | case1 =>
    cases cs with
    | nil => exact ⟨fun _ => rfl, fun _ => rfl⟩
    | cons c cs =>
      refine ⟨fun h => (by cases h), fun h => absurd ?_ (encode_ne_nil c)⟩
      exact (List.append_eq_nil_iff.1 h.symm).1
  | case2 b rest ih =>
    rw [List.mapM_cons, Option.bind_eq_bind, Option.bind_eq_some_iff]
    constructor
    · rintro ⟨c, hc, h⟩
      obtain ⟨cs', hcs, h⟩ := Option.bind_eq_some_iff.1 h
      obtain rfl : c :: cs' = cs := Option.some.inj h
      have hp : piece b rest = (.char c, (piece b rest).2) :=
        Prod.ext (Piece.char?_eq_some_iff.1 hc) rfl
      rw [piece_eq_char_iff.1 hp, List.flatMap_cons, ← ih.1 hcs]
    · intro h
      cases cs with
      | nil => cases h
      | cons c cs =>
        have hp := piece_eq_char_iff.2 h
        refine ⟨c, Piece.char?_eq_some_iff.2 (congrArg Prod.fst hp), ?_⟩
        exact Option.bind_eq_some_iff.2 ⟨cs, ih.2 (congrArg Prod.snd hp), rfl⟩

/-- A sequence is UTF-8 just when it is how a text is written, and then this is the text that is
read. -/
theorem text?_eq_some_iff {bytes : List UInt8} {s : String} :
    text? bytes = some s ↔ bytes = Bytes.ofText s := by
  rw [text?, Option.map_eq_some_iff, Bytes.ofText_eq]
  constructor
  · rintro ⟨cs, hcs, rfl⟩
    rw [String.toList_ofList]
    exact mapM_pieces_eq_some_iff.1 hcs
  · intro h
    exact ⟨s.toList, mapM_pieces_eq_some_iff.2 h, String.ofList_toList⟩

end Text.Utf8

end BackendMonitor
