import Mathlib.Tactic.SplitIfs
import VariableExplorer.Text.Utf8

/-!
Decoding and encoding are inverse to each other: the bytes that can be decoded are those of some
text, and they give that text.
-/

namespace VariableExplorer.Text.Utf8

theorem toList_toByteArray (bytes : List UInt8) : bytes.toByteArray.toList = bytes := by
  -- The loop counts up to the length, so the induction is on what is left of it.
  have hloop (n : Nat) : ∀ i acc, n = bytes.length - i →
      ByteArray.toList.loop bytes.toByteArray i acc = acc.reverse ++ bytes.drop i := by
    induction n with
    | zero =>
      intro i acc hn
      rw [ByteArray.toList.loop, if_neg (by rw [List.size_toByteArray]; omega),
        List.drop_eq_nil_of_le (by omega), List.append_nil]
    | succ n ih =>
      intro i acc hn
      have hi : i < bytes.length := by omega
      have hget : bytes.toByteArray.get! i = bytes[i] := by
        simp [ByteArray.get!, List.data_toByteArray, hi]
      rw [ByteArray.toList.loop, if_pos (by rwa [List.size_toByteArray]), hget,
        ih (i + 1) _ (by omega), List.drop_eq_getElem_cons hi]
      simp
  exact hloop _ 0 [] rfl

theorem encode_eq (s : String) : encode s = s.toList.flatMap String.utf8EncodeChar := by
  have hbytes : s.toByteArray = s.toList.utf8Encode := by
    rw [← String.toByteArray_ofList, String.ofList_toList]
  rw [encode, String.toUTF8, hbytes, List.utf8Encode, toList_toByteArray]

/-! ### One character -/

variable {fuel position n value : Nat} {b : UInt8} {bytes rest : List UInt8} {cs : List Char}

/-- What the first of a character's bytes tells of it, when `n` bytes follow. -/
def lead (n first : Nat) : Nat :=
  if n = 0 then first else if n = 1 then first % 32 else if n = 2 then first % 16 else first % 8

/-- The bytes of one character: a start byte and its continuation. -/
structure Begins (b : UInt8) (bytes : List UInt8) (value : Nat) (rest : List UInt8) (n : Nat) :
    Prop where
  following : following b.toNat = some n
  continued : continued (secondRange b.toNat) n (lead n b.toNat) bytes = .ok (value, rest)

theorem Begins.decodeFrom_eq (h : Begins b bytes value rest n) :
    decodeFrom (fuel + 1) position (b :: bytes) =
      (decodeFrom fuel (position + n + 1) rest).map (Char.ofNat value :: ·) := by
  have hcontinued := h.continued
  rw [lead] at hcontinued
  simp only [decodeFrom, h.following, hcontinued]
  cases decodeFrom fuel (position + n + 1) rest <;> rfl

theorem begins_of_decodeFrom (h : decodeFrom (fuel + 1) position (b :: bytes) = .ok cs) :
    ∃ value rest n, Begins b bytes value rest n := by
  simp only [decodeFrom] at h
  split at h
  · cases h
  next n hfollowing =>
    split at h
    · cases h
    next value rest hcontinued => exact ⟨value, rest, n, hfollowing, hcontinued⟩

theorem continued_eq_ok {range : Nat × Nat} {v : Nat}
    (h : continued range (n + 1) value bytes = .ok (v, rest)) : ∃ b more, bytes = b :: more ∧
      range.1 ≤ b.toNat ∧ b.toNat ≤ range.2 ∧
      continued (0x80, 0xbf) n (value * 64 + b.toNat % 64) more = .ok (v, rest) := by
  cases bytes with
  | nil => cases h
  | cons b more =>
    rw [continued] at h
    split at h
    next hrange =>
      rw [Bool.and_eq_true, decide_eq_true_eq, decide_eq_true_eq] at hrange
      split at h
      · cases h
      next hmore =>
        cases h
        exact ⟨b, more, rfl, hrange.1, hrange.2, hmore⟩
    · cases h

theorem continued_cons {range : Nat × Nat} {r : Nat × List UInt8}
    (hb : range.1 ≤ b.toNat ∧ b.toNat ≤ range.2)
    (h : continued (0x80, 0xbf) n (value * 64 + b.toNat % 64) bytes = .ok r) :
    continued range (n + 1) value (b :: bytes) = .ok r := by
  rw [continued, if_pos (by simp [hb]), h]

theorem second_iff {first x : Nat} : (secondRange first).1 ≤ x ∧ x ≤ (secondRange first).2 ↔
    0x80 ≤ x ∧ x ≤ 0xbf ∧ (first = 0xe0 → 0xa0 ≤ x) ∧ (first = 0xed → x ≤ 0x9f) ∧
      (first = 0xf0 → 0x90 ≤ x) ∧ (first = 0xf4 → x ≤ 0x8f) := by
  unfold secondRange
  split_ifs <;> dsimp only <;> omega

theorem toNat_continuation (v : Nat) : (UInt8.ofNat (v % 64 + 128)).toNat = v % 64 + 128 := by
  rw [UInt8.toNat_ofNat']
  omega

theorem continued_continuation {range : Nat × Nat} {v : Nat} {r : Nat × List UInt8}
    (hrange : range.1 ≤ v % 64 + 128 ∧ v % 64 + 128 ≤ range.2)
    (h : continued (0x80, 0xbf) n (value * 64 + v % 64) bytes = .ok r) :
    continued range (n + 1) value (UInt8.ofNat (v % 64 + 128) :: bytes) = .ok r := by
  have hb := toNat_continuation v
  refine continued_cons (by rwa [hb]) ?_
  rwa [hb, show (v % 64 + 128) % 64 = v % 64 by omega]

theorem begins_utf8EncodeChar (c : Char) (rest : List UInt8) : ∃ b bytes n,
    String.utf8EncodeChar c ++ rest = b :: bytes ∧ Begins b bytes c.toNat rest n := by
  have hvalid : c.toNat < 0xd800 ∨ 0xdfff < c.toNat ∧ c.toNat < 0x110000 := c.valid
  have hval : c.val.toNat = c.toNat := rfl
  have hall (v : Nat) : 128 ≤ v % 64 + 128 ∧ v % 64 + 128 ≤ 191 := by omega
  rw [String.utf8EncodeChar, hval]
  generalize c.toNat = v at hvalid
  -- One case for each number of bytes that a character may take.
  split
  next h1 =>
    refine ⟨_, _, 0, rfl, ?_, ?_⟩
    · rw [UInt8.toNat_ofNat', following, if_pos (by omega)]
    · rw [UInt8.toNat_ofNat', lead, if_pos rfl, Nat.mod_eq_of_lt (by omega)]
      rfl
  split
  next h1 h2 =>
    have hb : (UInt8.ofNat (v / 64 % 32 + 192)).toNat = v / 64 + 192 := by
      rw [UInt8.toNat_ofNat']
      omega
    have hvalue : lead 1 (v / 64 + 192) * 64 + v % 64 = v := by
      rw [lead, if_neg (by omega), if_pos rfl]
      omega
    refine ⟨_, _, 1, rfl, ?_, ?_⟩
    · rw [hb, following, if_neg (by omega), if_neg (by omega), if_pos (by omega)]
    · rw [hb]
      refine continued_continuation (second_iff.mpr (by omega)) ?_
      rw [hvalue]
      rfl
  split
  next h1 h2 h3 =>
    have hb : (UInt8.ofNat (v / 4096 % 16 + 224)).toNat = v / 4096 + 224 := by
      rw [UInt8.toNat_ofNat']
      omega
    have hvalue : (lead 2 (v / 4096 + 224) * 64 + v / 64 % 64) * 64 + v % 64 = v := by
      rw [lead, if_neg (by omega), if_neg (by omega), if_pos rfl]
      omega
    refine ⟨_, _, 2, rfl, ?_, ?_⟩
    · rw [hb, following, if_neg (by omega), if_neg (by omega), if_neg (by omega),
        if_pos (by omega)]
    · rw [hb]
      refine continued_continuation (second_iff.mpr (by omega))
        (continued_continuation (hall v) ?_)
      rw [hvalue]
      rfl
  next h1 h2 h3 =>
    have hb : (UInt8.ofNat (v / 262144 % 8 + 240)).toNat = v / 262144 + 240 := by
      rw [UInt8.toNat_ofNat']
      omega
    have hvalue : ((lead 3 (v / 262144 + 240) * 64 + v / 4096 % 64) * 64 + v / 64 % 64) * 64 +
        v % 64 = v := by
      rw [lead, if_neg (by omega), if_neg (by omega), if_neg (by omega)]
      omega
    refine ⟨_, _, 3, rfl, ?_, ?_⟩
    · rw [hb, following, if_neg (by omega), if_neg (by omega), if_neg (by omega),
        if_neg (by omega), if_pos (by omega)]
    · rw [hb]
      refine continued_continuation (second_iff.mpr (by omega))
        (continued_continuation (hall _) (continued_continuation (hall _) ?_))
      rw [hvalue]
      rfl

theorem continuation_eq (h : 0x80 ≤ b.toNat ∧ b.toNat ≤ 0xbf) {v : Nat}
    (hv : v % 64 = b.toNat % 64) : UInt8.ofNat (v % 64 + 128) = b := by
  rw [← UInt8.toNat_inj, toNat_continuation]
  omega

theorem start_eq {v : Nat} (h : v = b.toNat) : UInt8.ofNat v = b := by
  rw [h, UInt8.ofNat_toNat]

theorem toNat_ofNat_of_valid {v : Nat} (h : v < 0xd800 ∨ 0xdfff < v ∧ v < 0x110000) :
    (Char.ofNat v).toNat = v := by
  rw [Char.ofNat, dif_pos h]
  rfl

theorem Begins.eq_utf8EncodeChar (h : Begins b bytes value rest n) :
    b :: bytes = String.utf8EncodeChar (Char.ofNat value) ++ rest := by
  obtain ⟨hfollowing, hcontinued⟩ := h
  unfold Utf8.following at hfollowing
  -- The range of the second byte keeps out what fewer bytes would do for, and the surrogates.
  split_ifs at hfollowing with h0 h1 h2 h3 h4 <;> cases hfollowing
  · cases hcontinued
    have hvalue : lead 0 b.toNat = b.toNat := rfl
    have hc := toNat_ofNat_of_valid (v := b.toNat) (by omega)
    rw [String.utf8EncodeChar, hvalue, ← Char.toNat, hc, if_pos (by omega), start_eq rfl]
    rfl
  · obtain ⟨b₁, _, rfl, hlow, hhigh, hcontinued⟩ := continued_eq_ok hcontinued
    cases hcontinued
    have hsecond := second_iff.mp ⟨hlow, hhigh⟩
    have hvalue : lead 1 b.toNat = b.toNat % 32 := rfl
    rw [hvalue]
    generalize hv : b.toNat % 32 * 64 + b₁.toNat % 64 = v
    have hc := toNat_ofNat_of_valid (v := v) (by omega)
    rw [String.utf8EncodeChar, ← Char.toNat, hc, if_neg (by omega), if_pos (by omega),
      start_eq (b := b) (by omega), continuation_eq (b := b₁) (by omega) (by omega)]
    rfl
  · obtain ⟨b₁, _, rfl, hlow, hhigh, hcontinued⟩ := continued_eq_ok hcontinued
    obtain ⟨b₂, _, rfl, hlow', hhigh', hcontinued⟩ := continued_eq_ok hcontinued
    cases hcontinued
    have hsecond := second_iff.mp ⟨hlow, hhigh⟩
    have hvalue : lead 2 b.toNat = b.toNat % 16 := rfl
    rw [hvalue]
    dsimp only at hlow' hhigh'
    generalize hv : (b.toNat % 16 * 64 + b₁.toNat % 64) * 64 + b₂.toNat % 64 = v
    have hc := toNat_ofNat_of_valid (v := v) (by omega)
    rw [String.utf8EncodeChar, ← Char.toNat, hc, if_neg (by omega), if_neg (by omega),
      if_pos (by omega), start_eq (b := b) (by omega), continuation_eq (b := b₁) (by omega) (by omega),
      continuation_eq (b := b₂) (by omega) (by omega)]
    rfl
  · obtain ⟨b₁, _, rfl, hlow, hhigh, hcontinued⟩ := continued_eq_ok hcontinued
    obtain ⟨b₂, _, rfl, hlow', hhigh', hcontinued⟩ := continued_eq_ok hcontinued
    obtain ⟨b₃, _, rfl, hlow'', hhigh'', hcontinued⟩ := continued_eq_ok hcontinued
    cases hcontinued
    have hsecond := second_iff.mp ⟨hlow, hhigh⟩
    have hvalue : lead 3 b.toNat = b.toNat % 8 := rfl
    rw [hvalue]
    dsimp only at hlow' hhigh' hlow'' hhigh''
    generalize hv :
      ((b.toNat % 8 * 64 + b₁.toNat % 64) * 64 + b₂.toNat % 64) * 64 + b₃.toNat % 64 = v
    have hc := toNat_ofNat_of_valid (v := v) (by omega)
    rw [String.utf8EncodeChar, ← Char.toNat, hc, if_neg (by omega), if_neg (by omega),
      if_neg (by omega), start_eq (b := b) (by omega),
      continuation_eq (b := b₁) (by omega) (by omega),
      continuation_eq (b := b₂) (by omega) (by omega),
      continuation_eq (b := b₃) (by omega) (by omega)]
    rfl

/-! ### Whole texts -/

theorem length_le_flatMap (cs : List Char) :
    cs.length ≤ (cs.flatMap String.utf8EncodeChar).length := by
  induction cs with
  | nil => exact Nat.le_refl 0
  | cons c cs ih =>
    have hsize := c.utf8Size_pos
    rw [List.flatMap_cons, List.length_append, String.length_utf8EncodeChar, List.length_cons]
    omega

theorem decodeFrom_flatMap (cs : List Char) (h : cs.length ≤ fuel) (position : Nat) :
    decodeFrom (fuel + 1) position (cs.flatMap String.utf8EncodeChar) = .ok cs := by
  induction cs generalizing fuel position with
  | nil => rfl
  | cons c cs ih =>
    obtain ⟨fuel, rfl⟩ := Nat.exists_eq_add_of_le' (Nat.lt_of_lt_of_le (Nat.succ_pos _) h)
    obtain ⟨b, bytes, n, hbytes, hbegins⟩ :=
      begins_utf8EncodeChar c (cs.flatMap String.utf8EncodeChar)
    rw [List.flatMap_cons, hbytes, hbegins.decodeFrom_eq, ih (by simpa using h), Char.ofNat_toNat]
    rfl

theorem eq_flatMap_of_decodeFrom (hfuel : bytes.length < fuel)
    (h : decodeFrom fuel position bytes = .ok cs) : bytes = cs.flatMap String.utf8EncodeChar := by
  induction fuel generalizing position bytes cs with
  | zero => omega
  | succ fuel ih =>
    cases bytes with
    | nil =>
      cases h
      rfl
    | cons b bytes =>
      obtain ⟨value, rest, n, hbegins⟩ := begins_of_decodeFrom h
      have hbytes := hbegins.eq_utf8EncodeChar
      rw [hbegins.decodeFrom_eq] at h
      cases hrest : decodeFrom fuel (position + n + 1) rest with
      | error f =>
        rw [hrest] at h
        cases h
      | ok more =>
        rw [hrest] at h
        cases h
        have hlength := congrArg List.length hbytes
        rw [List.length_append, List.length_cons, String.length_utf8EncodeChar] at hlength
        have hsize := (Char.ofNat value).utf8Size_pos
        rw [List.flatMap_cons, ← ih (by simp at hfuel; omega) hrest, hbytes]

/-- The bytes that are decoded to a text are those that the text is encoded to. -/
theorem decode_eq_ok_iff {s : String} : decode bytes = .ok s ↔ bytes = encode s := by
  rw [encode_eq, decode]
  constructor
  · intro h
    cases hcs : decodeFrom (bytes.length + 1) 0 bytes with
    | error f =>
      rw [hcs] at h
      cases h
    | ok cs =>
      rw [hcs] at h
      cases h
      rw [String.toList_ofList]
      exact eq_flatMap_of_decodeFrom (Nat.lt_succ_self _) hcs
  · rintro rfl
    rw [decodeFrom_flatMap _ (length_le_flatMap _)]
    exact congrArg Except.ok String.ofList_toList

end VariableExplorer.Text.Utf8
