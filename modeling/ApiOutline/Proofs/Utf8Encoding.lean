import ApiOutline.Text.Utf8

/-!
# UTF-8 is read back

The bytes of a text are read back as that text (`decode_encode`). The decoder takes a character byte by byte, so
there is one fact for its first byte, which opens it, and one for each kind of further byte: one that leaves
it open and one that completes it.
-/

namespace ApiOutline.Text.Utf8

variable {pos n d more : Nat} {b : UInt8} {p : Partial} {c : Char} {rest : Bytes}

/-- A number below 256 is its own byte. -/
theorem toNat_toUInt8 (h : n < 256) : n.toUInt8.toNat = n := by
  simpa using h

/-- The first byte of several opens a character. -/
theorem decodeFrom_opened (h : begin pos b = some (.inr p)) :
    decodeFrom pos none (b :: rest) = decodeFrom (pos + 1) (some p) rest := by
  rw [decodeFrom]
  simp only [h]

/-- A further byte within the limits carries six bits. -/
theorem Partial.fits (hd : d < 64) (hlow : p.low.toNat ≤ 0x80 + d) (hhigh : 0x80 + d ≤ p.high.toNat) :
    (0x80 + d).toUInt8.toNat - 0x80 = d ∧ p.low ≤ (0x80 + d).toUInt8 ∧ (0x80 + d).toUInt8 ≤ p.high := by
  have hbyte : (0x80 + d).toUInt8.toNat = 0x80 + d := toNat_toUInt8 (by omega)
  rw [UInt8.le_iff_toNat_le, UInt8.le_iff_toNat_le, hbyte]
  exact ⟨by omega, hlow, hhigh⟩

/-- A further byte that is not the last one is added to the open character. -/
theorem decodeFrom_continued (hmore : p.more = more + 1) (hd : d < 64) (hlow : p.low.toNat ≤ 0x80 + d)
    (hhigh : 0x80 + d ≤ p.high.toNat) :
    decodeFrom pos (some p) ((0x80 + d).toUInt8 :: rest) =
      decodeFrom (pos + 1) (some ⟨p.start, p.lead, p.value * 64 + d, more, 0x80, 0xBF⟩) rest := by
  obtain ⟨hbits, hlimits⟩ := Partial.fits hd hlow hhigh
  rw [decodeFrom]
  simp only [if_pos hlimits, Partial.extend, hmore, hbits]

/-- The last byte completes the open character. -/
theorem decodeFrom_completed (hmore : p.more = 0) (hd : d < 64) (hlow : p.low.toNat ≤ 0x80 + d)
    (hhigh : 0x80 + d ≤ p.high.toNat) :
    decodeFrom pos (some p) ((0x80 + d).toUInt8 :: rest) =
      (decodeFrom (pos + 1) none rest).map (Char.ofNat (p.value * 64 + d) :: ·) := by
  obtain ⟨hbits, hlimits⟩ := Partial.fits hd hlow hhigh
  rw [decodeFrom]
  simp only [if_pos hlimits, Partial.extend, hmore, hbits]

/-- The first of two bytes. -/
theorem begin_two (hlow : 2 ≤ d) (hhigh : d < 32) :
    begin pos (0xC0 + d).toUInt8 = some (.inr ⟨pos, (0xC0 + d).toUInt8, d, 0, 0x80, 0xBF⟩) := by
  have hbyte : (0xC0 + d).toUInt8.toNat = 0xC0 + d := toNat_toUInt8 (by omega)
  simp only [begin, UInt8.lt_iff_toNat_lt, hbyte, UInt8.toNat_ofNat]
  rw [if_neg (by omega), if_neg (by omega), if_pos (by omega), Nat.add_sub_cancel_left]

/-- The first of three bytes. Its least value asks for a higher second byte, and surrogates are left out. -/
theorem begin_three (hhigh : d < 16) :
    begin pos (0xE0 + d).toUInt8 = some (.inr ⟨pos, (0xE0 + d).toUInt8, d, 1,
      if d = 0 then 0xA0 else 0x80, if d = 13 then 0x9F else 0xBF⟩) := by
  have hfirst : 0xE0 + d = 0xE0 ↔ d = 0 := by omega
  have hlast : 0xE0 + d = 0xED ↔ d = 13 := by omega
  have hbyte : (0xE0 + d).toUInt8.toNat = 0xE0 + d := toNat_toUInt8 (by omega)
  simp only [begin, UInt8.lt_iff_toNat_lt, ← UInt8.toNat_inj, hbyte, UInt8.toNat_ofNat,
    hfirst, hlast]
  rw [if_neg (by omega), if_neg (by omega), if_neg (by omega), if_pos (by omega), Nat.add_sub_cancel_left]

/-- The first of four bytes, which stop at the last code point. -/
theorem begin_four (hhigh : d < 5) :
    begin pos (0xF0 + d).toUInt8 = some (.inr ⟨pos, (0xF0 + d).toUInt8, d, 2,
      if d = 0 then 0x90 else 0x80, if d = 4 then 0x8F else 0xBF⟩) := by
  have hfirst : 0xF0 + d = 0xF0 ↔ d = 0 := by omega
  have hlast : 0xF0 + d = 0xF4 ↔ d = 4 := by omega
  have hbyte : (0xF0 + d).toUInt8.toNat = 0xF0 + d := toNat_toUInt8 (by omega)
  simp only [begin, UInt8.lt_iff_toNat_lt, ← UInt8.toNat_inj, hbyte, UInt8.toNat_ofNat,
    hfirst, hlast]
  rw [if_neg (by omega), if_neg (by omega), if_neg (by omega), if_neg (by omega), if_pos (by omega),
    Nat.add_sub_cancel_left]

/-- A character is read back from its bytes, whatever follows. -/
theorem decodeFrom_encodeChar (pos : Nat) (c : Char) (rest : Bytes) :
    decodeFrom pos none (encodeChar c ++ rest) =
      (decodeFrom (pos + (encodeChar c).length) none rest).map (c :: ·) := by
  -- The code point is that of a character, so no surrogate, and each case is that of its length.
  have hvalid : c.toNat < 0xD800 ∨ 0xDFFF < c.toNat ∧ c.toNat < 0x110000 := c.valid
  unfold encodeChar
  simp only [Nat.div_one]
  split
  · next hone =>
    have hbegin : begin pos c.toNat.toUInt8 = some (.inl c) := by
      have hbyte : c.toNat.toUInt8.toNat = c.toNat := toNat_toUInt8 (by omega)
      simp only [begin, UInt8.lt_iff_toNat_lt, hbyte, UInt8.toNat_ofNat]
      rw [if_pos hone, Char.ofNat_toNat]
    rw [List.singleton_append, decodeFrom]
    simp only [hbegin, List.length_singleton]
  split
  · next htwo =>
    rw [List.cons_append, List.singleton_append, decodeFrom_opened (begin_two (by omega) (by omega)),
      decodeFrom_completed rfl (by omega) (by simp) (by simp; omega)]
    -- The bits of the bytes make up the code point.
    have hvalue : c.toNat / 64 * 64 + c.toNat % 64 = c.toNat := by omega
    simp only [hvalue, Char.ofNat_toNat, List.length_cons, List.length_nil, Nat.add_assoc]
  split
  · next hthree =>
    simp only [List.cons_append, List.nil_append]
    -- The second byte keeps out what two bytes can say, and the surrogates.
    have hlow : (if c.toNat / 4096 = 0 then 0xA0 else 0x80 : UInt8).toNat ≤ 0x80 + c.toNat / 64 % 64 := by
      split
      · show 0xA0 ≤ _
        omega
      · exact Nat.le_add_right 0x80 _
    have hhigh : 0x80 + c.toNat / 64 % 64 ≤ (if c.toNat / 4096 = 13 then 0x9F else 0xBF : UInt8).toNat := by
      split
      · show _ ≤ 0x9F
        omega
      · show _ ≤ 0xBF
        omega
    rw [decodeFrom_opened (begin_three (by omega)), decodeFrom_continued rfl (by omega) hlow hhigh,
      decodeFrom_completed rfl (by omega) (by simp) (by simp; omega)]
    have hvalue : (c.toNat / 4096 * 64 + c.toNat / 64 % 64) * 64 + c.toNat % 64 = c.toNat := by omega
    simp only [hvalue, Char.ofNat_toNat, List.length_cons, List.length_nil, Nat.add_assoc]
  · simp only [List.cons_append, List.nil_append]
    -- The second byte keeps out what three bytes can say, and what lies beyond the last code point.
    have hlow : (if c.toNat / 262144 = 0 then 0x90 else 0x80 : UInt8).toNat ≤
        0x80 + c.toNat / 4096 % 64 := by
      split
      · show 0x90 ≤ _
        omega
      · exact Nat.le_add_right 0x80 _
    have hhigh : 0x80 + c.toNat / 4096 % 64 ≤
        (if c.toNat / 262144 = 4 then 0x8F else 0xBF : UInt8).toNat := by
      split
      · show _ ≤ 0x8F
        omega
      · show _ ≤ 0xBF
        omega
    rw [decodeFrom_opened (begin_four (by omega)), decodeFrom_continued rfl (by omega) hlow hhigh,
      decodeFrom_continued rfl (by omega) (by simp) (by simp; omega),
      decodeFrom_completed rfl (by omega) (by simp) (by simp; omega)]
    have hvalue : ((c.toNat / 262144 * 64 + c.toNat / 4096 % 64) * 64 + c.toNat / 64 % 64) * 64 +
        c.toNat % 64 = c.toNat := by omega
    simp only [hvalue, Char.ofNat_toNat, List.length_cons, List.length_nil, Nat.add_assoc]

/-- The bytes of a text are read back. -/
theorem decode_encode (cs : List Char) : decode (encode cs) = .ok cs := by
  have hfrom : ∀ pos, decodeFrom pos none (encode cs) = .ok cs := by
    induction cs with
    | nil => exact fun pos => rfl
    | cons c cs ih =>
      intro pos
      rw [encode, List.flatMap_cons, decodeFrom_encodeChar, ← encode, ih]
      rfl
  exact hfrom 0

end ApiOutline.Text.Utf8
