import CtorLeak.Text.ModifiedUtf8

/-!
# Texts are read back

Decoding undoes encoding, in both layers of modified UTF-8: characters and 16-bit units
(`Utf16.decode?_encode`), units and bytes (`ModifiedUtf8.units?_flatMap_encodeUnit`).  Together:

    ModifiedUtf8.decode? (ModifiedUtf8.encode text) = some text      (ModifiedUtf8.decode?_encode)
-/

namespace CtorLeak

/-! ## Characters and units -/

namespace Utf16

/-- No character has the number of a surrogate, and none is above 10FFFF. -/
theorem toNat_char_cases (c : Char) :
    c.toNat < 0xD800 ∨ 0xE000 ≤ c.toNat ∧ c.toNat < 0x110000 := by
  rcases c.valid with h | ⟨h, h'⟩
  · exact .inl h
  · exact .inr ⟨h, h'⟩

theorem isHighSurrogate_ofNat {n : Nat} (h : n < 0x10000) :
    isHighSurrogate (UInt16.ofNat n) = true ↔ 0xD800 ≤ n ∧ n < 0xDC00 := by
  simp only [isHighSurrogate, Bool.and_eq_true, decide_eq_true_eq, UInt16.le_iff_toNat_le,
    UInt16.lt_iff_toNat_lt, UInt16.toNat_ofNat_of_lt' h]
  rfl

theorem isLowSurrogate_ofNat {n : Nat} (h : n < 0x10000) :
    isLowSurrogate (UInt16.ofNat n) = true ↔ 0xDC00 ≤ n ∧ n < 0xE000 := by
  simp only [isLowSurrogate, Bool.and_eq_true, decide_eq_true_eq, UInt16.le_iff_toNat_le,
    UInt16.lt_iff_toNat_lt, UInt16.toNat_ofNat_of_lt' h]
  rfl

theorem decode?_single {u : UInt16} (hhigh : ¬ isHighSurrogate u = true)
    (hlow : ¬ isLowSurrogate u = true) (rest : List UInt16) :
    decode? (u :: rest) = (Char.ofNat u.toNat :: ·) <$> decode? rest := by
  rw [decode?.eq_def]
  simp only [if_neg hhigh, if_neg hlow]

theorem decode?_pair {u v : UInt16} (hhigh : isHighSurrogate u = true)
    (hlow : isLowSurrogate v = true) (rest : List UInt16) :
    decode? (u :: v :: rest) = (pairChar u v :: ·) <$> decode? rest := by
  rw [decode?.eq_def]
  simp only [if_pos hhigh, if_pos hlow]

/-- A character is taken back from its units, whatever follows them. -/
theorem decode?_encodeChar_append (c : Char) (rest : List UInt16) :
    decode? (encodeChar c ++ rest) = (c :: ·) <$> decode? rest := by
  have hc := toNat_char_cases c
  unfold encodeChar
  by_cases hlt : c.toNat < 0x10000
  · have hhigh : ¬ isHighSurrogate (UInt16.ofNat c.toNat) = true := by
      rw [isHighSurrogate_ofNat hlt]
      omega
    have hlow : ¬ isLowSurrogate (UInt16.ofNat c.toNat) = true := by
      rw [isLowSurrogate_ofNat hlt]
      omega
    rw [if_pos hlt, List.singleton_append, decode?_single hhigh hlow,
      UInt16.toNat_ofNat_of_lt' hlt, Char.ofNat_toNat]
  · have hhigh_lt : 0xD800 + (c.toNat - 0x10000) / 0x400 < 0x10000 := by omega
    have hlow_lt : 0xDC00 + (c.toNat - 0x10000) % 0x400 < 0x10000 := by omega
    have hhigh := (isHighSurrogate_ofNat hhigh_lt).2 (by omega)
    have hlow := (isLowSurrogate_ofNat hlow_lt).2 (by omega)
    have hsum : 0x10000 + (0xD800 + (c.toNat - 0x10000) / 0x400 - 0xD800) * 0x400 +
        (0xDC00 + (c.toNat - 0x10000) % 0x400 - 0xDC00) = c.toNat := by omega
    rw [if_neg hlt]
    refine (decode?_pair hhigh hlow rest).trans ?_
    rw [pairChar, UInt16.toNat_ofNat_of_lt' hhigh_lt, UInt16.toNat_ofNat_of_lt' hlow_lt, hsum,
      Char.ofNat_toNat]

theorem decode?_encode (cs : List Char) : decode? (encode cs) = some cs := by
  unfold encode
  induction cs with
  | nil => rfl
  | cons c cs ih =>
    rw [List.flatMap_cons, decode?_encodeChar_append, ih]
    rfl

end Utf16

/-! ## Units and bytes -/

namespace ModifiedUtf8

theorem toNat_byte {n : Nat} (h : n < 0x100) : (UInt8.ofNat n).toNat = n :=
  UInt8.toNat_ofNat_of_lt' h

theorem byte_lt_iff {n high : Nat} (hn : n < 0x100) (hhigh : high < 0x100) :
    UInt8.ofNat n < UInt8.ofNat high ↔ n < high :=
  UInt8.ofNat_lt_iff_lt hn hhigh

/-- A number on one byte is compared as a number. -/
theorem byte_between (low high : Nat) {n : Nat} (hhigh : high < 0x100) (hn : low ≤ n ∧ n < high) :
    (UInt8.ofNat low ≤ UInt8.ofNat n && UInt8.ofNat n < UInt8.ofNat high) = true := by
  have hlow : UInt8.ofNat low ≤ UInt8.ofNat n :=
    (UInt8.ofNat_le_iff_le (Nat.lt_trans (Nat.lt_of_le_of_lt hn.1 hn.2) hhigh)
      (Nat.lt_trans hn.2 hhigh)).2 hn.1
  rw [Bool.and_eq_true, decide_eq_true_eq, decide_eq_true_eq,
    byte_lt_iff (Nat.lt_trans hn.2 hhigh) hhigh]
  exact ⟨hlow, hn.2⟩

theorem isContinuation_byte (n : Nat) : isContinuation (UInt8.ofNat (0x80 + n % 0x40)) = true :=
  byte_between 0x80 0xC0 (by decide) (by omega)

theorem units?_one {a : UInt8} (ha : a < 0x80) (rest : List UInt8) :
    units? (a :: rest) = (a.toUInt16 :: ·) <$> units? rest := by
  rw [units?.eq_def]
  simp only [if_pos ha]

theorem units?_two {a b : UInt8} (ha : (0xC0 ≤ a && a < 0xE0) = true)
    (hb : isContinuation b = true) (rest : List UInt8) :
    units? (a :: b :: rest) = (unit2 a b :: ·) <$> units? rest := by
  have hone : ¬ a < 0x80 := by
    grind
  rw [units?.eq_def]
  simp only [if_neg hone, if_pos ha, if_pos hb]

theorem units?_three {a b c : UInt8} (ha : (0xE0 ≤ a && a < 0xF0) = true)
    (hb : isContinuation b = true) (hc : isContinuation c = true) (rest : List UInt8) :
    units? (a :: b :: c :: rest) = (unit3 a b c :: ·) <$> units? rest := by
  have hone : ¬ a < 0x80 := by
    grind
  have htwo : ¬ (0xC0 ≤ a && a < 0xE0) = true := by
    grind
  rw [units?.eq_def]
  simp only [if_neg hone, if_neg htwo, if_pos ha, hb, hc, Bool.and_self, if_true]

theorem unit2_encode {n : Nat} (h : n < 0x800) :
    unit2 (UInt8.ofNat (0xC0 + n / 0x40)) (UInt8.ofNat (0x80 + n % 0x40)) = UInt16.ofNat n := by
  have hvalue : (0xC0 + n / 0x40) % 0x20 * 0x40 + (0x80 + n % 0x40) % 0x40 = n := by omega
  rw [unit2, toNat_byte (by omega), toNat_byte (by omega), hvalue]

theorem unit3_encode {n : Nat} (h : n < 0x10000) :
    unit3 (UInt8.ofNat (0xE0 + n / 0x1000)) (UInt8.ofNat (0x80 + n / 0x40 % 0x40))
      (UInt8.ofNat (0x80 + n % 0x40)) = UInt16.ofNat n := by
  have hvalue : (0xE0 + n / 0x1000) % 0x10 * 0x1000 + (0x80 + n / 0x40 % 0x40) % 0x40 * 0x40 +
      (0x80 + n % 0x40) % 0x40 = n := by omega
  rw [unit3, toNat_byte (by omega), toNat_byte (by omega),
    toNat_byte (by omega), hvalue]

/-- A unit is taken back from its bytes, whatever follows them. -/
theorem units?_encodeUnit_append (u : UInt16) (rest : List UInt8) :
    units? (encodeUnit u ++ rest) = (u :: ·) <$> units? rest := by
  have hu : u.toNat < 0x10000 := u.toNat_lt
  unfold encodeUnit
  dsimp only
  -- a zero unit fails the first test and is written on two bytes
  by_cases hone : (decide (0 < u.toNat) && decide (u.toNat < 0x80)) = true
  · have hlt : u.toNat < 0x80 := of_decide_eq_true (Bool.and_eq_true_iff.1 hone).2
    have hbyte : (UInt8.ofNat u.toNat).toUInt16 = u := by
      rw [← UInt16.toNat_inj, UInt8.toNat_toUInt16, toNat_byte (by omega)]
    rw [if_pos hone]
    refine (units?_one ((byte_lt_iff (by omega) (by decide)).2 hlt) rest).trans ?_
    rw [hbyte]
  · rw [if_neg hone]
    by_cases htwo : u.toNat < 0x800
    · rw [if_pos htwo]
      refine (units?_two (byte_between 0xC0 0xE0 (by decide) (by omega)) (isContinuation_byte _)
        rest).trans ?_
      rw [unit2_encode htwo, UInt16.ofNat_toNat]
    · rw [if_neg htwo]
      refine (units?_three (byte_between 0xE0 0xF0 (by decide) (by omega)) (isContinuation_byte _)
        (isContinuation_byte _) rest).trans ?_
      rw [unit3_encode hu, UInt16.ofNat_toNat]

theorem units?_flatMap_encodeUnit (us : List UInt16) :
    units? (us.flatMap encodeUnit) = some us := by
  induction us with
  | nil => rfl
  | cons u us ih =>
    rw [List.flatMap_cons, units?_encodeUnit_append, ih]
    rfl

theorem decode?_encode (text : String) : decode? (encode text) = some text := by
  rw [decode?, encode, units?_flatMap_encodeUnit]
  simp [Utf16.decode?_encode]

end ModifiedUtf8

end CtorLeak
