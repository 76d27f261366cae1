import CtorLeak.Proofs.Bytes.Format
import CtorLeak.Proofs.Text.ModifiedUtf8

/-!
# The language of modified UTF-8

What is read as a text, and what is refused, said without the decoder.  Bytes are split into groups
of bits (`Group`); the values of the groups are 16-bit units; the units are the UTF-16 encoding of
the text.  Each layer has one way to go wrong:

* somewhere no group starts (`NoGroup`),
* a surrogate stands without its other half (`Utf16.LoneSurrogate`).

The decoder answers with a text exactly if the bytes are a row of groups for its units, and with
nothing exactly if one of the two happens (`decode?_language`).
-/

namespace CtorLeak

/-! ## Units and texts -/

namespace Utf16

theorem toNat_charOfNat {n : Nat} (h : n.isValidChar) : (Char.ofNat n).toNat = n := by
  unfold Char.ofNat
  rw [dif_pos h]
  rfl

theorem isHighSurrogate_iff (u : UInt16) :
    isHighSurrogate u = true ↔ 0xD800 ≤ u.toNat ∧ u.toNat < 0xDC00 := by
  have h := isHighSurrogate_ofNat u.toNat_lt
  rwa [UInt16.ofNat_toNat] at h

theorem isLowSurrogate_iff (u : UInt16) :
    isLowSurrogate u = true ↔ 0xDC00 ≤ u.toNat ∧ u.toNat < 0xE000 := by
  have h := isLowSurrogate_ofNat u.toNat_lt
  rwa [UInt16.ofNat_toNat] at h

theorem encodeChar_single {u : UInt16} (hhigh : ¬ isHighSurrogate u = true)
    (hlow : ¬ isLowSurrogate u = true) : encodeChar (Char.ofNat u.toNat) = [u] := by
  rw [isHighSurrogate_iff] at hhigh
  rw [isLowSurrogate_iff] at hlow
  have hlt : u.toNat < 0x10000 := u.toNat_lt
  have hvalid : u.toNat.isValidChar := by
    unfold Nat.isValidChar
    omega
  rw [encodeChar, toNat_charOfNat hvalid, if_pos hlt, UInt16.ofNat_toNat]

theorem encodeChar_pair {u v : UInt16} (hu : isHighSurrogate u = true)
    (hv : isLowSurrogate v = true) : encodeChar (pairChar u v) = [u, v] := by
  rw [isHighSurrogate_iff] at hu
  rw [isLowSurrogate_iff] at hv
  have hvalid : (0x10000 + (u.toNat - 0xD800) * 0x400 + (v.toNat - 0xDC00)).isValidChar := by
    unfold Nat.isValidChar
    omega
  have hhigh : 0xD800 + (0x10000 + (u.toNat - 0xD800) * 0x400 + (v.toNat - 0xDC00) - 0x10000) /
      0x400 = u.toNat := by omega
  have hlow : 0xDC00 + (0x10000 + (u.toNat - 0xD800) * 0x400 + (v.toNat - 0xDC00) - 0x10000) %
      0x400 = v.toNat := by omega
  rw [encodeChar, pairChar, toNat_charOfNat hvalid, if_neg (by omega)]
  dsimp only
  rw [hhigh, hlow, UInt16.ofNat_toNat, UInt16.ofNat_toNat]

/-- Units are read as a text exactly if they are its units. -/
theorem decode?_eq_some_iff (us : List UInt16) (cs : List Char) :
    decode? us = some cs ↔ us = encode cs := by
  refine ⟨fun h => ?_, fun h => h ▸ decode?_encode cs⟩
  fun_induction decode? us generalizing cs with
  | case1 =>
    cases h
    rfl
  | case2 u hu => cases h
  | case3 u hu v rest hv ih =>
    obtain ⟨cs', hcs', rfl⟩ := Option.map_eq_some_iff.1 h
    rw [encode, List.flatMap_cons, encodeChar_pair hu hv, ih cs' hcs']
    rfl
  | case4 u hu v rest hv => cases h
  | case5 u rest hhigh hlow => cases h
  | case6 u rest hhigh hlow ih =>
    obtain ⟨cs', hcs', rfl⟩ := Option.map_eq_some_iff.1 h
    rw [encode, List.flatMap_cons, encodeChar_single hhigh hlow, ih cs' hcs']
    rfl

/-! ## Lone surrogates -/

/-- Position `i` holds a high surrogate. -/
def HighAt (us : List UInt16) (i : Nat) : Prop := ∃ u, us[i]? = some u ∧ isHighSurrogate u = true

/-- Position `i` holds a low surrogate. -/
def LowAt (us : List UInt16) (i : Nat) : Prop := ∃ u, us[i]? = some u ∧ isLowSurrogate u = true

/-- A surrogate stands without its other half. -/
inductive LoneSurrogate (us : List UInt16) : Prop where
  | high (i : Nat) (h : HighAt us i) (hnext : ¬ LowAt us (i + 1))
  | low (i : Nat) (h : LowAt us i) (hprevious : ∀ j, i = j + 1 → ¬ HighAt us j)

theorem not_low_of_high {u : UInt16} (h : isHighSurrogate u = true) :
    ¬ isLowSurrogate u = true := by
  rw [isHighSurrogate_iff] at h
  rw [isLowSurrogate_iff]
  omega

@[simp] theorem highAt_zero (u : UInt16) (us : List UInt16) :
    HighAt (u :: us) 0 ↔ isHighSurrogate u = true := by
  simp [HighAt]

@[simp] theorem lowAt_zero (u : UInt16) (us : List UInt16) :
    LowAt (u :: us) 0 ↔ isLowSurrogate u = true := by
  simp [LowAt]

@[simp] theorem highAt_succ (u : UInt16) (us : List UInt16) (i : Nat) :
    HighAt (u :: us) (i + 1) ↔ HighAt us i := by
  simp [HighAt]

@[simp] theorem lowAt_succ (u : UInt16) (us : List UInt16) (i : Nat) :
    LowAt (u :: us) (i + 1) ↔ LowAt us i := by
  simp [LowAt]

/-- Nothing pairs with a unit that is no surrogate. -/
theorem loneSurrogate_single {u : UInt16} (hhigh : ¬ isHighSurrogate u = true)
    (hlow : ¬ isLowSurrogate u = true) (us : List UInt16) :
    LoneSurrogate (u :: us) ↔ LoneSurrogate us := by
  constructor
  · rintro (⟨i, h, hnext⟩ | ⟨i, h, hprevious⟩)
    · cases i with
      | zero => exact absurd ((highAt_zero u us).1 h) hhigh
      | succ i => exact .high i (by simpa using h) (by simpa using hnext)
    · cases i with
      | zero => exact absurd ((lowAt_zero u us).1 h) hlow
      | succ i =>
        refine .low i (by simpa using h) ?_
        rintro j rfl
        simpa using hprevious (j + 1) rfl
  · rintro (⟨i, h, hnext⟩ | ⟨i, h, hprevious⟩)
    · exact .high (i + 1) (by simpa using h) (by simpa using hnext)
    · refine .low (i + 1) (by simpa using h) ?_
      rintro j hj
      cases j with
      | zero => simpa using hhigh
      | succ j => simpa using hprevious j (by omega)

/-- The halves of a pair have each other. -/
theorem loneSurrogate_pair {u v : UInt16} (hu : isHighSurrogate u = true)
    (hv : isLowSurrogate v = true) (us : List UInt16) :
    LoneSurrogate (u :: v :: us) ↔ LoneSurrogate us := by
  have hulow : ¬ isLowSurrogate u = true := not_low_of_high hu
  have hvhigh : ¬ isHighSurrogate v = true := fun h => not_low_of_high h hv
  constructor
  · rintro (⟨i, h, hnext⟩ | ⟨i, h, hprevious⟩)
    · rcases i with _ | _ | i
      · exact absurd (by simpa using hv) hnext
      · exact absurd (by simpa using h) hvhigh
      · exact .high i (by simpa using h) (by simpa using hnext)
    · rcases i with _ | _ | i
      · exact absurd (by simpa using h) hulow
      · exact absurd (by simpa using hu) (hprevious 0 rfl)
      · refine .low i (by simpa using h) ?_
        rintro j rfl
        simpa using hprevious (j + 2) rfl
  · rintro (⟨i, h, hnext⟩ | ⟨i, h, hprevious⟩)
    · exact .high (i + 2) (by simpa using h) (by simpa using hnext)
    · refine .low (i + 2) (by simpa using h) ?_
      intro j hj
      rcases j with _ | _ | j
      · omega
      · simpa using hvhigh
      · simpa using hprevious j (by omega)

/-- Units are refused exactly if a surrogate among them stands alone. -/
theorem decode?_eq_none_iff (us : List UInt16) : decode? us = none ↔ LoneSurrogate us := by
  fun_induction decode? us with
  | case1 =>
    refine iff_of_false nofun ?_
    rintro (⟨i, ⟨u, hu, -⟩, -⟩ | ⟨i, ⟨u, hu, -⟩, -⟩) <;> cases hu
  | case2 u hu =>
    refine iff_of_true rfl (.high 0 ((highAt_zero u []).2 hu) ?_)
    rintro ⟨v, hv, -⟩
    cases hv
  | case3 u hu v rest hv ih =>
    rw [loneSurrogate_pair hu hv, ← ih]
    exact Option.map_eq_none_iff
  | case4 u hu v rest hv =>
    exact iff_of_true rfl (.high 0 ((highAt_zero u _).2 hu) (by simpa using hv))
  | case5 u rest hhigh hlow =>
    exact iff_of_true rfl (.low 0 ((lowAt_zero u rest).2 hlow) nofun)
  | case6 u rest hhigh hlow ih =>
    rw [loneSurrogate_single hhigh hlow, ← ih]
    exact Option.map_eq_none_iff

end Utf16

/-! ## Bytes and bits -/

namespace ModifiedUtf8

/-- The byte `0xxxxxxx`. -/
def single (x : BitVec 7) : UInt8 := .ofBitVec (0#1 ++ x)

/-- The byte `110xxxxx`. -/
def leadOfTwo (x : BitVec 5) : UInt8 := .ofBitVec (0b110#3 ++ x)

/-- The byte `1110xxxx`. -/
def leadOfThree (x : BitVec 4) : UInt8 := .ofBitVec (0b1110#4 ++ x)

/-- The byte `10xxxxxx`. -/
def continuation (x : BitVec 6) : UInt8 := .ofBitVec (0b10#2 ++ x)

/-- The unit whose bits are those that the bytes of a group leave free. -/
inductive Group : UInt16 → List UInt8 → Prop where
  | one (x : BitVec 7) : Group (.ofBitVec (x.setWidth 16)) [single x]
  | two (x : BitVec 5) (y : BitVec 6) :
      Group (.ofBitVec ((x ++ y).setWidth 16)) [leadOfTwo x, continuation y]
  | three (x : BitVec 4) (y z : BitVec 6) :
      Group (.ofBitVec (x ++ y ++ z)) [leadOfThree x, continuation y, continuation z]

section Bits

variable {m n : Nat}

theorem toNat_append (x : BitVec m) (y : BitVec n) :
    (x ++ y).toNat = x.toNat <<< n + y.toNat := by
  rw [BitVec.toNat_append, Nat.shiftLeft_add_eq_or_of_lt y.isLt]

theorem toNat_single (x : BitVec 7) : (single x).toNat = x.toNat := by
  rw [single, UInt8.toNat_ofBitVec, toNat_append]
  exact Nat.zero_add _

theorem toNat_leadOfTwo (x : BitVec 5) : (leadOfTwo x).toNat = 0xC0 + x.toNat := by
  rw [leadOfTwo, UInt8.toNat_ofBitVec, toNat_append]
  rfl

theorem toNat_leadOfThree (x : BitVec 4) : (leadOfThree x).toNat = 0xE0 + x.toNat := by
  rw [leadOfThree, UInt8.toNat_ofBitVec, toNat_append]
  rfl

theorem toNat_continuation (x : BitVec 6) : (continuation x).toNat = 0x80 + x.toNat := by
  rw [continuation, UInt8.toNat_ofBitVec, toNat_append]
  rfl

/-- The bytes from `low` up to `high` are those that have the bits of `low` in front, if there is
room for just `n` bits between the two. -/
theorem between_iff {low high : UInt8} {byte : BitVec n → UInt8}
    (hbyte : ∀ x, (byte x).toNat = low.toNat + x.toNat)
    (hroom : ∀ k, low.toNat + k < high.toNat ↔ (BitVec.ofNat n k).toNat = k) (a : UInt8) :
    (low ≤ a && a < high) = true ↔ ∃ x, a = byte x := by
  rw [Bool.and_eq_true, decide_eq_true_eq, decide_eq_true_eq, UInt8.le_iff_toNat_le,
    UInt8.lt_iff_toNat_lt]
  constructor
  · rintro ⟨hle, hlt⟩
    refine ⟨BitVec.ofNat n (a.toNat - low.toNat), UInt8.toNat_inj.1 ?_⟩
    rw [hbyte, (hroom _).1 (by omega)]
    omega
  · rintro ⟨x, rfl⟩
    have hlt := (hroom x.toNat).2 (by rw [BitVec.ofNat_toNat, BitVec.setWidth_eq])
    rw [hbyte]
    omega

end Bits

theorem isSingle_iff (a : UInt8) : (0 ≤ a && a < 0x80) = true ↔ ∃ x, a = single x := by
  refine between_iff (fun x => ?_) (fun k => ?_) a
  · rw [toNat_single]
    exact (Nat.zero_add _).symm
  · rw [BitVec.toNat_ofNat]
    show 0 + k < 128 ↔ k % 128 = k
    omega

theorem isLeadOfTwo_iff (a : UInt8) : (0xC0 ≤ a && a < 0xE0) = true ↔ ∃ x, a = leadOfTwo x := by
  refine between_iff toNat_leadOfTwo (fun k => ?_) a
  rw [BitVec.toNat_ofNat]
  show 0xC0 + k < 0xE0 ↔ k % 0x20 = k
  omega

theorem isLeadOfThree_iff (a : UInt8) :
    (0xE0 ≤ a && a < 0xF0) = true ↔ ∃ x, a = leadOfThree x := by
  refine between_iff toNat_leadOfThree (fun k => ?_) a
  rw [BitVec.toNat_ofNat]
  show 0xE0 + k < 0xF0 ↔ k % 0x10 = k
  omega

theorem isContinuation_iff (a : UInt8) : isContinuation a = true ↔ ∃ x, a = continuation x := by
  refine between_iff toNat_continuation (fun k => ?_) a
  rw [BitVec.toNat_ofNat]
  show 0x80 + k < 0xC0 ↔ k % 0x40 = k
  omega

/-! ## Units of groups -/

theorem toNat_unitOfOne (x : BitVec 7) :
    (UInt16.ofBitVec (x.setWidth 16)).toNat = x.toNat := by
  have := x.isLt
  rw [UInt16.toNat_ofBitVec, BitVec.toNat_setWidth, Nat.mod_eq_of_lt (by omega)]

theorem toNat_unitOfTwo (x : BitVec 5) (y : BitVec 6) :
    (UInt16.ofBitVec ((x ++ y).setWidth 16)).toNat = x.toNat * 0x40 + y.toNat := by
  have := x.isLt
  have := y.isLt
  rw [UInt16.toNat_ofBitVec, BitVec.toNat_setWidth, toNat_append, Nat.shiftLeft_eq]
  exact Nat.mod_eq_of_lt (by omega)

theorem toNat_unitOfThree (x : BitVec 4) (y z : BitVec 6) :
    (UInt16.ofBitVec (x ++ y ++ z)).toNat = x.toNat * 0x1000 + y.toNat * 0x40 + z.toNat := by
  rw [UInt16.toNat_ofBitVec, toNat_append, toNat_append, Nat.shiftLeft_eq, Nat.shiftLeft_eq]
  omega

theorem toUInt16_single (x : BitVec 7) : (single x).toUInt16 = .ofBitVec (x.setWidth 16) := by
  apply UInt16.toNat_inj.1
  rw [UInt8.toNat_toUInt16, toNat_single, toNat_unitOfOne]

theorem unit2_bits (x : BitVec 5) (y : BitVec 6) :
    unit2 (leadOfTwo x) (continuation y) = .ofBitVec ((x ++ y).setWidth 16) := by
  have := x.isLt
  have := y.isLt
  apply UInt16.toNat_inj.1
  rw [toNat_unitOfTwo, unit2, toNat_leadOfTwo, toNat_continuation, UInt16.toNat_ofNat']
  omega

theorem unit3_bits (x : BitVec 4) (y z : BitVec 6) :
    unit3 (leadOfThree x) (continuation y) (continuation z) = .ofBitVec (x ++ y ++ z) := by
  have := x.isLt
  have := y.isLt
  have := z.isLt
  apply UInt16.toNat_inj.1
  rw [toNat_unitOfThree, unit3, toNat_leadOfThree, toNat_continuation, toNat_continuation,
    UInt16.toNat_ofNat']
  omega

/-- One group in front of anything is read as its unit. -/
theorem units?_group_append {u : UInt16} {g : List UInt8} (h : Group u g) (rest : List UInt8) :
    units? (g ++ rest) = (u :: ·) <$> units? rest := by
  cases h with
  | one x =>
    have hx := (isSingle_iff _).2 ⟨x, rfl⟩
    rw [Bool.and_eq_true, decide_eq_true_eq, decide_eq_true_eq] at hx
    rw [← toUInt16_single]
    exact units?_one hx.2 rest
  | two x y =>
    rw [← unit2_bits]
    exact units?_two ((isLeadOfTwo_iff _).2 ⟨x, rfl⟩) ((isContinuation_iff _).2 ⟨y, rfl⟩) rest
  | three x y z =>
    rw [← unit3_bits]
    exact units?_three ((isLeadOfThree_iff _).2 ⟨x, rfl⟩) ((isContinuation_iff _).2 ⟨y, rfl⟩)
      ((isContinuation_iff _).2 ⟨z, rfl⟩) rest

theorem units?_row_append {us : List UInt16} {bytes : List UInt8} (h : Reader.Row Group us bytes)
    (rest : List UInt8) : units? (bytes ++ rest) = (us ++ ·) <$> units? rest := by
  induction h with
  | nil => simp
  | cons hg _ ih =>
    rw [List.append_assoc, units?_group_append hg, ih]
    cases units? rest <;> rfl

/-! ## Where no group starts -/

/-- Bytes at whose beginning there is no group. -/
inductive NoGroup : List UInt8 → Prop where
  /-- A continuation byte without anything that it continues. -/
  | stray (x : BitVec 6) (rest : List UInt8) : NoGroup (continuation x :: rest)
  /-- A byte that has no place in any group. -/
  | outside (a : UInt8) (rest : List UInt8) (h : 0xF0 ≤ a) : NoGroup (a :: rest)
  /-- A group of two without its second byte. -/
  | cutTwo (x : BitVec 5) (rest : List UInt8) (h : ∀ y v, rest ≠ continuation y :: v) :
      NoGroup (leadOfTwo x :: rest)
  /-- A group of three without its second or third byte. -/
  | cutThree (x : BitVec 4) (rest : List UInt8)
      (h : ∀ y z v, rest ≠ continuation y :: continuation z :: v) : NoGroup (leadOfThree x :: rest)

/-- Something starts at every byte, or nothing does. -/
theorem exists_group_or_noGroup (a : UInt8) (rest : List UInt8) :
    (∃ u g v, Group u g ∧ a :: rest = g ++ v) ∨ NoGroup (a :: rest) := by
  by_cases hone : (0 ≤ a && a < 0x80) = true
  · obtain ⟨x, rfl⟩ := (isSingle_iff a).1 hone
    exact .inl ⟨_, _, rest, .one x, rfl⟩
  by_cases hcontinuation : isContinuation a = true
  · obtain ⟨x, rfl⟩ := (isContinuation_iff a).1 hcontinuation
    exact .inr (.stray x rest)
  by_cases htwo : (0xC0 ≤ a && a < 0xE0) = true
  · obtain ⟨x, rfl⟩ := (isLeadOfTwo_iff a).1 htwo
    by_cases hrest : ∃ y v, rest = continuation y :: v
    · obtain ⟨y, v, rfl⟩ := hrest
      exact .inl ⟨_, _, v, .two x y, rfl⟩
    · exact .inr (.cutTwo x rest fun y v heq => hrest ⟨y, v, heq⟩)
  by_cases hthree : (0xE0 ≤ a && a < 0xF0) = true
  · obtain ⟨x, rfl⟩ := (isLeadOfThree_iff a).1 hthree
    by_cases hrest : ∃ y z v, rest = continuation y :: continuation z :: v
    · obtain ⟨y, z, v, rfl⟩ := hrest
      exact .inl ⟨_, _, v, .three x y z, rfl⟩
    · exact .inr (.cutThree x rest fun y z v heq => hrest ⟨y, z, v, heq⟩)
  · refine .inr (.outside a rest ?_)
    unfold isContinuation at hcontinuation
    grind

theorem units?_of_noGroup {bytes : List UInt8} (h : NoGroup bytes) : units? bytes = none := by
  cases h with
  | stray x rest =>
    have hx := (isContinuation_iff _).2 ⟨x, rfl⟩
    unfold isContinuation at hx
    rw [units?.eq_def]
    grind
  | outside a rest h =>
    rw [units?.eq_def]
    grind
  | cutTwo x rest h =>
    have hx := (isLeadOfTwo_iff _).2 ⟨x, rfl⟩
    have hone : ¬ leadOfTwo x < 0x80 := by
      grind
    rw [units?.eq_def]
    simp only [if_neg hone, if_pos hx]
    cases rest with
    | nil => rfl
    | cons b v =>
      refine if_neg fun hb => ?_
      obtain ⟨y, rfl⟩ := (isContinuation_iff b).1 hb
      exact h y v rfl
  | cutThree x rest h =>
    have hx := (isLeadOfThree_iff _).2 ⟨x, rfl⟩
    have hone : ¬ leadOfThree x < 0x80 := by
      grind
    have htwo : ¬ (0xC0 ≤ leadOfThree x && leadOfThree x < 0xE0) = true := by
      grind
    rw [units?.eq_def]
    simp only [if_neg hone, if_neg htwo, if_pos hx]
    rcases rest with _ | ⟨b, _ | ⟨c, v⟩⟩
    · rfl
    · rfl
    · refine if_neg fun hbc => ?_
      obtain ⟨hb, hc⟩ := Bool.and_eq_true_iff.1 hbc
      obtain ⟨y, rfl⟩ := (isContinuation_iff b).1 hb
      obtain ⟨z, rfl⟩ := (isContinuation_iff c).1 hc
      exact h y z v rfl

theorem length_group_pos {u : UInt16} {g : List UInt8} (h : Group u g) : 0 < g.length := by
  cases h <;> exact Nat.succ_pos _

/-- Bytes are a row of groups, or there is a first place where no group starts. -/
theorem row_or_noGroup (bytes : List UInt8) :
    (∃ us, Reader.Row Group us bytes) ∨
      ∃ us u v, Reader.Row Group us u ∧ NoGroup v ∧ bytes = u ++ v := by
  -- by the number of bytes, since a group takes up to three
  induction hn : bytes.length using Nat.strongRecOn generalizing bytes with
  | ind n ih =>
    cases bytes with
    | nil => exact .inl ⟨[], .nil⟩
    | cons a rest =>
      rcases exists_group_or_noGroup a rest with ⟨unit, g, v, hg, heq⟩ | hno
      · have hlt : v.length < n := by
          have := length_group_pos hg
          rw [← hn, heq, List.length_append]
          omega
        rw [heq]
        rcases ih v.length hlt v rfl with ⟨us, hus⟩ | ⟨us, w, v', hus, hno, rfl⟩
        · exact .inl ⟨unit :: us, .cons hg hus⟩
        · exact .inr ⟨unit :: us, g ++ w, v', .cons hg hus, hno, (List.append_assoc _ _ _).symm⟩
      · exact .inr ⟨[], [], a :: rest, .nil, hno, rfl⟩

theorem units?_of_row {us : List UInt16} {bytes : List UInt8} (h : Reader.Row Group us bytes) :
    units? bytes = some us := by
  have happend := units?_row_append h []
  rw [List.append_nil, units?] at happend
  simpa using happend

theorem units?_of_row_noGroup {us : List UInt16} {u v : List UInt8} (hu : Reader.Row Group us u)
    (hv : NoGroup v) : units? (u ++ v) = none := by
  rw [units?_row_append hu, units?_of_noGroup hv]
  rfl

theorem units?_eq_some_iff (bytes : List UInt8) (us : List UInt16) :
    units? bytes = some us ↔ Reader.Row Group us bytes := by
  refine ⟨fun h => ?_, units?_of_row⟩
  rcases row_or_noGroup bytes with ⟨us', hus'⟩ | ⟨us', u, v, hu, hv, rfl⟩
  · rw [units?_of_row hus'] at h
    cases h
    exact hus'
  · rw [units?_of_row_noGroup hu hv] at h
    cases h

theorem units?_eq_none_iff (bytes : List UInt8) :
    units? bytes = none ↔ ∃ us u v, Reader.Row Group us u ∧ NoGroup v ∧ bytes = u ++ v := by
  constructor
  · intro h
    rcases row_or_noGroup bytes with ⟨us, hus⟩ | hno
    · rw [units?_of_row hus] at h
      cases h
    · exact hno
  · rintro ⟨us, u, v, hu, hv, rfl⟩
    exact units?_of_row_noGroup hu hv

/-! ## Top theorem -/

/-- Bytes that stand for no text. -/
inductive Malformed : List UInt8 → Prop where
  | loneSurrogate {us : List UInt16} {bytes : List UInt8} (hbytes : Reader.Row Group us bytes)
      (hus : Utf16.LoneSurrogate us) : Malformed bytes
  | noGroup {us : List UInt16} {u v : List UInt8} (hu : Reader.Row Group us u) (hv : NoGroup v) :
      Malformed (u ++ v)

theorem decode?_of_units? {us : List UInt16} {bytes : List UInt8} (h : units? bytes = some us) :
    decode? bytes = (Utf16.decode? us).map String.ofList := by
  rw [decode?, h]
  cases hus : Utf16.decode? us <;> simp [hus]

theorem decode?_eq_some_iff (bytes : List UInt8) (text : String) :
    decode? bytes = some text ↔ Reader.Row Group (Utf16.encode text.toList) bytes := by
  constructor
  · intro h
    obtain ⟨us, hus, -⟩ := Option.bind_eq_some_iff.1 h
    rw [decode?_of_units? hus] at h
    obtain ⟨cs, hcs, rfl⟩ := Option.map_eq_some_iff.1 h
    rw [String.toList_ofList, ← (Utf16.decode?_eq_some_iff us cs).1 hcs]
    exact (units?_eq_some_iff bytes us).1 hus
  · intro h
    rw [decode?_of_units? (units?_of_row h), Utf16.decode?_encode, Option.map_some,
      String.ofList_toList]

theorem decode?_eq_none_iff (bytes : List UInt8) : decode? bytes = none ↔ Malformed bytes := by
  constructor
  · intro h
    cases hunits : units? bytes with
    | none =>
      obtain ⟨us, u, v, hu, hv, rfl⟩ := (units?_eq_none_iff bytes).1 hunits
      exact .noGroup hu hv
    | some us =>
      rw [decode?_of_units? hunits, Option.map_eq_none_iff] at h
      exact .loneSurrogate ((units?_eq_some_iff bytes us).1 hunits)
        ((Utf16.decode?_eq_none_iff us).1 h)
  · intro h
    cases h with
    | loneSurrogate hbytes hus =>
      rw [decode?_of_units? (units?_of_row hbytes), (Utf16.decode?_eq_none_iff _).2 hus]
      rfl
    | noGroup hu hv =>
      rw [decode?, units?_of_row_noGroup hu hv]
      rfl

/-- A text is read from just the bytes that split into groups for its units, its encoding among
them.  Nothing is read where a group is missing or a surrogate stands alone, and only there. -/
theorem decode?_language :
    (∀ (bytes : List UInt8) (text : String),
      decode? bytes = some text ↔ Reader.Row Group (Utf16.encode text.toList) bytes) ∧
    (∀ text : String, decode? (encode text) = some text) ∧
    ∀ bytes : List UInt8, decode? bytes = none ↔ Malformed bytes :=
  ⟨decode?_eq_some_iff, decode?_encode, decode?_eq_none_iff⟩

end ModifiedUtf8

end CtorLeak
