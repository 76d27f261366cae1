import CtorLeak.Proofs.Text.Language

/-!
# Texts in plain UTF-8

Plain UTF-8 has no units: it writes a character as a whole, on one to four bytes.  Up to U+FFFF its
forms are those of modified UTF-8 (`utf8EncodeChar_eq_encodeUnit`), with one exception: zero is on a
single byte, which is read all the same.  Above U+FFFF there are four bytes, and the first of them
has no place in modified UTF-8 (`noGroup_utf8EncodeChar`).

So a text in plain UTF-8 is read as itself, unless it has a character above U+FFFF.  Then, wherever
that character stands, the text is not read at all (`decode?_plain_iff`).
-/

namespace CtorLeak.ModifiedUtf8

/-! ## One character -/

/-- Up to U+FFFF the two encodings differ in zero only. -/
theorem utf8EncodeChar_eq_encodeUnit {c : Char} (hzero : c.toNat ≠ 0) (hbasic : c.toNat ≤ 0xFFFF) :
    String.utf8EncodeChar c = encodeUnit (UInt16.ofNat c.toNat) := by
  have hunit : (UInt16.ofNat c.toNat).toNat = c.toNat :=
    UInt16.toNat_ofNat_of_lt' (Nat.lt_succ_of_le hbasic)
  have hvalue : c.val.toNat = c.toNat := rfl
  unfold String.utf8EncodeChar encodeUnit
  rw [hunit]
  dsimp only
  rw [hvalue]
  generalize c.toNat = n at hzero hbasic
  have hsingle : (decide (0 < n) && decide (n < 0x80)) = true ↔ n ≤ 0x7F := by
    rw [Bool.and_eq_true, decide_eq_true_eq, decide_eq_true_eq]
    omega
  by_cases hone : n ≤ 0x7F
  · rw [if_pos hone, if_pos (hsingle.2 hone)]
  · rw [if_neg hone, if_neg fun h => hone (hsingle.1 h)]
    by_cases htwo : n ≤ 0x7FF
    · have hlead : n / 0x40 % 0x20 + 0xC0 = 0xC0 + n / 0x40 := by omega
      rw [if_pos htwo, if_pos (Nat.lt_succ_of_le htwo), hlead, Nat.add_comm 0x80]
    · have hlead : n / 0x1000 % 0x10 + 0xE0 = 0xE0 + n / 0x1000 := by omega
      have hthree : ¬ n < 0x800 := by omega
      rw [if_neg htwo, if_pos hbasic, if_neg hthree, hlead, Nat.add_comm 0x80, Nat.add_comm 0x80]

/-- Above U+FFFF the first byte is one that starts nothing. -/
theorem noGroup_utf8EncodeChar {c : Char} (h : 0xFFFF < c.toNat) (rest : List UInt8) :
    NoGroup (String.utf8EncodeChar c ++ rest) := by
  have hvalue : c.val.toNat = c.toNat := rfl
  unfold String.utf8EncodeChar
  dsimp only
  rw [hvalue, if_neg (by omega), if_neg (by omega), if_neg (by omega)]
  apply NoGroup.outside
  show UInt8.ofNat 0xF0 ≤ UInt8.ofNat (c.toNat / 0x40000 % 8 + 0xF0)
  have hlt : c.toNat / 0x40000 % 8 + 0xF0 < 0x100 := by omega
  exact (UInt8.ofNat_le_iff_le (by decide) hlt).2 (Nat.le_add_left _ _)

/-- A character up to U+FFFF is read from its plain bytes, whatever follows them. -/
theorem units?_utf8EncodeChar_append {c : Char} (h : c.toNat ≤ 0xFFFF) (rest : List UInt8) :
    units? (String.utf8EncodeChar c ++ rest) = (UInt16.ofNat c.toNat :: ·) <$> units? rest := by
  by_cases hzero : c.toNat = 0
  · have hc : c = Char.ofNat 0 := by rw [← hzero, Char.ofNat_toNat]
    subst hc
    exact units?_one (by decide) rest
  · rw [utf8EncodeChar_eq_encodeUnit hzero h, units?_encodeUnit_append]

/-! ## Texts -/

theorem units?_plain {cs : List Char} (h : ∀ c ∈ cs, c.toNat ≤ 0xFFFF) :
    units? (cs.flatMap String.utf8EncodeChar) = some (Utf16.encode cs) := by
  induction cs with
  | nil => rfl
  | cons c cs ih =>
    obtain ⟨hc, hcs⟩ := List.forall_mem_cons.1 h
    have hunits : Utf16.encode (c :: cs) = UInt16.ofNat c.toNat :: Utf16.encode cs := by
      rw [Utf16.encode, List.flatMap_cons, Utf16.encodeChar, if_pos (Nat.lt_succ_of_le hc)]
      rfl
    rw [List.flatMap_cons, units?_utf8EncodeChar_append hc, ih hcs, hunits]
    rfl

/-- What is read before the first character above U+FFFF does not help. -/
theorem units?_plain_eq_none {cs : List Char} (h : ∃ c ∈ cs, 0xFFFF < c.toNat) :
    units? (cs.flatMap String.utf8EncodeChar) = none := by
  induction cs with
  | nil =>
    obtain ⟨c, hc, -⟩ := h
    cases hc
  | cons c cs ih =>
    rw [List.flatMap_cons]
    by_cases hc : c.toNat ≤ 0xFFFF
    · have hcs : ∃ d ∈ cs, 0xFFFF < d.toNat := by
        obtain ⟨d, hd, habove⟩ := h
        rcases List.mem_cons.1 hd with rfl | hd
        · omega
        · exact ⟨d, hd, habove⟩
      rw [units?_utf8EncodeChar_append hc, ih hcs]
      rfl
    · exact units?_of_noGroup (noGroup_utf8EncodeChar (Nat.not_le.1 hc) _)

/-- The plain bytes of a text are those of its characters. -/
theorem toList_toUTF8 (text : String) :
    text.toUTF8.data.toList = text.toList.flatMap String.utf8EncodeChar := by
  rw [String.toUTF8_eq_toByteArray, ← String.utf8Encode_toList, List.utf8Encode,
    List.data_toByteArray]

/-! ## Top theorem -/

/-- A text in plain UTF-8 is read as itself if all its characters are up to U+FFFF, zero among them,
and as nothing if one is above. -/
theorem decode?_plain_iff (text : String) :
    (decode? text.toUTF8.data.toList = some text ↔ ∀ c ∈ text.toList, c.toNat ≤ 0xFFFF) ∧
    (decode? text.toUTF8.data.toList = none ↔ ∃ c ∈ text.toList, 0xFFFF < c.toNat) := by
  rw [toList_toUTF8]
  by_cases h : ∀ c ∈ text.toList, c.toNat ≤ 0xFFFF
  · have hread : decode? (text.toList.flatMap String.utf8EncodeChar) = some text := by
      rw [decode?_of_units? (units?_plain h), Utf16.decode?_encode, Option.map_some,
        String.ofList_toList]
    have hnone : ¬ ∃ c ∈ text.toList, 0xFFFF < c.toNat := by
      rintro ⟨c, hc, habove⟩
      exact Nat.not_le.2 habove (h c hc)
    exact ⟨iff_of_true hread h, iff_of_false (by simp [hread]) hnone⟩
  · have habove : ∃ c ∈ text.toList, 0xFFFF < c.toNat := by
      simpa using h
    have hread : decode? (text.toList.flatMap String.utf8EncodeChar) = none := by
      rw [decode?, units?_plain_eq_none habove]
      rfl
    exact ⟨iff_of_false (by simp [hread]) h, iff_of_true hread habove⟩

-- Zero is on a single byte, and U+FFFF, the last character that is read, on three.
example : "\x00\uffff".toUTF8.data.toList = [0x00, 0xEF, 0xBF, 0xBF] ∧
    decode? [0x00, 0xEF, 0xBF, 0xBF] = some "\x00\uffff" := by
  decide +kernel

end CtorLeak.ModifiedUtf8
