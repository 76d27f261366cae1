import CtorLeak.Proofs.Text.Language

/-!
# Forms that are longer than they need to be

The three forms of a unit overlap: a small unit fits into a long group too.  An encoding takes the
shortest form, and two bytes for zero, but a decoder that asks only for groups reads the others as
well (`decode?_overlong`).  So bytes that are read need not be the encoding of what is read.

They are if no form in them is longer than it needs to be.  This shows at the byte that starts a
group and the byte after it (`startsLong`), and so without splitting the bytes into groups:

    decode? bytes = some text ∧ isShortest bytes ↔ bytes = encode text      (decode?_shortest_iff)
-/

namespace CtorLeak.ModifiedUtf8

/-- Whether a byte, with others behind it, is a zero or starts a unit on more bytes than are its
due. -/
def startsLong (a : UInt8) (rest : List UInt8) : Bool :=
  a == 0x00 || a == 0xC1 || a == 0xC0 && rest.head? != some 0x80 ||
    a == 0xE0 && rest.head?.any (· < 0xA0)

/-- Whether every unit is on the bytes that are its due. -/
def isShortest : List UInt8 → Bool
  | [] => true
  | a :: rest => !startsLong a rest && isShortest rest

/-! ## The due form of a unit -/

theorem ofNat_eq_of_toNat {n : Nat} {a : UInt8} (h : a.toNat = n) : UInt8.ofNat n = a := by
  rw [← h, UInt8.ofNat_toNat]

theorem encodeUnit_one_iff (x : BitVec 7) :
    encodeUnit (.ofBitVec (x.setWidth 16)) = [single x] ↔ x.toNat ≠ 0 := by
  have hx := x.isLt
  unfold encodeUnit
  rw [toNat_unitOfOne]
  dsimp only
  by_cases hzero : x.toNat = 0
  · simp [hzero]
  · have hone : 0 < x.toNat ∧ x.toNat < 0x80 := by omega
    rw [if_pos (by simpa using hone), ofNat_eq_of_toNat (toNat_single x)]
    exact iff_of_true rfl hzero

theorem encodeUnit_two_iff (x : BitVec 5) (y : BitVec 6) :
    encodeUnit (.ofBitVec ((x ++ y).setWidth 16)) = [leadOfTwo x, continuation y] ↔
      x.toNat * 0x40 + y.toNat = 0 ∨ 0x80 ≤ x.toNat * 0x40 + y.toNat := by
  have hx := x.isLt
  have hy := y.isLt
  unfold encodeUnit
  rw [toNat_unitOfTwo]
  generalize hn : x.toNat * 0x40 + y.toNat = n
  dsimp only
  by_cases hone : 0 < n ∧ n < 0x80
  · rw [if_pos (by simpa using hone)]
    exact iff_of_false (by simp) (by omega)
  · have hlead : UInt8.ofNat (0xC0 + n / 0x40) = leadOfTwo x :=
      ofNat_eq_of_toNat (by rw [toNat_leadOfTwo]; omega)
    have hnext : UInt8.ofNat (0x80 + n % 0x40) = continuation y :=
      ofNat_eq_of_toNat (by rw [toNat_continuation]; omega)
    rw [if_neg (by simpa using hone), if_pos (by omega), hlead, hnext]
    exact iff_of_true rfl (by omega)

theorem encodeUnit_three_iff (x : BitVec 4) (y z : BitVec 6) :
    encodeUnit (.ofBitVec (x ++ y ++ z)) = [leadOfThree x, continuation y, continuation z] ↔
      0x800 ≤ x.toNat * 0x1000 + y.toNat * 0x40 + z.toNat := by
  have hx := x.isLt
  have hy := y.isLt
  have hz := z.isLt
  unfold encodeUnit
  rw [toNat_unitOfThree]
  generalize hn : x.toNat * 0x1000 + y.toNat * 0x40 + z.toNat = n
  dsimp only
  by_cases hone : 0 < n ∧ n < 0x80
  · rw [if_pos (by simpa using hone)]
    exact iff_of_false (by simp) (by omega)
  · rw [if_neg (by simpa using hone)]
    by_cases htwo : n < 0x800
    · rw [if_pos htwo]
      exact iff_of_false (by simp) (by omega)
    · have hlead : UInt8.ofNat (0xE0 + n / 0x1000) = leadOfThree x :=
        ofNat_eq_of_toNat (by rw [toNat_leadOfThree]; omega)
      have hnext : UInt8.ofNat (0x80 + n / 0x40 % 0x40) = continuation y :=
        ofNat_eq_of_toNat (by rw [toNat_continuation]; omega)
      have hlast : UInt8.ofNat (0x80 + n % 0x40) = continuation z :=
        ofNat_eq_of_toNat (by rw [toNat_continuation]; omega)
      rw [if_neg htwo, hlead, hnext, hlast]
      exact iff_of_true rfl (by omega)

/-! ## The first bytes tell -/

theorem startsLong_iff (a : UInt8) (rest : List UInt8) :
    startsLong a rest = true ↔
      a.toNat = 0 ∨ a.toNat = 0xC1 ∨ a.toNat = 0xC0 ∧ rest.head? ≠ some 0x80 ∨
        a.toNat = 0xE0 ∧ ∃ b, rest.head? = some b ∧ b.toNat < 0xA0 := by
  simp only [startsLong, Bool.or_eq_true, Bool.and_eq_true, beq_iff_eq, bne_iff_ne,
    Option.any_eq_true, decide_eq_true_eq, ← UInt8.toNat_inj, UInt8.lt_iff_toNat_lt, or_assoc]
  rfl

theorem isShortest_cons_iff (a : UInt8) (rest : List UInt8) :
    isShortest (a :: rest) = true ↔ ¬ startsLong a rest = true ∧ isShortest rest = true := by
  rw [isShortest, Bool.and_eq_true, Bool.not_eq_true', Bool.not_eq_true]

theorem isShortest_continuation (x : BitVec 6) (rest : List UInt8) :
    isShortest (continuation x :: rest) = true ↔ isShortest rest = true := by
  have hx := x.isLt
  have hnot : ¬ startsLong (continuation x) rest = true := by
    rw [startsLong_iff, toNat_continuation]
    omega
  rw [isShortest_cons_iff, and_iff_right hnot]

theorem continuation_eq_iff (y : BitVec 6) : continuation y = 0x80 ↔ y.toNat = 0 := by
  rw [← UInt8.toNat_inj, toNat_continuation]
  show 0x80 + y.toNat = 0x80 ↔ y.toNat = 0
  omega

/-- A group is in the shortest form exactly if it is the form that its unit is written in. -/
theorem isShortest_group_append {u : UInt16} {g : List UInt8} (h : Group u g)
    (rest : List UInt8) :
    isShortest (g ++ rest) = true ↔ encodeUnit u = g ∧ isShortest rest = true := by
  cases h with
  | one x =>
    have hx := x.isLt
    have hlong : ¬ startsLong (single x) rest = true ↔ x.toNat ≠ 0 := by
      rw [startsLong_iff, toNat_single]
      omega
    rw [List.singleton_append, isShortest_cons_iff, hlong, encodeUnit_one_iff]
  | two x y =>
    have hx := x.isLt
    have hy := y.isLt
    have hlong : ¬ startsLong (leadOfTwo x) (continuation y :: rest) = true ↔
        x.toNat * 0x40 + y.toNat = 0 ∨ 0x80 ≤ x.toNat * 0x40 + y.toNat := by
      rw [startsLong_iff, toNat_leadOfTwo, List.head?_cons, Ne, Option.some.injEq,
        continuation_eq_iff]
      omega
    rw [List.cons_append, List.singleton_append, isShortest_cons_iff, hlong,
      isShortest_continuation, encodeUnit_two_iff]
  | three x y z =>
    have hx := x.isLt
    have hy := y.isLt
    have hz := z.isLt
    have hlong : ¬ startsLong (leadOfThree x) (continuation y :: continuation z :: rest) = true ↔
        0x800 ≤ x.toNat * 0x1000 + y.toNat * 0x40 + z.toNat := by
      simp only [startsLong_iff, toNat_leadOfThree, List.head?_cons, Option.some.injEq,
        exists_eq_left', toNat_continuation]
      omega
    rw [List.cons_append, List.cons_append, List.singleton_append, isShortest_cons_iff, hlong,
      isShortest_continuation, isShortest_continuation, encodeUnit_three_iff]

theorem group_encodeUnit (u : UInt16) : Group u (encodeUnit u) := by
  have hunits : units? (encodeUnit u) = some [u] := by
    have := units?_flatMap_encodeUnit [u]
    rwa [List.flatMap_singleton] at this
  have hrow := (units?_eq_some_iff _ _).1 hunits
  generalize encodeUnit u = g at hrow
  cases hrow with
  | cons hg hrest =>
    cases hrest
    rwa [List.append_nil]

theorem isShortest_flatMap_encodeUnit (us : List UInt16) :
    isShortest (us.flatMap encodeUnit) = true := by
  induction us with
  | nil => rfl
  | cons u us ih =>
    rw [List.flatMap_cons, isShortest_group_append (group_encodeUnit u)]
    exact ⟨rfl, ih⟩

theorem eq_flatMap_of_isShortest {us : List UInt16} {bytes : List UInt8}
    (h : Reader.Row Group us bytes) (hshort : isShortest bytes = true) :
    bytes = us.flatMap encodeUnit := by
  induction h with
  | nil => rfl
  | cons hg _ ih =>
    obtain ⟨hunit, hrest⟩ := (isShortest_group_append hg _).1 hshort
    rw [List.flatMap_cons, hunit, ← ih hrest]

/-! ## Top theorem -/

/-- Bytes that are read as a text, with every unit in its shortest form, are the encoding of the
text, and no others are. -/
theorem decode?_shortest_iff (bytes : List UInt8) (text : String) :
    decode? bytes = some text ∧ isShortest bytes = true ↔ bytes = encode text := by
  constructor
  · rintro ⟨hread, hshort⟩
    exact eq_flatMap_of_isShortest ((decode?_eq_some_iff bytes text).1 hread) hshort
  · rintro rfl
    exact ⟨decode?_encode text, isShortest_flatMap_encodeUnit _⟩

/-- The letter A on two bytes is read as if it were on one. -/
theorem decode?_overlong :
    decode? [0xC1, 0x81] = some "A" ∧ decode? [0x41] = some "A" ∧ encode "A" = [0x41] := by
  decide +kernel

end CtorLeak.ModifiedUtf8
