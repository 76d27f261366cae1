import CtorLeak.Proofs.Constant.Pool

/-!
# Where constants sit in a pool

A pool is read one constant after the other, and how far a constant moves the next one depends on
its width.  `HasLayout` says where everything ends up, given the declared count and the constants in
the order in which they were read: which slot each of them has, which slots are not used, how many
constants there are and how many slots.

    ConstantPool.read s = .ok pool s' → ∃ count … constants, … HasLayout count.toNat constants pool
                                                                                    (read_layout)
-/

namespace CtorLeak

open Reader

/-- The constants that take two slots. -/
inductive Constant.IsWide : Constant → Prop where
  | long (value : Int64) : IsWide (.long value)
  | double (bits : UInt64) : IsWide (.double bits)

namespace Constant

theorem width_of_isWide {c : Constant} (h : c.IsWide) : c.width = 2 := by
  cases h <;> rfl

theorem width_of_not_isWide {c : Constant} (h : ¬ c.IsWide) : c.width = 1 := by
  cases c with
  | long value => exact absurd (.long value) h
  | double bits => exact absurd (.double bits) h
  | _ => rfl

end Constant

namespace ConstantPool

/-! ## Reading in order -/

/-- The constants that are read from a stream one after the other.  The first is for slot `index`,
each of the others for the slot behind the one before it.  A reader is told the slot as a 16-bit
word, which has the same value. -/
inductive ReadInOrder : Nat → ByteStream → List Constant → ByteStream → Prop where
  | nil {index : Nat} {s : ByteStream} : ReadInOrder index s [] s
  | cons {index : Nat} {word : UInt16} {s s₁ s' : ByteStream} {c : Constant} {cs : List Constant}
      (hword : word.toNat = index) (hc : Constant.read word s = .ok c s₁)
      (hcs : ReadInOrder (index + c.width) s₁ cs s') : ReadInOrder index s (c :: cs) s'

/-- The slots of some constants, from slot `index` on, begin below `count` and reach up to it. -/
structure FillsUpTo (count index : Nat) (cs : List Constant) : Prop where
  lt_count : ∀ before c after, cs = before ++ c :: after → index + totalWidth before < count
  count_le : count ≤ index + totalWidth cs

theorem FillsUpTo.cons {count index : Nat} {c : Constant} {cs : List Constant}
    (hlt : index < count) (hcs : FillsUpTo count (index + c.width) cs) :
    FillsUpTo count index (c :: cs) where
  lt_count before x after heq := by
    cases before with
    | nil => exact hlt
    | cons b before =>
      cases heq
      have := hcs.lt_count before x after rfl
      rw [totalWidth]
      omega
  count_le := by
    have := hcs.count_le
    rw [totalWidth]
    omega

/-- The loop reads constants in order, and no more and no fewer than fill the slots. -/
theorem readConstants_eq_ok {count index : Nat} {s s' : ByteStream} {cs : List Constant}
    (hcount : count ≤ 65535) (h : readConstants count index s = .ok cs s') :
    ReadInOrder index s cs s' ∧ FillsUpTo count index cs := by
  fun_induction readConstants count index generalizing s cs with
  | case1 index hlt ih =>
    obtain ⟨c, s₁, hc, hrest⟩ := bind_eq_ok h
    obtain ⟨cs', s₂, hcs, hpure⟩ := bind_eq_ok hrest
    cases hpure
    obtain ⟨horder, hfills⟩ := ih c hcs
    have hword : (UInt16.ofNat index).toNat = index :=
      UInt16.toNat_ofNat_of_lt' (by change _ < 65536; omega)
    exact ⟨.cons hword hc horder, .cons hlt hfills⟩
  | case2 index hlt =>
    cases h
    refine ⟨.nil, ?_, ?_⟩
    · intro before c after heq
      cases before <;> cases heq
    · rw [totalWidth]
      omega

/-! ## Slots -/

/-- The constant is one of the list, and those before it take the slots from 1 up to the given
one. -/
def SitsAt (constants : List Constant) (c : Constant) (slot : Nat) : Prop :=
  ∃ before after, constants = before ++ c :: after ∧ slot = 1 + totalWidth before

theorem getElem?_slots_ofConstants_iff (cs : List Constant) (slot : Nat) (c : Constant) :
    (ofConstants cs).slots[slot]? = some (some c) ↔ SitsAt cs c slot := by
  rw [ofConstants, List.getElem?_toArray, SitsAt]
  cases slot with
  | zero =>
    constructor
    · intro h
      cases h
    · rintro ⟨_, _, _, h⟩
      omega
  | succ k =>
    rw [List.getElem?_cons_succ, getElem?_slots_iff]
    simp only [Nat.add_comm k 1, Nat.add_left_cancel_iff]

/-- Slot 0 and the second slots of wide constants are not used, all others are. -/
theorem getElem?_slots_eq_none_iff (cs : List Constant) (slot : Nat) :
    (ofConstants cs).slots[slot]? = some none ↔
      slot = 0 ∨ ∃ c first, c.IsWide ∧ SitsAt cs c first ∧ slot = first + 1 := by
  rw [ofConstants, List.getElem?_toArray]
  cases slot with
  | zero => simp
  | succ k =>
    simp only [List.getElem?_cons_succ, getElem?_flatMap_slotsOf_iff, getElem?_slotsOf_eq_none_iff,
      Nat.succ_ne_zero, false_or]
    constructor
    · rintro ⟨before, c, after, d, rfl, rfl, hpos, hlt⟩
      by_cases hwide : c.IsWide
      · rw [Constant.width_of_isWide hwide] at hlt
        exact ⟨c, _, hwide, ⟨before, after, rfl, rfl⟩, by omega⟩
      · rw [Constant.width_of_not_isWide hwide] at hlt
        omega
    · rintro ⟨c, first, hwide, ⟨before, after, rfl, rfl⟩, hk⟩
      refine ⟨before, c, after, 1, rfl, by omega, Nat.one_pos, ?_⟩
      rw [Constant.width_of_isWide hwide]
      exact Nat.one_lt_two

theorem totalWidth_append (cs ds : List Constant) :
    totalWidth (cs ++ ds) = totalWidth cs + totalWidth ds := by
  induction cs with
  | nil => rw [List.nil_append, totalWidth, Nat.zero_add]
  | cons c cs ih => rw [List.cons_append, totalWidth, totalWidth, ih, Nat.add_assoc]

/-- A constant is found at its own slot only, and everywhere else there is none. -/
theorem constant_ofConstants_iff (cs : List Constant) (index : UInt16) (c : Constant) :
    (ofConstants cs).constant index = .ok c ↔ SitsAt cs c index.toNat := by
  have hget : (ofConstants cs).get? index = some c ↔ SitsAt cs c index.toNat :=
    get?_ofConstants_iff cs index c
  rw [← hget, constant]
  cases (ofConstants cs).get? index <;> simp

/-! ## Layout -/

/-- The layout of a pool for which `count` was declared and then `constants` were read. -/
structure HasLayout (count : Nat) (constants : List Constant) (pool : ConstantPool) : Prop where
  /-- Each constant sits behind those before it. -/
  placed : ∀ c slot, SitsAt constants c slot → pool.slots[slot]? = some (some c)
  /-- The slots that are not used. -/
  unusable_iff : ∀ slot, pool.slots[slot]? = some none ↔
    slot = 0 ∨ ∃ c first, c.IsWide ∧ SitsAt constants c first ∧ slot = first + 1
  /-- No constant is read once the count is reached. -/
  lt_count : ∀ c slot, SitsAt constants c slot → slot < count
  none_read : count ≤ 1 → constants = [] ∧ pool.size = 1
  /-- The last constant reaches the count.  Only if it is wide and has the last slot below the count
  is there one slot more. -/
  last_read : 2 ≤ count → ∃ before c, constants = before ++ [c] ∧
    count ≤ 1 + totalWidth before + c.width ∧
    (c.IsWide ∧ 1 + totalWidth before = count - 1 → pool.size = count + 1) ∧
    (¬ (c.IsWide ∧ 1 + totalWidth before = count - 1) → pool.size = count)
  /-- What is found at an index. -/
  constant_iff : ∀ index c, pool.constant index = .ok c ↔ SitsAt constants c index.toNat
  error_iff : ∀ index, pool.constant index = .error (.badIndex index .any) ↔
    ¬ ∃ c, SitsAt constants c index.toNat

theorem hasLayout_ofConstants {count : Nat} {cs : List Constant} (h : FillsUpTo count 1 cs) :
    HasLayout count cs (ofConstants cs) where
  placed c slot hc := (getElem?_slots_ofConstants_iff cs slot c).2 hc
  unusable_iff := getElem?_slots_eq_none_iff cs
  lt_count c slot hc := by
    obtain ⟨before, after, heq, rfl⟩ := hc
    exact h.lt_count before c after heq
  none_read hcount := by
    have hnil : cs = [] := by
      cases cs with
      | nil => rfl
      | cons c cs =>
        have := h.lt_count [] c cs rfl
        omega
    rw [size_ofConstants, hnil]
    exact ⟨rfl, rfl⟩
  last_read hcount := by
    rcases List.eq_nil_or_concat cs with rfl | ⟨before, c, rfl⟩
    · have := h.count_le
      rw [totalWidth] at this
      omega
    · rw [List.concat_eq_append] at h ⊢
      have hlt := h.lt_count before c [] rfl
      have hle := h.count_le
      rw [totalWidth_append, totalWidth, totalWidth, Nat.add_zero, ← Nat.add_assoc] at hle
      have hsize : (ofConstants (before ++ [c])).size = 1 + totalWidth before + c.width := by
        rw [size_ofConstants, totalWidth_append, totalWidth, totalWidth]
        omega
      refine ⟨before, c, rfl, hle, ?_, ?_⟩
      · rintro ⟨hwide, hslot⟩
        rw [hsize, Constant.width_of_isWide hwide]
        omega
      · intro hnot
        by_cases hwide : c.IsWide
        · have hslot : 1 + totalWidth before ≠ count - 1 := fun heq => hnot ⟨hwide, heq⟩
          rw [hsize]
          rw [Constant.width_of_isWide hwide] at hle ⊢
          omega
        · rw [hsize]
          rw [Constant.width_of_not_isWide hwide] at hle ⊢
          omega
  constant_iff := constant_ofConstants_iff cs
  error_iff index := by
    have hfound : (∃ c, SitsAt cs c index.toNat) ↔ ∃ c, (ofConstants cs).constant index = .ok c :=
      exists_congr fun c => (constant_ofConstants_iff cs index c).symm
    rw [hfound, constant]
    cases (ofConstants cs).get? index <;> simp

/-- A pool that is read has the layout of its constants: the declared count and then the constants
are read from the stream, one after the other. -/
theorem read_layout (s s' : ByteStream) (pool : ConstantPool)
    (h : ConstantPool.read s = .ok pool s') :
    ∃ (count : UInt16) (s₁ : ByteStream) (constants : List Constant),
      Reader.u16 s = .ok count s₁ ∧ ReadInOrder 1 s₁ constants s' ∧
      HasLayout count.toNat constants pool := by
  obtain ⟨count, s₁, hcount, hrest⟩ := bind_eq_ok h
  obtain ⟨constants, s₂, hconstants, hpure⟩ := bind_eq_ok hrest
  cases hpure
  have hle : count.toNat ≤ 65535 := Nat.le_of_lt_succ count.toNat_lt
  obtain ⟨horder, hfills⟩ := readConstants_eq_ok hle hconstants
  exact ⟨count, s₁, constants, adaptExcept_eq_ok hcount, horder, hasLayout_ofConstants hfills⟩

/-- A count of 3, an integer, a long in the last slot below the count, and a byte behind them. -/
def wideLastBytes : List UInt8 := [0, 3, 3, 0, 0, 0, 7, 5, 0, 0, 0, 0, 0, 0, 0, 42, 0xff]

theorem read_layout_wideLast :
    ConstantPool.read ⟨0, wideLastBytes⟩ =
        .ok (.ofConstants [.integer 7, .long 42]) ⟨16, [0xff]⟩ ∧
      (ofConstants [.integer 7, .long 42]).size = 4 ∧
      ∃ (count : UInt16) (s₁ : ByteStream) (constants : List Constant),
        Reader.u16 ⟨0, wideLastBytes⟩ = .ok count s₁ ∧
        ReadInOrder 1 s₁ constants ⟨16, [0xff]⟩ ∧
        HasLayout count.toNat constants (.ofConstants [.integer 7, .long 42]) := by
  have hread : ConstantPool.read ⟨0, wideLastBytes⟩ =
      .ok (.ofConstants [.integer 7, .long 42]) ⟨16, [0xff]⟩ := by
    cbv
  exact ⟨hread, rfl, read_layout _ _ _ hread⟩

end ConstantPool

end CtorLeak
