import CtorLeak.ClassFile.Writer
import CtorLeak.Proofs.Bytes.Format
import CtorLeak.Proofs.Text.ModifiedUtf8

/-!
# The constant pool is read back

A pool is laid out from a list of constants, and each of them has its slot behind those of the
constants before it (`get?_ofConstants_iff`).  Reading takes the list back from the written pool, so
that it builds the same layout (`reads_pool`).
-/

namespace CtorLeak

open Reader

theorem Reader.Reads.lift {α : Type} {r : Reader ReadError α} {a : α} {w : List UInt8}
    (h : Reads r a w) : Reads (liftM r : Reader FormatError α) a w :=
  h.adaptExcept _

/-! ## Layout -/

namespace ConstantPool

/-- How many slots some constants take together. -/
def totalWidth : List Constant → Nat
  | [] => 0
  | c :: cs => c.width + totalWidth cs

theorem length_slotsOf (c : Constant) : (slotsOf c).length = c.width := by
  have := c.width_pos
  rw [slotsOf, List.length_cons, List.length_replicate]
  omega

theorem size_ofConstants (cs : List Constant) : (ofConstants cs).size = 1 + totalWidth cs := by
  have hlength : (cs.flatMap slotsOf).length = totalWidth cs := by
    induction cs with
    | nil => rfl
    | cons c cs ih => rw [List.flatMap_cons, List.length_append, length_slotsOf, ih, totalWidth]
  rw [size, ofConstants, List.size_toArray, List.length_cons, hlength, Nat.add_comm]

theorem constants_ofConstants (cs : List Constant) : (ofConstants cs).constants = cs := by
  have hslots : (cs.flatMap slotsOf).filterMap id = cs := by
    induction cs with
    | nil => rfl
    | cons c cs ih =>
      rw [List.flatMap_cons, List.filterMap_append, ih, slotsOf]
      simp
  exact hslots

/-- A slot belongs to one of the constants, and the constants before this one fill the slots in
front. -/
theorem getElem?_flatMap_slotsOf_iff (cs : List Constant) (k : Nat) (entry : Option Constant) :
    (cs.flatMap slotsOf)[k]? = some entry ↔
      ∃ before c after d, cs = before ++ c :: after ∧ k = totalWidth before + d ∧
        (slotsOf c)[d]? = some entry := by
  induction cs generalizing k with
  | nil => simp
  | cons c cs ih =>
    rw [List.flatMap_cons]
    by_cases hlt : k < c.width
    · rw [List.getElem?_append_left (by rwa [length_slotsOf])]
      constructor
      · intro hk
        exact ⟨[], c, cs, k, rfl, by rw [totalWidth, Nat.zero_add], hk⟩
      · rintro ⟨before, x, after, d, hcs, rfl, hd⟩
        cases before with
        | nil =>
          cases hcs
          rwa [totalWidth, Nat.zero_add]
        | cons b before =>
          cases hcs
          rw [totalWidth] at hlt
          omega
    · rw [List.getElem?_append_right (by rw [length_slotsOf]; omega), length_slotsOf, ih]
      constructor
      · rintro ⟨before, x, after, d, rfl, hk, hd⟩
        refine ⟨c :: before, x, after, d, rfl, ?_, hd⟩
        rw [totalWidth]
        omega
      · rintro ⟨before, x, after, d, hcs, rfl, hd⟩
        cases before with
        | nil =>
          cases hcs
          have hlength := (List.getElem?_eq_some_iff.1 hd).1
          rw [length_slotsOf] at hlength
          rw [totalWidth] at hlt
          omega
        | cons b before =>
          cases hcs
          refine ⟨before, x, after, d, rfl, ?_, hd⟩
          rw [totalWidth]
          omega

theorem getElem?_slotsOf_eq_constant_iff (c : Constant) (d : Nat) (x : Constant) :
    (slotsOf c)[d]? = some (some x) ↔ d = 0 ∧ c = x := by
  cases d <;> simp [slotsOf, List.getElem?_replicate]

theorem getElem?_slotsOf_eq_none_iff (c : Constant) (d : Nat) :
    (slotsOf c)[d]? = some none ↔ 0 < d ∧ d < c.width := by
  cases d with
  | zero => simp [slotsOf]
  | succ d =>
    simp only [slotsOf, List.getElem?_cons_succ, List.getElem?_replicate, Nat.succ_pos, true_and]
    split <;> simp <;> omega

/-- A slot holds a constant exactly if those before it in the list fill the slots in front. -/
theorem getElem?_slots_iff (cs : List Constant) (k : Nat) (x : Constant) :
    (cs.flatMap slotsOf)[k]? = some (some x) ↔
      ∃ before after, cs = before ++ x :: after ∧ k = totalWidth before := by
  simp only [getElem?_flatMap_slotsOf_iff, getElem?_slotsOf_eq_constant_iff]
  constructor
  · rintro ⟨before, c, after, d, rfl, rfl, rfl, rfl⟩
    exact ⟨before, after, rfl, rfl⟩
  · rintro ⟨before, after, rfl, rfl⟩
    exact ⟨before, x, after, 0, rfl, rfl, rfl, rfl⟩

/-- The constant at an index is the one whose predecessors take the slots from 1 up to it. -/
theorem get?_ofConstants_iff (cs : List Constant) (index : UInt16) (x : Constant) :
    (ofConstants cs).get? index = some x ↔
      ∃ before after, cs = before ++ x :: after ∧ index.toNat = 1 + totalWidth before := by
  rw [get?, ofConstants, List.getElem?_toArray, Option.join_eq_some_iff]
  cases index.toNat with
  | zero =>
    constructor
    · intro h
      cases h
    · rintro ⟨before, after, -, h⟩
      omega
  | succ k =>
    rw [List.getElem?_cons_succ, getElem?_slots_iff]
    simp only [Nat.add_comm k 1, Nat.add_left_cancel_iff]

end ConstantPool

/-! ## Constants -/

namespace Constant

def text? : Constant → Option String
  | utf8 text => some text
  | _ => none

/-- A text has to fit behind its 16-bit length. -/
def Fits (c : Constant) : Prop :=
  ∀ text ∈ c.text?, (ModifiedUtf8.encode text).length ≤ 65535

instance (c : Constant) : Decidable c.Fits :=
  inferInstanceAs (Decidable (∀ text ∈ c.text?, (ModifiedUtf8.encode text).length ≤ 65535))

/-- One operand behind the tag. -/
theorem reads_one {α : Type} {r : Reader ReadError α} {a : α} {w : List UInt8} (hr : Reads r a w)
    (f : α → Constant) : Reads (do return f (← r) : Reader FormatError Constant) (f a) w :=
  hr.lift.bind_pure f

/-- Two operands behind the tag. -/
theorem reads_two {α β : Type} {r : Reader ReadError α} {q : Reader ReadError β} {a : α} {b : β}
    {u v : List UInt8} (hr : Reads r a u) (hq : Reads q b v) (f : α → β → Constant) :
    Reads (do return f (← r) (← q) : Reader FormatError Constant) (f a b) (u ++ v) :=
  hr.lift.bind (hq.lift.bind_pure (f a))

/-- The text of a constant, read from the bytes behind its length. -/
theorem reads_text (index : UInt16) (text : String)
    (h : (ModifiedUtf8.encode text).length ≤ 65535) :
    Reads (read index) (utf8 text) (write (utf8 text)) := by
  have hrun : Reads (run (UInt16.ofNat (ModifiedUtf8.encode text).length).toNat)
      (ModifiedUtf8.encode text) (ModifiedUtf8.encode text) :=
    reads_run (UInt16.toNat_ofNat_of_lt' (Nat.lt_succ_of_le h))
  rw [write, List.append_assoc]
  refine (accepts_u8.reads_write 1).lift.bind ((accepts_u16.reads_write _).lift.bind ?_)
  refine hrun.lift.bind_nil ?_
  simp only [ModifiedUtf8.decode?_encode]
  exact .pure _

/-- Every kind of constant is read back from its own layout. -/
theorem reads_read (index : UInt16) (c : Constant) (h : c.Fits) :
    Reads (read index) c c.write := by
  have htag : ∀ tag, Reads (liftM u8 : Reader FormatError UInt8) tag (Writer.u8 tag) :=
    fun tag => (accepts_u8.reads_write tag).lift
  have hindex : ∀ n, Reads u16 n (Writer.u16 n) := accepts_u16.reads_write
  cases c with
  | utf8 text => exact reads_text index text (h text rfl)
  | integer value => exact (htag 3).bind (reads_one (accepts_i32.reads_write value) integer)
  | float bits => exact (htag 4).bind (reads_one (accepts_u32.reads_write bits) float)
  | long value => exact (htag 5).bind (reads_one (accepts_i64.reads_write value) long)
  | double bits => exact (htag 6).bind (reads_one (accepts_u64.reads_write bits) double)
  | classInfo name => exact (htag 7).bind (reads_one (hindex name) classInfo)
  | string text => exact (htag 8).bind (reads_one (hindex text) string)
  | methodType descriptor => exact (htag 16).bind (reads_one (hindex descriptor) methodType)
  | moduleInfo name => exact (htag 19).bind (reads_one (hindex name) moduleInfo)
  | packageInfo name => exact (htag 20).bind (reads_one (hindex name) packageInfo)
  | fieldRef owner member =>
    rw [write, List.append_assoc]
    exact (htag 9).bind (reads_two (hindex owner) (hindex member) fieldRef)
  | methodRef owner member isInterface =>
    rw [write, List.append_assoc]
    cases isInterface with
    | false => exact (htag 10).bind (reads_two (hindex owner) (hindex member) (methodRef · · false))
    | true => exact (htag 11).bind (reads_two (hindex owner) (hindex member) (methodRef · · true))
  | nameAndType name descriptor =>
    rw [write, List.append_assoc]
    exact (htag 12).bind (reads_two (hindex name) (hindex descriptor) nameAndType)
  | methodHandle kind member =>
    rw [write, List.append_assoc]
    exact (htag 15).bind (reads_two (accepts_u8.reads_write kind) (hindex member) methodHandle)
  | dynamic bootstrap member =>
    rw [write, List.append_assoc]
    exact (htag 17).bind (reads_two (hindex bootstrap) (hindex member) dynamic)
  | invokeDynamic bootstrap member =>
    rw [write, List.append_assoc]
    exact (htag 18).bind (reads_two (hindex bootstrap) (hindex member) invokeDynamic)

end Constant

/-! ## Reading a pool -/

namespace ConstantPool

theorem reads_readConstants (cs : List Constant) (hcs : ∀ c ∈ cs, c.Fits) (index : Nat) :
    Reads (readConstants (index + totalWidth cs) index) cs (cs.flatMap Constant.write) := by
  -- each constant moves the index by its width, so the count that ends the loop stays the same
  induction cs generalizing index with
  | nil =>
    rw [readConstants, if_neg (by rw [totalWidth]; omega)]
    exact .pure []
  | cons c cs ih =>
    have hpos := c.width_pos
    have hc := Constant.reads_read (UInt16.ofNat index) c (hcs c List.mem_cons_self)
    have hrest := ih (fun d hd => hcs d (List.mem_cons_of_mem c hd)) (index + c.width)
    rw [readConstants, if_pos (by rw [totalWidth]; omega), List.flatMap_cons, totalWidth,
      ← Nat.add_assoc]
    exact hc.bind (hrest.bind_pure (c :: ·))

/-- A pool is read back from its constants, if their number of slots can be declared. -/
theorem reads_pool (cs : List Constant) (hcs : ∀ c ∈ cs, c.Fits) (hwidth : totalWidth cs ≤ 65534) :
    Reads ConstantPool.read (ofConstants cs) (ofConstants cs).write := by
  have hcount : (UInt16.ofNat (1 + totalWidth cs)).toNat = 1 + totalWidth cs :=
    UInt16.toNat_ofNat_of_lt' (by change _ < 65536; omega)
  have hread : Reads (readConstants (UInt16.ofNat (1 + totalWidth cs)).toNat 1) cs
      (cs.flatMap Constant.write) := by
    rw [hcount]
    exact reads_readConstants cs hcs 1
  rw [write, size_ofConstants, constants_ofConstants]
  exact (accepts_u16.reads_write _).lift.bind (hread.bind_pure ofConstants)

end ConstantPool

end CtorLeak
