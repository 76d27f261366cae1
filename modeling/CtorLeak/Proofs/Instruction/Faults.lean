import CtorLeak.Proofs.Bytes.Refusal
import CtorLeak.Proofs.Instruction.Decoding

/-!
# Faults in code

`Fault pool start e bytes` says what is wrong with the instruction at the front of `bytes`, which is
at offset `start` of a code array: its opcode is none, or something is wrong with its operands.
What operands there have to be depends on the opcode only (`Layout.ofOpcode?`), and `Layout.Fault`
has a rule for each way in which they go wrong.  An index is followed before anything behind it is
looked at, so a bad index is reported even where the instruction is cut short behind it.

Code fails to decode exactly if such an instruction stands behind instructions that decode, and its
error is the one that the fault says (`decode_eq_error_iff`).
-/

namespace CtorLeak

/-! ## Layouts -/

/-- What the index of an operand has to lead to. -/
inductive Referent where
  | field
  | method
  | dynamicCall
  | className
deriving DecidableEq

/-- Follows an index, only to see whether it leads anywhere. -/
def ConstantPool.follow (pool : ConstantPool) : Referent → UInt16 → Except ResolveError Unit
  | .field, index => (pool.fieldRef index).map fun _ => ()
  | .method, index => (pool.methodRef index).map fun _ => ()
  | .dynamicCall, index => (pool.dynamicCallSite index).map fun _ => ()
  | .className, index => (pool.className index).map fun _ => ()

/-- What stands behind an opcode. -/
inductive Layout where
  /-- So many bytes, whichever they are. -/
  | fixed (length : Nat)
  /-- An index on two bytes, and so many bytes behind it. -/
  | index (referent : Referent) (length : Nat)
  | arrayType
  | tableSwitch
  | lookupSwitch
  | wide
deriving DecidableEq

namespace Layout

/-- The layouts of the opcodes; from 0xca on there are none. -/
def ofOpcode? (opcode : UInt8) : Option Layout :=
  if 0xca ≤ opcode then none
  else if opcode = 0xaa then some tableSwitch
  else if opcode = 0xab then some lookupSwitch
  else if opcode = 0xbc then some arrayType
  else if opcode = 0xc4 then some wide
  -- fields, methods, dynamic calls and classes
  else if 0xb2 ≤ opcode ∧ opcode ≤ 0xb5 then some (index .field 0)
  else if 0xb6 ≤ opcode ∧ opcode ≤ 0xb8 then some (index .method 0)
  else if opcode = 0xb9 then some (index .method 2)
  else if opcode = 0xba then some (index .dynamicCall 2)
  else if opcode ∈ [0xbb, 0xbd, 0xc0, 0xc1] then some (index .className 0)
  else if opcode = 0xc5 then some (index .className 1)
  -- small numbers, local variables, jumps
  else if opcode ∈ [0x10, 0x12, 0xa9] then some (fixed 1)
  else if 0x15 ≤ opcode ∧ opcode ≤ 0x19 ∨ 0x36 ≤ opcode ∧ opcode ≤ 0x3a then some (fixed 1)
  else if opcode ∈ [0x11, 0x13, 0x14, 0x84, 0xc6, 0xc7] then some (fixed 2)
  else if 0x99 ≤ opcode ∧ opcode ≤ 0xa8 then some (fixed 2)
  else if opcode ∈ [0xc8, 0xc9] then some (fixed 4)
  else some (fixed 0)

/-- The number of bytes behind an opcode that `wide` stands in front of. -/
def wideLength? (opcode : UInt8) : Option Nat :=
  if 0x15 ≤ opcode ∧ opcode ≤ 0x19 ∨ 0x36 ≤ opcode ∧ opcode ≤ 0x3a ∨ opcode = 0xa9 then some 2
  else if opcode = 0x84 then some 4
  else none

open Writer in
/-- What is wrong with the bytes behind the opcode at `start`. -/
inductive Fault (pool : ConstantPool) (start : Nat) :
    Layout → CodeError → List UInt8 → Prop where
  | fixed {length : Nat} {w : List UInt8} (h : w.length < length) :
      Fault pool start (.fixed length) (.truncated start) w
  | noIndex {referent : Referent} {length : Nat} {w : List UInt8} (h : w.length < 2) :
      Fault pool start (.index referent length) (.truncated start) w
  | badIndex {referent : Referent} {length : Nat} {index : UInt16} {e : ResolveError}
      (h : pool.follow referent index = .error e) (v : List UInt8) :
      Fault pool start (.index referent length) (.resolve e) (u16 index ++ v)
  | behindIndex {referent : Referent} {length : Nat} {index : UInt16} {v : List UInt8}
      (hindex : pool.follow referent index = .ok ()) (h : v.length < length) :
      Fault pool start (.index referent length) (.truncated start) (u16 index ++ v)
  | noArrayType : Fault pool start .arrayType (.truncated start) []
  | badArrayType {code : UInt8} (h : code < 4 ∨ 11 < code) (v : List UInt8) :
      Fault pool start .arrayType (.badArrayType code start) (code :: v)
  | noWideOpcode : Fault pool start .wide (.truncated start) []
  | badWideOpcode {opcode : UInt8} (h : wideLength? opcode = none) (v : List UInt8) :
      Fault pool start .wide (.badWideOpcode opcode start) (opcode :: v)
  | behindWideOpcode {opcode : UInt8} {length : Nat} {v : List UInt8}
      (hopcode : wideLength? opcode = some length) (h : v.length < length) :
      Fault pool start .wide (.truncated start) (opcode :: v)
  | tableHeader {pad w : List UInt8} (hpad : IsPadding start pad) (h : w.length < pad.length + 12) :
      Fault pool start .tableSwitch (.truncated start) w
  | tableEntries {pad v : List UInt8} {default low high : Int32} (hpad : IsPadding start pad)
      (h : high.toInt - low.toInt + 1 < 0 ∨ v.length < (high.toInt - low.toInt + 1) * 4) :
      Fault pool start .tableSwitch (.truncated start)
        (pad ++ (i32 default ++ (i32 low ++ (i32 high ++ v))))
  | lookupHeader {pad w : List UInt8} (hpad : IsPadding start pad) (h : w.length < pad.length + 8) :
      Fault pool start .lookupSwitch (.truncated start) w
  | lookupEntries {pad v : List UInt8} {default count : Int32} (hpad : IsPadding start pad)
      (h : count.toInt < 0 ∨ v.length < count.toInt * 8) :
      Fault pool start .lookupSwitch (.truncated start) (pad ++ (i32 default ++ (i32 count ++ v)))

end Layout

/-- What is wrong with the instruction at `start`. -/
inductive Fault (pool : ConstantPool) (start : Nat) : CodeError → List UInt8 → Prop where
  | unknownOpcode {opcode : UInt8} (h : 0xca ≤ opcode) (w : List UInt8) :
      Fault pool start (.unknownOpcode opcode start) (opcode :: w)
  | operands {opcode : UInt8} {layout : Layout} {e : CodeError} {w : List UInt8}
      (hlayout : Layout.ofOpcode? opcode = some layout) (h : layout.Fault pool start e w) :
      Fault pool start e (opcode :: w)

/-! ## The layout of a form -/

/-- A table over all bytes is checked row by row. -/
theorem forall_byte {P : UInt8 → Prop} (h : ∀ n : Fin 256, P (.ofNat n)) (b : UInt8) : P b := by
  have hb := h ⟨b.toNat, b.toNat_lt⟩
  rwa [UInt8.ofNat_toNat] at hb

namespace Form

def layout : Form → Layout
  | plain _ => .fixed 0
  | byte _ | slot _ | narrowConstant _ => .fixed 1
  | short _ | jump _ | wideConstant _ | increment => .fixed 2
  | wideJump _ => .fixed 4
  | tableSwitch => .tableSwitch
  | lookupSwitch => .lookupSwitch
  | field _ => .index .field 0
  | method _ => .index .method 0
  | interfaceMethod => .index .method 2
  | dynamicCall => .index .dynamicCall 2
  | classRef _ => .index .className 0
  | multiArray => .index .className 1
  | arrayType => .arrayType
  | wide => .wide

def wideLength? : Form → Option Nat
  | slot _ => some 2
  | increment => some 4
  | _ => none

/-- The table of forms has the layouts of the opcodes, also behind `wide`. -/
theorem layout_ofOpcode? (opcode : UInt8) :
    (ofOpcode? opcode).map layout = Layout.ofOpcode? opcode ∧
      (ofOpcode? opcode).bind wideLength? = Layout.wideLength? opcode := by
  revert opcode
  apply forall_byte
  decide +kernel

end Form

theorem Layout.ofOpcode?_eq_none_iff (opcode : UInt8) :
    ofOpcode? opcode = none ↔ 0xca ≤ opcode := by
  revert opcode
  apply forall_byte
  decide +kernel

theorem BaseType.ofArrayCode?_eq_none_iff (code : UInt8) :
    ofArrayCode? code = none ↔ code < 4 ∨ 11 < code := by
  revert code
  apply forall_byte
  decide +kernel

namespace Instruction

open Reader

variable {α : Type} {pool : ConstantPool} {start : Nat}

/-! ## Operands that are refused -/

theorem takes_operand {n : Nat} {r : Reader ReadError α} (hr : Takes (fun _ => True) n r) :
    Takes (· = .truncated start) n (operand start r) :=
  hr.adaptExcept _ fun _ _ => rfl

theorem refuses_fixed {n : Nat} {r : Reader CodeError Instruction}
    (hr : Takes (· = .truncated start) n r) :
    Refuses r ((Layout.fixed n).Fault pool start) := by
  refine hr.refuses.congr fun e w => ?_
  constructor
  · rintro ⟨h, rfl⟩
    exact .fixed h
  · rintro ⟨h⟩
    exact ⟨h, rfl⟩

theorem refuses_resolved (answer : Except ResolveError α) :
    Refuses (resolved answer) fun e _ => ∃ e', answer = .error e' ∧ e = .resolve e' := by
  cases answer with
  | ok a => exact (Refuses.pure a).congr fun e w => by simp
  | error e => exact (Refuses.throw _).congr fun e' w => by simp

/-- An index that is followed before what stands behind it is read. -/
theorem refuses_index {ρ : Type} {referent : Referent} (resolve : UInt16 → Except ResolveError ρ)
    (hresolve : ∀ index, pool.follow referent index = (resolve index).map fun _ => ())
    {n : Nat} {f : ρ → Reader CodeError Instruction}
    (hf : ∀ a, Takes (· = .truncated start) n (f a)) :
    Refuses (do
        let index ← operand start u16
        let a ← resolved (resolve index)
        f a)
      ((Layout.index referent n).Fault pool start) := by
  refine ((takes_operand .u16).refuses.bind (accepts_operand accepts_u16) fun index =>
    (refuses_resolved (resolve index)).bind (accepts_resolved _) fun a =>
      (hf a).refuses).congr fun e w => ?_
  constructor
  · rintro (⟨h, rfl⟩ | ⟨index, _, v, rfl, ⟨e', he', rfl⟩ | ⟨a, _, _, ⟨ha, rfl⟩, ⟨h, rfl⟩, rfl⟩,
      rfl⟩)
    · exact .noIndex h
    · exact .badIndex (by rw [hresolve, he']; rfl) v
    · exact .behindIndex (by rw [hresolve, ha]; rfl) h
  · intro h
    cases h with
    | noIndex h => exact .inl ⟨h, rfl⟩
    | @badIndex _ _ index e' h v =>
      rw [hresolve] at h
      refine .inr ⟨index, _, v, rfl, .inl ⟨e', ?_, rfl⟩, rfl⟩
      cases hr : resolve index <;> simp_all [Except.map]
    | @behindIndex _ _ index v hindex h =>
      rw [hresolve] at hindex
      cases hr : resolve index with
      | error e' => rw [hr] at hindex; cases hindex
      | ok a => exact .inr ⟨index, _, v, rfl, .inr ⟨a, [], v, ⟨hr, rfl⟩, ⟨h, rfl⟩, rfl⟩, rfl⟩

/-- A byte that is looked at before anything else. -/
theorem refuses_byte {f : UInt8 → Reader CodeError Instruction}
    {G : UInt8 → CodeError → List UInt8 → Prop} (hf : ∀ byte, Refuses (f byte) (G byte)) :
    Refuses (operand start u8 >>= f) fun e w =>
      (w = [] ∧ e = .truncated start) ∨ ∃ byte v, G byte e v ∧ w = byte :: v := by
  refine ((takes_operand .u8).refuses.bind (accepts_operand accepts_u8) hf).congr fun e w => ?_
  simp only [Nat.lt_one_iff, List.length_eq_zero_iff, Writer.u8_eq]
  refine or_congr_right ?_
  constructor
  · rintro ⟨byte, _, v, rfl, hv, rfl⟩
    exact ⟨byte, v, hv, rfl⟩
  · rintro ⟨byte, v, hv, rfl⟩
    exact ⟨byte, _, v, rfl, hv, rfl⟩

theorem refuses_arrayType :
    Refuses (readOperands pool start .arrayType) (Layout.arrayType.Fault pool start) := by
  refine (refuses_byte (G := fun code e _ =>
    (code < 4 ∨ 11 < code) ∧ e = .badArrayType code start) fun code => ?_).congr fun e w => ?_
  · rw [← BaseType.ofArrayCode?_eq_none_iff]
    cases BaseType.ofArrayCode? code with
    | some type => exact (Refuses.pure _).congr fun e w => by simp
    | none => exact (Refuses.throw _).congr fun e w => by simp
  constructor
  · rintro (⟨rfl, rfl⟩ | ⟨code, v, ⟨h, rfl⟩, rfl⟩)
    · exact .noArrayType
    · exact .badArrayType h v
  · intro h
    cases h with
    | noArrayType => exact .inl ⟨rfl, rfl⟩
    | badArrayType h v => exact .inr ⟨_, v, ⟨h, rfl⟩, rfl⟩

theorem refuses_readWide : Refuses (readWide start) (Layout.wide.Fault pool start) := by
  refine (refuses_byte (G := fun opcode e v =>
    (Layout.wideLength? opcode = none ∧ e = .badWideOpcode opcode start) ∨
      ∃ n, Layout.wideLength? opcode = some n ∧ v.length < n ∧ e = .truncated start)
        fun opcode => ?_).congr fun e w => ?_
  · rw [← (Form.layout_ofOpcode? opcode).2]
    cases Form.ofOpcode? opcode with
    | none => exact (Refuses.throw _).congr fun e w => by simp
    | some form =>
      cases form with
      | slot f =>
        refine ((takes_operand .u16).bind_pure f).refuses.congr fun e w => ?_
        simp [Form.wideLength?]
      | increment =>
        refine ((takes_operand .u16).bind fun slot => (takes_operand .i16).bind_pure
          (increment slot)).refuses.congr fun e w => ?_
        simp [Form.wideLength?]
      | _ => exact (Refuses.throw _).congr fun e w => by simp [Form.wideLength?]
  constructor
  · rintro (⟨rfl, rfl⟩ | ⟨opcode, v, ⟨h, rfl⟩ | ⟨n, hn, h, rfl⟩, rfl⟩)
    · exact .noWideOpcode
    · exact .badWideOpcode h v
    · exact .behindWideOpcode hn h
  · intro h
    cases h with
    | noWideOpcode => exact .inl ⟨rfl, rfl⟩
    | badWideOpcode h v => exact .inr ⟨_, v, .inl ⟨h, rfl⟩, rfl⟩
    | behindWideOpcode hn h => exact .inr ⟨_, _, .inr ⟨_, hn, h, rfl⟩, rfl⟩

/-! ## Switches that are refused -/

/-- Once there is room for a table, reading it cannot fail. -/
theorem refuses_entries (size : UInt64) {r : Reader ReadError α} {n : Nat} (hsize : size.toNat = n)
    (hr : Takes (fun _ => True) n r) {count : Int64} {m : Int} (hcount : count.toInt = m)
    (f : List α → Instruction) :
    Refuses (do
        let k ← entryCount start count size
        let l ← operand start (times k r)
        return f l)
      fun e w => (m < 0 ∨ w.length < m * n) ∧ e = .truncated start := by
  subst hcount hsize
  have htable (k : Nat) : Takes (· = .truncated start) (k * size.toNat)
      (operand start (times k r) >>= fun l => pure (f l)) :=
    (takes_operand (hr.times k)).bind_pure f
  intro s e
  obtain ⟨k, hk, -, hok⟩ | ⟨hshort, herror⟩ := entryCount_cases start count size s
  · rw [bind_of_eq_ok _ hok, (htable k).refuses s e, hk]
    refine and_congr_left fun _ => ?_
    omega
  · have hrefused : count.toInt < 0 ∨ s.rest.length < count.toInt * size.toNat := by
      rcases hshort with hneg | ⟨k, hk, hlt⟩
      · exact .inl hneg
      · rw [hk]
        omega
    rw [bind_of_eq_error _ herror]
    constructor
    · rintro ⟨s', h⟩
      cases h
      exact ⟨hrefused, rfl⟩
    · rintro ⟨-, rfl⟩
      exact ⟨s, rfl⟩

theorem length_eq_padding {pad : List UInt8} (h : IsPadding start pad) :
    pad.length = padding start := by
  unfold padding
  unfold IsPadding at h
  omega

theorem isPadding_replicate (start : Nat) : IsPadding start (List.replicate (padding start) 0) := by
  unfold IsPadding padding
  rw [List.length_replicate]
  omega

theorem refuses_readTableSwitch :
    Refuses (readTableSwitch start) (Layout.tableSwitch.Fault pool start) := by
  -- what stands in front of the table is of one length, so it is taken as one part
  have hsplit : readTableSwitch start = (do
      let _ ← operand start (run (padding start))
      let default ← operand start i32
      let low ← operand start i32
      let high ← operand start i32
      return (default, low, high)) >>= fun h => do
        let n ← entryCount start (targetCount h.2.1 h.2.2) 4
        let l ← operand start (times n i32)
        return tableSwitch h.1 h.2.1 l := by
    simp only [readTableSwitch, bind_assoc, pure_bind]
  rw [hsplit]
  refine (((takes_operand (.run _)).bind fun _ => (takes_operand .i32).bind fun default =>
    (takes_operand .i32).bind fun low => (takes_operand .i32).bind_pure
      fun high => (default, low, high)).refuses.bind
    (accepts_padding.bind fun _ => (accepts_operand accepts_i32).bind fun default =>
      (accepts_operand accepts_i32).bind fun low => (accepts_operand accepts_i32).bind_pure
        fun high => (default, low, high))
    fun h => refuses_entries 4 rfl .i32 (toInt_targetCount _ _)
      (tableSwitch h.1 h.2.1)).congr fun e w => ?_
  constructor
  · rintro (⟨h, rfl⟩ | ⟨_, _, v, ⟨pad, _, _, ⟨hpad, rfl⟩, ⟨default, _, _, rfl, ⟨low, _, _, rfl,
      ⟨high, rfl, rfl⟩, rfl⟩, rfl⟩, rfl⟩, ⟨h, rfl⟩, rfl⟩)
    · refine .tableHeader (isPadding_replicate start) ?_
      rw [List.length_replicate]
      omega
    · simp only [List.append_assoc]
      exact .tableEntries hpad h
  · intro h
    cases h with
    | tableHeader hpad h =>
      rw [length_eq_padding hpad] at h
      exact .inl ⟨h, rfl⟩
    | @tableEntries pad v default low high hpad h =>
      exact .inr ⟨(default, low, high), _, v, ⟨pad, _, _, ⟨hpad, rfl⟩, ⟨default, _, _, rfl,
        ⟨low, _, _, rfl, ⟨high, rfl, rfl⟩, rfl⟩, rfl⟩, rfl⟩, ⟨h, rfl⟩,
        by simp only [List.append_assoc]⟩

theorem takes_keyedTarget : Takes (fun _ => True) 8 keyedTarget :=
  Takes.i32.bind fun key => Takes.i32.bind_pure (Prod.mk key)

theorem refuses_readLookupSwitch :
    Refuses (readLookupSwitch start) (Layout.lookupSwitch.Fault pool start) := by
  have hsplit : readLookupSwitch start = (do
      let _ ← operand start (run (padding start))
      let default ← operand start i32
      let count ← operand start i32
      return (default, count)) >>= fun h => do
        let n ← entryCount start h.2.toInt64 8
        let l ← operand start (times n keyedTarget)
        return lookupSwitch h.1 l := by
    simp only [readLookupSwitch, bind_assoc, pure_bind]
  rw [hsplit]
  refine (((takes_operand (.run _)).bind fun _ => (takes_operand .i32).bind fun default =>
    (takes_operand .i32).bind_pure fun count => (default, count)).refuses.bind
    (accepts_padding.bind fun _ => (accepts_operand accepts_i32).bind fun default =>
      (accepts_operand accepts_i32).bind_pure fun count => (default, count))
    fun h => refuses_entries 8 rfl takes_keyedTarget (Int32.toInt_toInt64 _)
      (lookupSwitch h.1)).congr fun e w => ?_
  constructor
  · rintro (⟨h, rfl⟩ | ⟨_, _, v, ⟨pad, _, _, ⟨hpad, rfl⟩, ⟨default, _, _, rfl,
      ⟨count, rfl, rfl⟩, rfl⟩, rfl⟩, ⟨h, rfl⟩, rfl⟩)
    · refine .lookupHeader (isPadding_replicate start) ?_
      rw [List.length_replicate]
      omega
    · simp only [List.append_assoc]
      exact .lookupEntries hpad h
  · intro h
    cases h with
    | lookupHeader hpad h =>
      rw [length_eq_padding hpad] at h
      exact .inl ⟨h, rfl⟩
    | @lookupEntries pad v default count hpad h =>
      exact .inr ⟨(default, count), _, v, ⟨pad, _, _, ⟨hpad, rfl⟩, ⟨default, _, _, rfl,
        ⟨count, rfl, rfl⟩, rfl⟩, rfl⟩, ⟨h, rfl⟩, by simp only [List.append_assoc]⟩

/-! ## Instructions that are refused -/

theorem refuses_readOperands (form : Form) :
    Refuses (readOperands pool start form) (form.layout.Fault pool start) := by
  cases form with
  | plain i => exact refuses_fixed (.pure i)
  | byte f => exact refuses_fixed ((takes_operand .i8).bind_pure f)
  | short f => exact refuses_fixed ((takes_operand .i16).bind_pure f)
  | jump f => exact refuses_fixed ((takes_operand .i16).bind_pure _)
  | wideJump f => exact refuses_fixed ((takes_operand .i32).bind_pure f)
  | slot f | narrowConstant f => exact refuses_fixed ((takes_operand .u8).bind_pure _)
  | wideConstant f => exact refuses_fixed ((takes_operand .u16).bind_pure f)
  | increment =>
    exact refuses_fixed ((takes_operand .u8).bind fun _ => (takes_operand .i8).bind_pure _)
  | tableSwitch => exact refuses_readTableSwitch
  | lookupSwitch => exact refuses_readLookupSwitch
  | field f => exact refuses_index pool.fieldRef (fun _ => rfl) fun _ => .pure _
  | method mode => exact refuses_index pool.methodRef (fun _ => rfl) fun _ => .pure _
  | interfaceMethod =>
    exact refuses_index pool.methodRef (fun _ => rfl) fun _ =>
      (takes_operand .u8).bind fun _ => (takes_operand .u8).bind_pure _
  | dynamicCall =>
    exact refuses_index pool.dynamicCallSite (fun _ => rfl) fun _ =>
      (takes_operand .u16).bind_pure _
  | classRef f => exact refuses_index pool.className (fun _ => rfl) fun _ => .pure _
  | arrayType => exact refuses_arrayType
  | multiArray =>
    exact refuses_index pool.className (fun _ => rfl) fun _ => (takes_operand .u8).bind_pure _
  | wide =>
    rw [readOperands]
    exact refuses_readWide

theorem refuses_read :
    Refuses (read pool start) fun e w =>
      (w = [] ∧ e = .truncated start) ∨ Fault pool start e w := by
  refine (refuses_byte (G := fun opcode e v => Fault pool start e (opcode :: v))
    fun opcode => ?_).congr fun e w => or_congr_right ?_
  · have hlayout := (Form.layout_ofOpcode? opcode).1
    cases hform : Form.ofOpcode? opcode with
    | none =>
      rw [hform] at hlayout
      refine (Refuses.throw _).congr fun e w => ?_
      constructor
      · rintro rfl
        exact .unknownOpcode ((Layout.ofOpcode?_eq_none_iff opcode).1 hlayout.symm) w
      · intro h
        cases h with
        | unknownOpcode => rfl
        | operands hl => rw [← hlayout] at hl; cases hl
    | some form =>
      rw [hform] at hlayout
      refine (refuses_readOperands form).congr fun e w => ?_
      constructor
      · exact .operands hlayout.symm
      · intro h
        cases h with
        | unknownOpcode h =>
          rw [← Layout.ofOpcode?_eq_none_iff, ← hlayout] at h
          cases h
        | operands hl h =>
          rw [← hlayout] at hl
          cases hl
          exact h
  constructor
  · rintro ⟨opcode, v, h, rfl⟩
    exact h
  · intro h
    cases h with
    | unknownOpcode h v => exact ⟨_, v, .unknownOpcode h v, rfl⟩
    | operands hl h => exact ⟨_, _, .operands hl h, rfl⟩

/-! ## Code that is refused -/

theorem read_eq_error_iff (offset : Nat) {e : CodeError} {v : List UInt8} (hv : v ≠ []) :
    (∃ s, read pool start ⟨offset, v⟩ = .error e s) ↔ Fault pool start e v := by
  rw [refuses_read]
  simp [hv]

/-- Decoding stops at an instruction that cannot be read, behind others that can. -/
theorem exists_fault_of_decodeFrom {s : ByteStream} {e : CodeError}
    (h : decodeFrom pool s = .error e) :
    ∃ is u v, s.rest = u ++ v ∧ v ≠ [] ∧ EncodesAll pool s.offset is u ∧
      Fault pool (s.offset + u.length) e v := by
  fun_induction decodeFrom pool s with
  | case1 s hempty => cases h
  | case2 s hempty e' s' hread =>
    cases h
    have hne : s.rest ≠ [] := by rwa [List.isEmpty_iff] at hempty
    exact ⟨[], [], s.rest, rfl, hne, .nil _, (read_eq_error_iff _ hne).1 ⟨s', hread⟩⟩
  | case3 s hempty i s' hread hlt e' hrest ih =>
    cases h
    obtain ⟨is, u, v, hu, hv, his, hfault⟩ := ih hrest
    obtain ⟨w, hw, hrest', hoffset⟩ := accepts_read.sound _ _ _ hread
    rw [hoffset] at his hfault
    refine ⟨i :: is, w ++ u, v, ?_, hv, .cons hw his, ?_⟩
    · rw [hrest', hu, List.append_assoc]
    · rwa [List.length_append, ← Nat.add_assoc]
  | case4 s hempty i s' hread hlt is hrest ih => cases h

/-- No instruction is encoded where there is a fault. -/
theorem not_encodes_of_fault {e : CodeError} {v : List UInt8} (h : Fault pool start e v)
    {i : Instruction} {w : List UInt8} (hw : Encodes pool start i w) : ¬ w <+: v := by
  rintro ⟨rest, rfl⟩
  obtain ⟨s, hs⟩ := (refuses_read ⟨0, w ++ rest⟩ e).2 (.inr h)
  rw [accepts_read.reads _ _ hw] at hs
  cases hs

/-- Code fails to decode exactly if the instructions up to some offset decode and the one that
starts there, which is no encoding of any, has a fault; the error is what the fault says, with that
offset. -/
theorem decode_eq_error_iff (pool : ConstantPool) (code : List UInt8) (e : CodeError) :
    decode pool code = .error e ↔ ∃ k, k < code.length ∧
      (∃ is, decode pool (code.take k) = .ok is) ∧
      (∀ i w, Encodes pool k i w → ¬ w <+: code.drop k) ∧ Fault pool k e (code.drop k) := by
  constructor
  · intro h
    obtain ⟨is, u, v, hcode, hv, his, hfault⟩ := exists_fault_of_decodeFrom h
    change code = u ++ v at hcode
    subst hcode
    rw [ByteStream.ofBytes, Nat.zero_add] at hfault
    refine ⟨u.length, ?_, ⟨is, ?_⟩, ?_, ?_⟩
    · rw [List.length_append]
      exact Nat.lt_add_of_pos_right (List.length_pos_iff.2 hv)
    · rw [List.take_left]
      exact decodeFrom_of_encodesAll his
    · rw [List.drop_left]
      exact fun i w => not_encodes_of_fault hfault
    · rwa [List.drop_left]
  · rintro ⟨k, hk, ⟨is, his⟩, -, hfault⟩
    have hne : code.drop k ≠ [] := by
      rw [ne_eq, List.drop_eq_nil_iff]
      omega
    have hlen : (code.take k).length = k := List.length_take_of_le (Nat.le_of_lt hk)
    obtain ⟨s, hs⟩ := (read_eq_error_iff k hne).2 hfault
    have happend := decodeFrom_append (encodesAll_of_decodeFrom his) (code.drop k)
    change decodeFrom pool ⟨0, code.take k ++ code.drop k⟩ = _ at happend
    rw [List.take_append_drop] at happend
    change decodeFrom pool ⟨0, code⟩ = .error e
    rw [happend]
    change (decodeFrom pool ⟨0 + (code.take k).length, code.drop k⟩).map _ = _
    rw [hlen, Nat.zero_add, decodeFrom_of_read_error hne hs]
    rfl

end Instruction

end CtorLeak
