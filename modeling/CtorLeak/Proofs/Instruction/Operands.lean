import CtorLeak.Instruction.Decode
import CtorLeak.Proofs.Bytes.Format
import CtorLeak.Proofs.Instruction.Encoding

/-!
# Operands

The decoder looks an opcode up in a table of forms and reads the operands that the form asks for.
`Form.Operands` and `Form.WideOperands` say which bytes these are, and which instruction they make;
the readers accept just them (`accepts_readOperands`, `accepts_readWide`).
-/

namespace CtorLeak

/-! ## Operands of a form -/

namespace Form

open Writer in
/-- The operand bytes of a form, and the instruction that they make.  `wide` has none of its own. -/
def Operands (pool : ConstantPool) (start : Nat) : Form → Instruction → List UInt8 → Prop
  | plain j, i, w => i = j ∧ w = []
  | byte f, i, w => ∃ value, w = i8 value ∧ i = f value
  | short f, i, w => ∃ value, w = i16 value ∧ i = f value
  | jump f, i, w => ∃ offset, w = i16 offset ∧ i = f offset.toInt32
  | wideJump f, i, w => ∃ offset, w = i32 offset ∧ i = f offset
  | slot f, i, w => ∃ slot, w = u8 slot ∧ i = f slot.toUInt16
  | narrowConstant f, i, w => ∃ index, w = u8 index ∧ i = f index.toUInt16
  | wideConstant f, i, w => ∃ index, w = u16 index ∧ i = f index
  | increment, i, w =>
    ∃ slot amount, w = u8 slot ++ i8 amount ∧ i = .increment slot.toUInt16 amount.toInt16
  | tableSwitch, i, w =>
    ∃ pad default low high targets, IsPadding start pad ∧
      high.toInt = low.toInt + (targets.length : Int) - 1 ∧
      w = pad ++ (i32 default ++ (i32 low ++ (i32 high ++ targets.flatMap i32))) ∧
      i = .tableSwitch default low targets
  | lookupSwitch, i, w =>
    ∃ pad default count pairs, IsPadding start pad ∧ count.toInt = (pairs.length : Int) ∧
      w = pad ++ (i32 default ++ (i32 count ++
        pairs.flatMap fun p : Int32 × Int32 => i32 p.1 ++ i32 p.2)) ∧
      i = .lookupSwitch default pairs
  | field f, i, w => ∃ index field, w = u16 index ∧ pool.fieldRef index = .ok field ∧ i = f field
  | method mode, i, w =>
    ∃ index method, w = u16 index ∧ pool.methodRef index = .ok method ∧ i = .invoke mode method
  | interfaceMethod, i, w =>
    ∃ index method count ignored, w = u16 index ++ (u8 count ++ u8 ignored) ∧
      pool.methodRef index = .ok method ∧ i = .invoke (.interface count) method
  | dynamicCall, i, w =>
    ∃ index site ignored, w = u16 index ++ u16 ignored ∧ pool.dynamicCallSite index = .ok site ∧
      i = .invokeDynamic site
  | classRef f, i, w => ∃ index name, w = u16 index ∧ pool.className index = .ok name ∧ i = f name
  | arrayType, i, w => ∃ type : BaseType, w = u8 type.arrayCode ∧ i = .newBaseArray type
  | multiArray, i, w =>
    ∃ index name dimensions, w = u16 index ++ u8 dimensions ∧ pool.className index = .ok name ∧
      i = .newMultiArray name dimensions
  | wide, _, _ => False

open Writer in
/-- The operand bytes of a form behind `wide`. -/
def WideOperands : Form → Instruction → List UInt8 → Prop
  | slot f, i, w => ∃ slot, w = u16 slot ∧ i = f slot
  | increment, i, w => ∃ slot amount, w = u16 slot ++ i16 amount ∧ i = .increment slot amount
  | _, _, _ => False

end Form

namespace Instruction

open Reader

variable {α : Type} {pool : ConstantPool} {start : Nat}

theorem accepts_operand {r : Reader ReadError α} {F : α → List UInt8 → Prop} (h : Accepts r F) :
    Accepts (operand start r) F :=
  h.adaptExcept _

theorem accepts_resolved (answer : Except ResolveError α) :
    Accepts (resolved answer) fun a w => answer = .ok a ∧ w = [] := by
  cases answer with
  | ok b =>
    refine (Accepts.pure b).congr fun a w => ?_
    rw [Except.ok.injEq, eq_comm]
  | error e =>
    refine (Accepts.throw _).congr fun a w => ?_
    simp

/-- A table whose room is checked before it is read is just a table of the right length: the check
fails only where reading would. -/
theorem accepts_entries (start : Nat) (size : UInt64) {r : Reader ReadError α}
    {write : α → List UInt8} (hr : Accepts r fun a w => w = write a)
    (hsize : ∀ a, (write a).length = size.toNat) (count : Int64) (f : List α → Instruction) :
    Accepts (do
        let n ← entryCount start count size
        let l ← operand start (times n r)
        return f l)
      fun i w => ∃ l, count.toInt = (l.length : Int) ∧ w = l.flatMap write ∧ i = f l := by
  have htable : ∀ n, Accepts (operand start (times n r) >>= fun l => Pure.pure (f l)) _ :=
    fun n => (accepts_operand (hr.times n)).bind_pure f
  constructor
  · rintro i w ⟨l, hcount, rfl, rfl⟩ offset rest
    have hroom : l.length * size.toNat ≤ (l.flatMap write ++ rest).length := by
      rw [List.length_append, length_flatMap_write hsize]
      exact Nat.le_add_right _ _
    rw [bind_of_eq_ok _ (entryCount_of_room hcount hroom)]
    exact (htable l.length).reads _ _ ⟨l, ⟨rfl, (row_flatMap_iff _ _ _).2 rfl⟩, rfl⟩ offset rest
  · intro s i s' h
    obtain ⟨n, s₁, hn, hl⟩ := bind_eq_ok h
    obtain ⟨hcount, rfl⟩ := entryCount_eq_ok hn
    obtain ⟨w, ⟨l, ⟨rfl, hrow⟩, rfl⟩, hrest⟩ := (htable n).sound _ _ _ hl
    exact ⟨w, ⟨l, hcount, (row_flatMap_iff _ _ _).1 hrow, rfl⟩, hrest⟩

/-- The bytes that are skipped in front of a switch. -/
theorem accepts_padding :
    Accepts (operand start (run (padding start))) fun pad w => IsPadding start pad ∧ w = pad := by
  refine (accepts_operand (accepts_run (padding start))).congr fun pad w => ?_
  have hpad : pad.length = padding start ↔ IsPadding start pad := by
    unfold padding IsPadding
    omega
  rw [hpad]

theorem accepts_readTableSwitch :
    Accepts (readTableSwitch start) (Form.Operands pool start .tableSwitch) := by
  have htargets : ∀ default low high : Int32, Accepts _ _ := fun default low high =>
    accepts_entries start 4 accepts_i32 Writer.length_i32 (targetCount low high)
      (tableSwitch default low)
  refine (accepts_padding.bind fun _ => (accepts_operand accepts_i32).bind fun default =>
    (accepts_operand accepts_i32).bind fun low => (accepts_operand accepts_i32).bind fun high =>
      htargets default low high).congr fun i w => ?_
  constructor
  · rintro ⟨pad, _, _, ⟨hpad, rfl⟩, ⟨default, _, _, rfl, ⟨low, _, _, rfl, ⟨high, _, _, rfl,
      ⟨targets, hcount, rfl, rfl⟩, rfl⟩, rfl⟩, rfl⟩, rfl⟩
    rw [toInt_targetCount] at hcount
    exact ⟨_, default, low, high, targets, hpad, by omega, rfl, rfl⟩
  · rintro ⟨pad, default, low, high, targets, hpad, hhigh, rfl, rfl⟩
    have hcount : (targetCount low high).toInt = (targets.length : Int) := by
      rw [toInt_targetCount]
      omega
    exact ⟨pad, _, _, ⟨hpad, rfl⟩, ⟨default, _, _, rfl, ⟨low, _, _, rfl, ⟨high, _, _, rfl,
      ⟨targets, hcount, rfl, rfl⟩, rfl⟩, rfl⟩, rfl⟩, rfl⟩

theorem accepts_keyedTarget :
    Accepts keyedTarget fun p w => w = Writer.i32 p.1 ++ Writer.i32 p.2 := by
  refine (accepts_i32.bind fun key => accepts_i32.bind_pure (Prod.mk key)).congr fun p w => ?_
  constructor
  · rintro ⟨key, _, _, rfl, ⟨target, rfl, rfl⟩, rfl⟩
    rfl
  · rintro rfl
    exact ⟨p.1, _, _, rfl, ⟨p.2, rfl, rfl⟩, rfl⟩

theorem length_keyedTarget (p : Int32 × Int32) : (Writer.i32 p.1 ++ Writer.i32 p.2).length = 8 := by
  rw [List.length_append, Writer.length_i32, Writer.length_i32]

theorem accepts_readLookupSwitch :
    Accepts (readLookupSwitch start) (Form.Operands pool start .lookupSwitch) := by
  have hpairs : ∀ default count : Int32, Accepts _ _ := fun default count =>
    accepts_entries start 8 accepts_keyedTarget length_keyedTarget count.toInt64
      (lookupSwitch default)
  refine (accepts_padding.bind fun _ => (accepts_operand accepts_i32).bind fun default =>
    (accepts_operand accepts_i32).bind fun count => hpairs default count).congr fun i w => ?_
  constructor
  · rintro ⟨pad, _, _, ⟨hpad, rfl⟩, ⟨default, _, _, rfl, ⟨count, _, _, rfl,
      ⟨pairs, hcount, rfl, rfl⟩, rfl⟩, rfl⟩, rfl⟩
    rw [Int32.toInt_toInt64] at hcount
    exact ⟨_, default, count, pairs, hpad, hcount, rfl, rfl⟩
  · rintro ⟨pad, default, count, pairs, hpad, hcount, rfl, rfl⟩
    rw [← Int32.toInt_toInt64] at hcount
    exact ⟨pad, _, _, ⟨hpad, rfl⟩, ⟨default, _, _, rfl, ⟨count, _, _, rfl,
      ⟨pairs, hcount, rfl, rfl⟩, rfl⟩, rfl⟩, rfl⟩

theorem accepts_readArrayType :
    Accepts (readOperands pool start .arrayType) (Form.Operands pool start .arrayType) := by
  have hcode : ∀ code type, BaseType.ofArrayCode? code = some type ↔ code = type.arrayCode := by
    intro code type
    constructor
    · intro h
      unfold BaseType.ofArrayCode? at h
      split at h <;> cases h <;> rfl
    · rintro rfl
      cases type <;> rfl
  refine ((accepts_operand accepts_u8).bind (G := fun code i w => ∃ type,
    BaseType.ofArrayCode? code = some type ∧ i = newBaseArray type ∧ w = [])
      fun code => ?_).congr fun i w => ?_
  · cases BaseType.ofArrayCode? code with
    | some type => exact (Accepts.pure _).congr fun i w => by simp
    | none => exact (Accepts.throw _).congr fun i w => by simp
  constructor
  · rintro ⟨code, _, _, rfl, ⟨type, htype, rfl, rfl⟩, rfl⟩
    rw [(hcode code type).1 htype, List.append_nil]
    exact ⟨type, rfl, rfl⟩
  · rintro ⟨type, rfl, rfl⟩
    exact ⟨type.arrayCode, _, [], rfl, ⟨type, (hcode _ _).2 rfl, rfl, rfl⟩, by simp⟩

/-- An index that is resolved as soon as it is read. -/
theorem accepts_index {ρ : Type} (resolve : UInt16 → Except ResolveError ρ)
    {f : ρ → Reader CodeError Instruction} {G : ρ → Instruction → List UInt8 → Prop}
    (hf : ∀ a, Accepts (f a) (G a)) :
    Accepts (do
        let index ← operand start u16
        let a ← resolved (resolve index)
        f a)
      fun i w => ∃ index a v, resolve index = .ok a ∧ G a i v ∧ w = Writer.u16 index ++ v := by
  refine ((accepts_operand accepts_u16).bind fun index =>
    (accepts_resolved (resolve index)).bind hf).congr fun i w => ?_
  constructor
  · rintro ⟨index, _, _, rfl, ⟨a, _, _, ⟨ha, rfl⟩, hv, rfl⟩, rfl⟩
    exact ⟨index, a, _, ha, hv, rfl⟩
  · rintro ⟨index, a, v, ha, hv, rfl⟩
    exact ⟨index, _, _, rfl, ⟨a, [], v, ⟨ha, rfl⟩, hv, rfl⟩, rfl⟩

/-- An index and nothing else. -/
theorem accepts_index_pure {ρ : Type} (resolve : UInt16 → Except ResolveError ρ)
    (f : ρ → Instruction) :
    Accepts (do
        let index ← operand start u16
        return f (← resolved (resolve index)))
      fun i w => ∃ index a, w = Writer.u16 index ∧ resolve index = .ok a ∧ i = f a := by
  refine (accepts_index resolve fun a => Accepts.pure (f a)).congr fun i w => ?_
  constructor
  · rintro ⟨index, a, _, ha, ⟨rfl, rfl⟩, rfl⟩
    exact ⟨index, a, List.append_nil _, ha, rfl⟩
  · rintro ⟨index, a, rfl, ha, rfl⟩
    exact ⟨index, a, [], ha, ⟨rfl, rfl⟩, (List.append_nil _).symm⟩

/-- What is read for a form other than `wide` is what the form asks for. -/
theorem accepts_readOperands (form : Form) (h : form ≠ .wide) :
    Accepts (readOperands pool start form) (form.Operands pool start) := by
  cases form with
  | plain i => exact .pure i
  | byte f => exact (accepts_operand accepts_i8).bind_pure f
  | short f => exact (accepts_operand accepts_i16).bind_pure f
  | jump f => exact (accepts_operand accepts_i16).bind_pure fun offset => f offset.toInt32
  | wideJump f => exact (accepts_operand accepts_i32).bind_pure f
  | slot f => exact (accepts_operand accepts_u8).bind_pure fun slot => f slot.toUInt16
  | narrowConstant f => exact (accepts_operand accepts_u8).bind_pure fun index => f index.toUInt16
  | wideConstant f => exact (accepts_operand accepts_u16).bind_pure f
  | increment =>
    refine ((accepts_operand accepts_u8).bind fun slot => (accepts_operand accepts_i8).bind_pure
      fun amount => increment slot.toUInt16 amount.toInt16).congr fun i w => ?_
    constructor
    · rintro ⟨slot, _, _, rfl, ⟨amount, rfl, rfl⟩, rfl⟩
      exact ⟨slot, amount, rfl, rfl⟩
    · rintro ⟨slot, amount, rfl, rfl⟩
      exact ⟨slot, _, _, rfl, ⟨amount, rfl, rfl⟩, rfl⟩
  | tableSwitch => exact accepts_readTableSwitch
  | lookupSwitch => exact accepts_readLookupSwitch
  | field f => exact accepts_index_pure pool.fieldRef f
  | method mode => exact accepts_index_pure pool.methodRef (invoke mode)
  | interfaceMethod =>
    refine (accepts_index pool.methodRef fun method =>
      (accepts_operand accepts_u8).bind fun count => (accepts_operand accepts_u8).bind_pure
        fun _ => invoke (.interface count) method).congr fun i w => ?_
    constructor
    · rintro ⟨index, method, _, hmethod, ⟨count, _, _, rfl, ⟨ignored, rfl, rfl⟩, rfl⟩, rfl⟩
      exact ⟨index, method, count, ignored, rfl, hmethod, rfl⟩
    · rintro ⟨index, method, count, ignored, rfl, hmethod, rfl⟩
      exact ⟨index, method, _, hmethod, ⟨count, _, _, rfl, ⟨ignored, rfl, rfl⟩, rfl⟩, rfl⟩
  | dynamicCall =>
    refine (accepts_index pool.dynamicCallSite fun site =>
      (accepts_operand accepts_u16).bind_pure fun _ => invokeDynamic site).congr fun i w => ?_
    constructor
    · rintro ⟨index, site, _, hsite, ⟨ignored, rfl, rfl⟩, rfl⟩
      exact ⟨index, site, ignored, rfl, hsite, rfl⟩
    · rintro ⟨index, site, ignored, rfl, hsite, rfl⟩
      exact ⟨index, site, _, hsite, ⟨ignored, rfl, rfl⟩, rfl⟩
  | classRef f => exact accepts_index_pure pool.className f
  | arrayType => exact accepts_readArrayType
  | multiArray =>
    refine (accepts_index pool.className fun name =>
      (accepts_operand accepts_u8).bind_pure fun dimensions => newMultiArray name dimensions).congr
        fun i w => ?_
    constructor
    · rintro ⟨index, name, _, hname, ⟨dimensions, rfl, rfl⟩, rfl⟩
      exact ⟨index, name, dimensions, rfl, hname, rfl⟩
    · rintro ⟨index, name, dimensions, rfl, hname, rfl⟩
      exact ⟨index, name, _, hname, ⟨dimensions, rfl, rfl⟩, rfl⟩
  | wide => exact absurd rfl h

/-- An opcode that is read first, and what its form then asks for. -/
theorem accepts_opcode {f : UInt8 → Reader CodeError Instruction}
    {G : Form → Instruction → List UInt8 → Prop}
    (hf : ∀ opcode, Accepts (f opcode) fun i v =>
      ∃ form, Form.ofOpcode? opcode = some form ∧ G form i v) :
    Accepts (operand start u8 >>= f) fun i w =>
      ∃ opcode form v, Form.ofOpcode? opcode = some form ∧ G form i v ∧ w = opcode :: v := by
  refine ((accepts_operand accepts_u8).bind hf).congr fun i w => ?_
  constructor
  · rintro ⟨opcode, _, v, rfl, ⟨form, hform, hv⟩, rfl⟩
    exact ⟨opcode, form, v, hform, hv, by rw [Writer.u8_eq]; rfl⟩
  · rintro ⟨opcode, form, v, hform, hv, rfl⟩
    exact ⟨opcode, _, v, rfl, ⟨form, hform, hv⟩, by rw [Writer.u8_eq]; rfl⟩

theorem accepts_readWide :
    Accepts (readWide start) fun i w => ∃ opcode form v,
      Form.ofOpcode? opcode = some form ∧ form.WideOperands i v ∧ w = opcode :: v := by
  refine accepts_opcode fun opcode => ?_
  cases hform : Form.ofOpcode? opcode with
  | none => exact (Accepts.throw _).congr fun i w => by simp
  | some form =>
    simp only [Option.some.injEq, exists_eq_left']
    cases form with
    | slot f => exact (accepts_operand accepts_u16).bind_pure f
    | increment =>
      refine ((accepts_operand accepts_u16).bind fun slot =>
        (accepts_operand accepts_i16).bind_pure fun amount => increment slot amount).congr
          fun i w => ?_
      constructor
      · rintro ⟨slot, _, _, rfl, ⟨amount, rfl, rfl⟩, rfl⟩
        exact ⟨slot, amount, rfl, rfl⟩
      · rintro ⟨slot, amount, rfl, rfl⟩
        exact ⟨slot, _, _, rfl, ⟨amount, rfl, rfl⟩, rfl⟩
    | _ => exact Accepts.throw _

end Instruction

end CtorLeak
