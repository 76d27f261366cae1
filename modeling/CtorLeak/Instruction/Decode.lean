import CtorLeak.Bytes.Forward
import CtorLeak.Instruction.Basic

/-!
# Decoding code

A code array is a sequence of instructions, each an opcode byte followed by operands.  `forms`
lists, in the order of the opcodes from 0x00 to 0xc9, how the operands of each are read.  Operands
are big-endian; an index into the constant pool is resolved as soon as it is read.

An instruction that the code array cuts short is reported with the offset of its opcode.  Before the
table of a switch is read, its size is compared with what is left of the code.  Sizes are words of
64 bits, as on a 64-bit machine; the number of entries is a signed word of the same width.
-/

namespace CtorLeak

/-- How the operands of an opcode are read, and what instruction they make. -/
inductive Form where
  /-- No operands. -/
  | plain (i : Instruction)
  /-- A signed byte. -/
  | byte (f : Int8 → Instruction)
  /-- Two signed bytes. -/
  | short (f : Int16 → Instruction)
  /-- The offset of a jump on two bytes. -/
  | jump (f : Int32 → Instruction)
  /-- The offset of a jump on four bytes. -/
  | wideJump (f : Int32 → Instruction)
  /-- The number of a local variable on one byte. -/
  | slot (f : UInt16 → Instruction)
  /-- The index of a constant on one byte, not resolved. -/
  | narrowConstant (f : UInt16 → Instruction)
  /-- The index of a constant on two bytes, not resolved. -/
  | wideConstant (f : UInt16 → Instruction)
  /-- The number of a local variable and a signed byte. -/
  | increment
  /-- Padding to a multiple of four from the start of the code, default, low, high, targets. -/
  | tableSwitch
  /-- Padding, default, number of pairs, pairs of key and target. -/
  | lookupSwitch
  /-- The index of a field. -/
  | field (f : FieldRef → Instruction)
  /-- The index of a method. -/
  | method (mode : InvokeMode)
  /-- The index of a method, a count and a byte without meaning. -/
  | interfaceMethod
  /-- The index of a dynamic call site and two bytes without meaning. -/
  | dynamicCall
  /-- The index of a class. -/
  | classRef (f : BinaryName → Instruction)
  /-- The code of a base type. -/
  | arrayType
  /-- The index of a class and a number of dimensions. -/
  | multiArray
  /-- Another opcode, whose operands are twice as wide. -/
  | wide

namespace Form

open Instruction

/-- The forms of all opcodes. -/
def forms : List Form :=
  -- 0x00
  [plain nop] ++
  -- 0x01
  Literal.all.map (fun c => plain (push c)) ++
  -- 0x10
  [byte pushByte, short pushShort, narrowConstant ldc, wideConstant ldc, wideConstant ldc2] ++
  -- 0x15
  LocalType.all.map (fun t => slot (load t)) ++
  -- 0x1a
  LocalType.all.flatMap (fun t => [0, 1, 2, 3].map fun n => plain (load t n)) ++
  -- 0x2e
  ElementType.all.map (fun t => plain (arrayLoad t)) ++
  -- 0x36
  LocalType.all.map (fun t => slot (store t)) ++
  -- 0x3b
  LocalType.all.flatMap (fun t => [0, 1, 2, 3].map fun n => plain (store t n)) ++
  -- 0x4f
  ElementType.all.map (fun t => plain (arrayStore t)) ++
  -- 0x57
  StackOp.all.map (fun op => plain (stack op)) ++
  -- 0x60
  ArithmeticOp.all.flatMap (fun op => NumericType.all.map fun t => plain (arithmetic op t)) ++
  -- 0x78
  ShiftOp.all.flatMap (fun op => IntegralType.all.map fun t => plain (shift op t)) ++
  -- 0x7e
  BitwiseOp.all.flatMap (fun op => IntegralType.all.map fun t => plain (bitwise op t)) ++
  -- 0x84
  [increment] ++
  -- 0x85
  Conversion.all.map (fun c => plain (convert c)) ++
  -- 0x94
  [plain compareLong] ++
  -- 0x95
  NanOrder.all.map (fun nan => plain (compareFloat nan)) ++
  -- 0x97
  NanOrder.all.map (fun nan => plain (compareDouble nan)) ++
  -- 0x99
  Comparison.all.map (fun c => jump (ifZero c)) ++
  -- 0x9f
  Comparison.all.map (fun c => jump (ifInts c)) ++
  -- 0xa5
  Equality.all.map (fun c => jump (ifRefs c)) ++
  -- 0xa7
  [jump goto, jump jsr, slot ret, tableSwitch, lookupSwitch] ++
  -- 0xac
  LocalType.all.map (fun t => plain (returnValue t)) ++
  -- 0xb1
  [plain returnVoid, field getStatic, field putStatic, field getField, field putField] ++
  -- 0xb6
  [method .virtual, method .special, method .static, interfaceMethod, dynamicCall] ++
  -- 0xbb
  [classRef new, arrayType, classRef newRefArray, plain arrayLength, plain throwRef] ++
  -- 0xc0
  [classRef checkCast, classRef instanceOf, plain monitorEnter, plain monitorExit, wide] ++
  -- 0xc5
  [multiArray] ++
  -- 0xc6
  Equality.all.map (fun c => jump (ifNull c)) ++
  -- 0xc8
  [wideJump goto, wideJump jsr]

/-- The form of an opcode; `none` from 0xca on. -/
def ofOpcode? (opcode : UInt8) : Option Form := forms[opcode.toNat]?

end Form

/-- The base type of a new array's elements. -/
def BaseType.ofArrayCode? : UInt8 → Option BaseType
  | 4 => some boolean
  | 5 => some char
  | 6 => some float
  | 7 => some double
  | 8 => some byte
  | 9 => some short
  | 10 => some int
  | 11 => some long
  | _ => none

namespace Instruction

/-- Reads an operand of the instruction that starts at `start`. -/
def operand {α : Type} (start : Nat) (r : Reader ReadError α) : Reader CodeError α :=
  r.adaptExcept fun _ => .truncated start

/-- Continues with what an index resolves to. -/
def resolved {α : Type} (answer : Except ResolveError α) : Reader CodeError α :=
  match answer with
  | .ok a => pure a
  | .error e => throw (.resolve e)

/-- The bytes between the opcode at `start` and the next multiple of four. -/
def padding (start : Nat) : Nat := 3 - start % 4

/-- The number of targets from `low` to `high`, which 64 bits are enough for. -/
def targetCount (low high : Int32) : Int64 := high.toInt64 - low.toInt64 + 1

/-- The number of bytes of a table; if it does not fit in a word of 64 bits, the largest word. -/
def tableSize (count size : UInt64) : UInt64 :=
  if count.toNat * size.toNat < UInt64.size then count * size else 0xffffffffffffffff

/-- The number of entries of a table, once it is known that the code has room for them. -/
def entryCount (start : Nat) (count : Int64) (size : UInt64) : Reader CodeError Nat := fun s =>
  if count < 0 then .error (.truncated start) s
  else if s.rest.length < (tableSize count.toUInt64 size).toNat then .error (.truncated start) s
  else .ok count.toUInt64.toNat s

section Operands

open Reader

variable (pool : ConstantPool) (start : Nat)

/-- Reads the instruction whose operands `wide` makes larger: a local variable's number takes two
bytes, and so does an increment. -/
def readWide : Reader CodeError Instruction := do
  let opcode ← operand start u8
  match Form.ofOpcode? opcode with
  | some (.slot f) => return f (← operand start u16)
  | some .increment => return increment (← operand start u16) (← operand start i16)
  | _ => throw (.badWideOpcode opcode start)

def readTableSwitch : Reader CodeError Instruction := do
  let _ ← operand start (run (padding start))
  let default ← operand start i32
  let low ← operand start i32
  let high ← operand start i32
  let count ← entryCount start (targetCount low high) 4
  let targets ← operand start (times count i32)
  return tableSwitch default low targets

/-- A key of a lookup switch and its target. -/
def keyedTarget : Reader ReadError (Int32 × Int32) := do return (← i32, ← i32)

def readLookupSwitch : Reader CodeError Instruction := do
  let _ ← operand start (run (padding start))
  let default ← operand start i32
  let pairCount ← operand start i32
  let count ← entryCount start pairCount.toInt64 8
  let pairs ← operand start (times count keyedTarget)
  return lookupSwitch default pairs

/-- Reads the operands of an instruction that starts at `start`. -/
def readOperands : Form → Reader CodeError Instruction
  | .plain i => return i
  | .byte f => return f (← operand start i8)
  | .short f => return f (← operand start i16)
  | .jump f => return f (← operand start i16).toInt32
  | .wideJump f => return f (← operand start i32)
  | .slot f => return f (← operand start u8).toUInt16
  | .narrowConstant f => return f (← operand start u8).toUInt16
  | .wideConstant f => return f (← operand start u16)
  | .increment => return increment (← operand start u8).toUInt16 (← operand start i8).toInt16
  | .tableSwitch => readTableSwitch start
  | .lookupSwitch => readLookupSwitch start
  | .field f => do
    let index ← operand start u16
    return f (← resolved (pool.fieldRef index))
  | .method mode => do
    let index ← operand start u16
    return invoke mode (← resolved (pool.methodRef index))
  | .interfaceMethod => do
    let index ← operand start u16
    let method ← resolved (pool.methodRef index)
    let count ← operand start u8
    let _ ← operand start u8
    return invoke (.interface count) method
  | .dynamicCall => do
    let index ← operand start u16
    let site ← resolved (pool.dynamicCallSite index)
    let _ ← operand start u16
    return invokeDynamic site
  | .classRef f => do
    let index ← operand start u16
    return f (← resolved (pool.className index))
  | .arrayType => do
    let code ← operand start u8
    match BaseType.ofArrayCode? code with
    | some type => return newBaseArray type
    | none => throw (.badArrayType code start)
  | .multiArray => do
    let index ← operand start u16
    let name ← resolved (pool.className index)
    let dimensions ← operand start u8
    return newMultiArray name dimensions
  | .wide => readWide start

/-- Reads the instruction that starts at `start`. -/
def read : Reader CodeError Instruction := do
  let opcode ← operand start u8
  match Form.ofOpcode? opcode with
  | some form => readOperands pool start form
  | none => throw (.unknownOpcode opcode start)

end Operands

open Reader

variable {pool : ConstantPool} {start : Nat}

/-! ## Room for a table -/

theorem toInt_sub_toInt64 (low high : Int32) :
    (high.toInt64 - low.toInt64).toInt = high.toInt - low.toInt := by
  have := low.le_toInt
  have := low.toInt_lt
  have := high.le_toInt
  have := high.toInt_lt
  rw [Int64.toInt_sub, Int32.toInt_toInt64, Int32.toInt_toInt64]
  apply Int.bmod_eq_of_le <;> omega

theorem toInt_targetCount (low high : Int32) :
    (targetCount low high).toInt = high.toInt - low.toInt + 1 := by
  have := low.le_toInt
  have := low.toInt_lt
  have := high.le_toInt
  have := high.toInt_lt
  rw [targetCount, Int64.toInt_add, toInt_sub_toInt64]
  change (high.toInt - low.toInt + 1).bmod _ = _
  apply Int.bmod_eq_of_le <;> omega

theorem toNat_tableSize (count size : UInt64) :
    (tableSize count size).toNat = min (count.toNat * size.toNat) (UInt64.size - 1) := by
  unfold tableSize
  split
  · rename_i hfits
    rw [UInt64.toNat_mul, Nat.mod_eq_of_lt hfits]
    omega
  · change UInt64.size - 1 = _
    omega

/-- A number that is not negative is the same word without its sign. -/
theorem natCast_toNat_toUInt64 {count : Int64} (h : ¬ count < 0) :
    (count.toUInt64.toNat : Int) = count.toInt := by
  have hle : 0 ≤ count := Int64.not_lt.1 h
  rw [Int64.toNat_toUInt64_of_le hle]
  exact Int.toNat_of_nonneg (Int64.le_iff_toInt_le.1 hle)

/-- The check takes nothing.  It passes if the count is not negative and there is room for as many
entries, up to the largest word. -/
theorem entryCount_cases (start : Nat) (count : Int64) (size : UInt64) (s : ByteStream) :
    (∃ n : Nat, count.toInt = n ∧ min (n * size.toNat) (UInt64.size - 1) ≤ s.rest.length ∧
      entryCount start count size s = .ok n s) ∨
    ((count.toInt < 0 ∨ ∃ n : Nat, count.toInt = n ∧
        s.rest.length < min (n * size.toNat) (UInt64.size - 1)) ∧
      entryCount start count size s = .error (.truncated start) s) := by
  unfold entryCount
  split
  · rename_i hneg
    rw [Int64.lt_iff_toInt_lt, Int64.toInt_zero] at hneg
    exact .inr ⟨.inl hneg, rfl⟩
  · rename_i hneg
    have hcount := natCast_toNat_toUInt64 hneg
    rw [toNat_tableSize]
    split
    · rename_i hshort
      exact .inr ⟨.inr ⟨_, hcount.symm, hshort⟩, rfl⟩
    · rename_i hroom
      exact .inl ⟨_, hcount.symm, Nat.not_lt.1 hroom, rfl⟩

theorem entryCount_of_room {count : Int64} {size : UInt64} {n : Nat} {s : ByteStream}
    (hcount : count.toInt = n) (hroom : n * size.toNat ≤ s.rest.length) :
    entryCount start count size s = .ok n s := by
  obtain ⟨m, hm, -, hok⟩ | ⟨hneg | ⟨m, hm, hshort⟩, -⟩ := entryCount_cases start count size s
  · rw [hcount, Int.ofNat_inj] at hm
    rw [hok, hm]
  · omega
  · rw [hcount, Int.ofNat_inj] at hm
    rw [← hm] at hshort
    omega

theorem entryCount_eq_ok {count : Int64} {size : UInt64} {n : Nat} {s s' : ByteStream}
    (h : entryCount start count size s = .ok n s') : count.toInt = n ∧ s' = s := by
  obtain ⟨m, hm, -, hok⟩ | ⟨-, herror⟩ := entryCount_cases start count size s
  · cases hok.symm.trans h
    exact ⟨hm, rfl⟩
  · cases herror.symm.trans h

/-! ## Every instruction that is read takes a byte -/

theorem forward_operand {α : Type} {r : Reader ReadError α} (h : Forward r) :
    Forward (operand start r) :=
  h.adaptExcept _

theorem forward_resolved {α : Type} (answer : Except ResolveError α) :
    Forward (resolved answer) := by
  cases answer with
  | ok a => exact .pure a
  | error e => exact .throw _

theorem forward_entryCount (count : Int64) (size : UInt64) :
    Forward (entryCount start count size) := by
  intro s n s' h
  obtain ⟨-, rfl⟩ := entryCount_eq_ok h
  exact Nat.le_refl _

theorem forward_readWide : Forward (readWide start) := by
  refine (forward_operand .u8).bind fun opcode => ?_
  split
  · exact (forward_operand .u16).bind fun _ => .pure _
  · exact (forward_operand .u16).bind fun _ => (forward_operand .i16).bind fun _ => .pure _
  · exact .throw _

theorem forward_readTableSwitch : Forward (readTableSwitch start) :=
  (forward_operand (.run _)).bind fun _ => (forward_operand .i32).bind fun _ =>
    (forward_operand .i32).bind fun _ => (forward_operand .i32).bind fun _ =>
      (forward_entryCount _ _).bind fun _ => (forward_operand (.times _ .i32)).bind fun _ => .pure _

theorem forward_readLookupSwitch : Forward (readLookupSwitch start) :=
  (forward_operand (.run _)).bind fun _ => (forward_operand .i32).bind fun _ =>
    (forward_operand .i32).bind fun _ => (forward_entryCount _ _).bind fun _ =>
      have pair := Forward.i32.bind fun key => Forward.i32.bind fun target => .pure (key, target)
      (forward_operand (.times _ pair)).bind fun _ => .pure _

theorem forward_readOperands (form : Form) : Forward (readOperands pool start form) := by
  cases form with
  | plain i => exact .pure i
  | byte f => exact (forward_operand .i8).bind fun _ => .pure _
  | short f | jump f => exact (forward_operand .i16).bind fun _ => .pure _
  | wideJump f => exact (forward_operand .i32).bind fun _ => .pure _
  | slot f | narrowConstant f => exact (forward_operand .u8).bind fun _ => .pure _
  | wideConstant f => exact (forward_operand .u16).bind fun _ => .pure _
  | increment =>
    exact (forward_operand .u8).bind fun _ => (forward_operand .i8).bind fun _ => .pure _
  | tableSwitch => exact forward_readTableSwitch
  | lookupSwitch => exact forward_readLookupSwitch
  | field f | method mode | classRef f =>
    exact (forward_operand .u16).bind fun _ => (forward_resolved _).bind fun _ => .pure _
  | interfaceMethod =>
    exact (forward_operand .u16).bind fun _ => (forward_resolved _).bind fun _ =>
      (forward_operand .u8).bind fun _ => (forward_operand .u8).bind fun _ => .pure _
  | dynamicCall =>
    exact (forward_operand .u16).bind fun _ => (forward_resolved _).bind fun _ =>
      (forward_operand .u16).bind fun _ => .pure _
  | arrayType =>
    refine (forward_operand .u8).bind fun code => ?_
    split
    · exact .pure _
    · exact .throw _
  | multiArray =>
    exact (forward_operand .u16).bind fun _ => (forward_resolved _).bind fun _ =>
      (forward_operand .u8).bind fun _ => .pure _
  | wide =>
    rw [readOperands]
    exact forward_readWide

theorem length_lt_of_read {s s' : ByteStream} {i : Instruction}
    (h : read pool start s = .ok i s') : s'.rest.length < s.rest.length := by
  unfold read at h
  obtain ⟨opcode, s₁, hop, h⟩ := bind_eq_ok h
  have hlen := length_of_u8 (adaptExcept_eq_ok hop)
  cases hform : Form.ofOpcode? opcode with
  | some form =>
    rw [hform] at h
    have := forward_readOperands form _ _ _ h
    omega
  | none =>
    rw [hform] at h
    cases h

/-! ## Code arrays -/

/-- Decodes what is left of a code array. -/
def decodeFrom (pool : ConstantPool) (s : ByteStream) : Except CodeError (List Instruction) :=
  if s.rest.isEmpty then .ok []
  else
    match h : read pool s.offset s with
    | .error e _ => .error e
    | .ok i s' =>
      have : s'.rest.length < s.rest.length := length_lt_of_read h
      match decodeFrom pool s' with
      | .error e => .error e
      | .ok is => .ok (i :: is)
termination_by s.rest.length

/-- Decodes a code array. -/
def decode (pool : ConstantPool) (code : List UInt8) : Except CodeError (List Instruction) :=
  decodeFrom pool (.ofBytes code)

end Instruction

end CtorLeak
