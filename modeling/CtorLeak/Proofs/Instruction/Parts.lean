import CtorLeak.Proofs.Bytes.Framing
import CtorLeak.Proofs.Instruction.Operands

/-!
# Readers of instructions, part by part

The reader of an instruction is made of a few kinds of parts: plain operands, padding, tables whose
room is checked, indices that are resolved, and faults.  A relation that holds of these parts and is
kept by sequencing (`PartRelation`) holds of the readers of whole instructions
(`PartRelation.read`).

The two readers that are related may stand at different offsets and look into different pools.  A
property of one reader is a relation that ignores the other.  The forms are gone through here, once,
and a fact about the reader of every instruction is then a fact about the parts.
-/

namespace CtorLeak.Instruction

open Reader

/-- A relation between readers that holds of the parts of an instruction's reader, at `start` under
`pool` and at `start'` under `pool'`, and is kept by sequencing. -/
structure PartRelation (pool pool' : ConstantPool) (start start' : Nat)
    (R : ∀ α : Type, Reader CodeError α → Reader CodeError α → Prop) : Prop where
  pure {α : Type} (a : α) : R α (Pure.pure a) (Pure.pure a)
  bind {α β : Type} {r r' : Reader CodeError α} {f f' : α → Reader CodeError β}
    (hr : R α r r') (hf : ∀ a, R β (f a) (f' a)) : R β (r >>= f) (r' >>= f')
  plain {α : Type} {r : Reader ReadError α} (hr : Framed (fun _ => True) r) :
    R α (operand start r) (operand start' r)
  pad : R _ (operand start (run (padding start))) (operand start' (run (padding start')))
  table {α : Type} {r : Reader ReadError α} {write : α → List UInt8} (size : UInt64)
    (hr : Accepts r fun a w => w = write a) (hsize : ∀ a, (write a).length = size.toNat)
    (hframed : Framed (fun _ => True) r) (count : Int64) (f : List α → Instruction) :
    R Instruction
      (do
        let n ← entryCount start count size
        let l ← operand start (times n r)
        return f l)
      (do
        let n ← entryCount start' count size
        let l ← operand start' (times n r)
        return f l)
  field (index : UInt16) : R _ (resolved (pool.fieldRef index)) (resolved (pool'.fieldRef index))
  method (index : UInt16) :
    R _ (resolved (pool.methodRef index)) (resolved (pool'.methodRef index))
  callSite (index : UInt16) :
    R _ (resolved (pool.dynamicCallSite index)) (resolved (pool'.dynamicCallSite index))
  className (index : UInt16) :
    R _ (resolved (pool.className index)) (resolved (pool'.className index))
  unknownOpcode (opcode : UInt8) :
    R Instruction (throw (.unknownOpcode opcode start)) (throw (.unknownOpcode opcode start'))
  badWideOpcode (opcode : UInt8) :
    R Instruction (throw (.badWideOpcode opcode start)) (throw (.badWideOpcode opcode start'))
  badArrayType (code : UInt8) :
    R Instruction (throw (.badArrayType code start)) (throw (.badArrayType code start'))

namespace PartRelation

variable {pool pool' : ConstantPool} {start start' : Nat}
  {R : ∀ α : Type, Reader CodeError α → Reader CodeError α → Prop}

theorem readWide (h : PartRelation pool pool' start start' R) :
    R _ (Instruction.readWide start) (Instruction.readWide start') := by
  refine h.bind (h.plain .u8) fun opcode => ?_
  split
  · exact h.bind (h.plain .u16) fun _ => h.pure _
  · exact h.bind (h.plain .u16) fun _ => h.bind (h.plain .i16) fun _ => h.pure _
  · exact h.badWideOpcode opcode

theorem readTableSwitch (h : PartRelation pool pool' start start' R) :
    R _ (Instruction.readTableSwitch start) (Instruction.readTableSwitch start') :=
  h.bind h.pad fun _ => h.bind (h.plain .i32) fun _ => h.bind (h.plain .i32) fun _ =>
    h.bind (h.plain .i32) fun _ => h.table 4 accepts_i32 Writer.length_i32 .i32 _ _

theorem readLookupSwitch (h : PartRelation pool pool' start start' R) :
    R _ (Instruction.readLookupSwitch start) (Instruction.readLookupSwitch start') :=
  have hpair : Framed _ keyedTarget := Framed.i32.bind fun _ => Framed.i32.bind fun _ => .pure _
  h.bind h.pad fun _ => h.bind (h.plain .i32) fun _ => h.bind (h.plain .i32) fun _ =>
    h.table 8 accepts_keyedTarget length_keyedTarget hpair _ _

theorem readOperands (h : PartRelation pool pool' start start' R) (form : Form) :
    R _ (Instruction.readOperands pool start form)
      (Instruction.readOperands pool' start' form) := by
  cases form with
  | plain i => exact h.pure i
  | byte f => exact h.bind (h.plain .i8) fun _ => h.pure _
  | short f | jump f => exact h.bind (h.plain .i16) fun _ => h.pure _
  | wideJump f => exact h.bind (h.plain .i32) fun _ => h.pure _
  | slot f | narrowConstant f => exact h.bind (h.plain .u8) fun _ => h.pure _
  | wideConstant f => exact h.bind (h.plain .u16) fun _ => h.pure _
  | increment => exact h.bind (h.plain .u8) fun _ => h.bind (h.plain .i8) fun _ => h.pure _
  | tableSwitch => exact h.readTableSwitch
  | lookupSwitch => exact h.readLookupSwitch
  | field f => exact h.bind (h.plain .u16) fun index => h.bind (h.field index) fun _ => h.pure _
  | method mode =>
    exact h.bind (h.plain .u16) fun index => h.bind (h.method index) fun _ => h.pure _
  | interfaceMethod =>
    exact h.bind (h.plain .u16) fun index => h.bind (h.method index) fun _ =>
      h.bind (h.plain .u8) fun _ => h.bind (h.plain .u8) fun _ => h.pure _
  | dynamicCall =>
    exact h.bind (h.plain .u16) fun index => h.bind (h.callSite index) fun _ =>
      h.bind (h.plain .u16) fun _ => h.pure _
  | classRef f =>
    exact h.bind (h.plain .u16) fun index => h.bind (h.className index) fun _ => h.pure _
  | arrayType =>
    refine h.bind (h.plain .u8) fun code => ?_
    split
    · exact h.pure _
    · exact h.badArrayType code
  | multiArray =>
    exact h.bind (h.plain .u16) fun index => h.bind (h.className index) fun _ =>
      h.bind (h.plain .u8) fun _ => h.pure _
  | wide =>
    rw [Instruction.readOperands, Instruction.readOperands]
    exact h.readWide

/-- The readers of an instruction are related if their parts are. -/
theorem read (h : PartRelation pool pool' start start' R) :
    R _ (Instruction.read pool start) (Instruction.read pool' start') := by
  refine h.bind (h.plain .u8) fun opcode => ?_
  split
  · exact h.readOperands _
  · exact h.unknownOpcode opcode

end PartRelation

end CtorLeak.Instruction
