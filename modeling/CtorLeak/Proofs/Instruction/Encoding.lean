import CtorLeak.Bytes.Writer
import CtorLeak.Instruction.Basic

/-!
# Encodings of instructions

`Encodes pool start i w` says that the bytes `w` are an encoding of the instruction `i` at offset
`start` of a code array, under a constant pool.  An instruction may have several: a slot is part of
the opcode, or takes one byte, or two behind `wide`; a constant or a jump is short or long; an
operand in the pool is given by any index that resolves to it; padding and the bytes without meaning
are free.  `EncodesAll` puts encodings one after the other.

The opcodes are listed by what they do, not by the order in which they are numbered.
-/

namespace CtorLeak

/-! ## Opcodes -/

def Literal.opcode : Literal → UInt8
  | null => 0x01
  | intM1 => 0x02
  | int0 => 0x03
  | int1 => 0x04
  | int2 => 0x05
  | int3 => 0x06
  | int4 => 0x07
  | int5 => 0x08
  | long0 => 0x09
  | long1 => 0x0a
  | float0 => 0x0b
  | float1 => 0x0c
  | float2 => 0x0d
  | double0 => 0x0e
  | double1 => 0x0f

namespace LocalType

def loadOpcode : LocalType → UInt8
  | int => 0x15
  | long => 0x16
  | float => 0x17
  | double => 0x18
  | ref => 0x19

/-- The load of slot 0; those of slots 1, 2 and 3 follow it. -/
def shortLoadOpcode : LocalType → UInt8
  | int => 0x1a
  | long => 0x1e
  | float => 0x22
  | double => 0x26
  | ref => 0x2a

def storeOpcode : LocalType → UInt8
  | int => 0x36
  | long => 0x37
  | float => 0x38
  | double => 0x39
  | ref => 0x3a

/-- The store into slot 0; those into slots 1, 2 and 3 follow it. -/
def shortStoreOpcode : LocalType → UInt8
  | int => 0x3b
  | long => 0x3f
  | float => 0x43
  | double => 0x47
  | ref => 0x4b

def returnOpcode : LocalType → UInt8
  | int => 0xac
  | long => 0xad
  | float => 0xae
  | double => 0xaf
  | ref => 0xb0

end LocalType

namespace ElementType

def loadOpcode : ElementType → UInt8
  | int => 0x2e
  | long => 0x2f
  | float => 0x30
  | double => 0x31
  | ref => 0x32
  | byte => 0x33
  | char => 0x34
  | short => 0x35

def storeOpcode : ElementType → UInt8
  | int => 0x4f
  | long => 0x50
  | float => 0x51
  | double => 0x52
  | ref => 0x53
  | byte => 0x54
  | char => 0x55
  | short => 0x56

end ElementType

def StackOp.opcode : StackOp → UInt8
  | pop => 0x57
  | pop2 => 0x58
  | dup => 0x59
  | dupX1 => 0x5a
  | dupX2 => 0x5b
  | dup2 => 0x5c
  | dup2X1 => 0x5d
  | dup2X2 => 0x5e
  | swap => 0x5f

def ArithmeticOp.opcode : ArithmeticOp → NumericType → UInt8
  | add, .int => 0x60
  | add, .long => 0x61
  | add, .float => 0x62
  | add, .double => 0x63
  | sub, .int => 0x64
  | sub, .long => 0x65
  | sub, .float => 0x66
  | sub, .double => 0x67
  | mul, .int => 0x68
  | mul, .long => 0x69
  | mul, .float => 0x6a
  | mul, .double => 0x6b
  | div, .int => 0x6c
  | div, .long => 0x6d
  | div, .float => 0x6e
  | div, .double => 0x6f
  | rem, .int => 0x70
  | rem, .long => 0x71
  | rem, .float => 0x72
  | rem, .double => 0x73
  | neg, .int => 0x74
  | neg, .long => 0x75
  | neg, .float => 0x76
  | neg, .double => 0x77

def ShiftOp.opcode : ShiftOp → IntegralType → UInt8
  | left, .int => 0x78
  | left, .long => 0x79
  | arithmeticRight, .int => 0x7a
  | arithmeticRight, .long => 0x7b
  | logicalRight, .int => 0x7c
  | logicalRight, .long => 0x7d

def BitwiseOp.opcode : BitwiseOp → IntegralType → UInt8
  | and, .int => 0x7e
  | and, .long => 0x7f
  | or, .int => 0x80
  | or, .long => 0x81
  | xor, .int => 0x82
  | xor, .long => 0x83

def Conversion.opcode : Conversion → UInt8
  | intToLong => 0x85
  | intToFloat => 0x86
  | intToDouble => 0x87
  | longToInt => 0x88
  | longToFloat => 0x89
  | longToDouble => 0x8a
  | floatToInt => 0x8b
  | floatToLong => 0x8c
  | floatToDouble => 0x8d
  | doubleToInt => 0x8e
  | doubleToLong => 0x8f
  | doubleToFloat => 0x90
  | intToByte => 0x91
  | intToChar => 0x92
  | intToShort => 0x93

namespace NanOrder

def floatOpcode : NanOrder → UInt8
  | less => 0x95
  | greater => 0x96

def doubleOpcode : NanOrder → UInt8
  | less => 0x97
  | greater => 0x98

end NanOrder

namespace Comparison

/-- The jump that compares an int with zero. -/
def zeroOpcode : Comparison → UInt8
  | eq => 0x99
  | ne => 0x9a
  | lt => 0x9b
  | ge => 0x9c
  | gt => 0x9d
  | le => 0x9e

/-- The jump that compares two ints. -/
def intsOpcode : Comparison → UInt8
  | eq => 0x9f
  | ne => 0xa0
  | lt => 0xa1
  | ge => 0xa2
  | gt => 0xa3
  | le => 0xa4

end Comparison

namespace Equality

/-- The jump that compares two references. -/
def refsOpcode : Equality → UInt8
  | eq => 0xa5
  | ne => 0xa6

/-- The jump that compares a reference with null. -/
def nullOpcode : Equality → UInt8
  | eq => 0xc6
  | ne => 0xc7

end Equality

/-- The byte by which a new array gives the type of its elements. -/
def BaseType.arrayCode : BaseType → UInt8
  | boolean => 4
  | char => 5
  | float => 6
  | double => 7
  | byte => 8
  | short => 9
  | int => 10
  | long => 11

/-- The opcode of an instruction that has no operands. -/
def Instruction.simpleOpcode? : Instruction → Option UInt8
  | nop => some 0x00
  | push c => some c.opcode
  | arrayLoad type => some type.loadOpcode
  | arrayStore type => some type.storeOpcode
  | stack op => some op.opcode
  | arithmetic op type => some (op.opcode type)
  | shift op type => some (op.opcode type)
  | bitwise op type => some (op.opcode type)
  | convert c => some c.opcode
  | compareLong => some 0x94
  | compareFloat nan => some nan.floatOpcode
  | compareDouble nan => some nan.doubleOpcode
  | returnValue type => some type.returnOpcode
  | returnVoid => some 0xb1
  | arrayLength => some 0xbe
  | throwRef => some 0xbf
  | monitorEnter => some 0xc2
  | monitorExit => some 0xc3
  | _ => none

/-! ## Encodings -/

/-- Any bytes from behind the opcode at `start` up to the next multiple of four. -/
def IsPadding (start : Nat) (pad : List UInt8) : Prop :=
  pad.length < 4 ∧ (start + 1 + pad.length) % 4 = 0

open Writer in
/-- The encodings of an instruction at offset `start`. -/
inductive Encodes (pool : ConstantPool) (start : Nat) : Instruction → List UInt8 → Prop where
  | simple {i : Instruction} {opcode : UInt8} (h : i.simpleOpcode? = some opcode) :
      Encodes pool start i [opcode]
  | pushByte (value : Int8) : Encodes pool start (.pushByte value) (0x10 :: i8 value)
  | pushShort (value : Int16) : Encodes pool start (.pushShort value) (0x11 :: i16 value)
  | ldc (index : UInt8) : Encodes pool start (.ldc index.toUInt16) [0x12, index]
  | ldcWide (index : UInt16) : Encodes pool start (.ldc index) (0x13 :: u16 index)
  | ldc2 (index : UInt16) : Encodes pool start (.ldc2 index) (0x14 :: u16 index)
  | loadShort (type : LocalType) (slot : UInt8) (h : slot < 4) :
      Encodes pool start (.load type slot.toUInt16) [type.shortLoadOpcode + slot]
  | load (type : LocalType) (slot : UInt8) :
      Encodes pool start (.load type slot.toUInt16) [type.loadOpcode, slot]
  | loadWide (type : LocalType) (slot : UInt16) :
      Encodes pool start (.load type slot) (0xc4 :: type.loadOpcode :: u16 slot)
  | storeShort (type : LocalType) (slot : UInt8) (h : slot < 4) :
      Encodes pool start (.store type slot.toUInt16) [type.shortStoreOpcode + slot]
  | store (type : LocalType) (slot : UInt8) :
      Encodes pool start (.store type slot.toUInt16) [type.storeOpcode, slot]
  | storeWide (type : LocalType) (slot : UInt16) :
      Encodes pool start (.store type slot) (0xc4 :: type.storeOpcode :: u16 slot)
  | increment (slot : UInt8) (amount : Int8) :
      Encodes pool start (.increment slot.toUInt16 amount.toInt16) (0x84 :: slot :: i8 amount)
  | incrementWide (slot : UInt16) (amount : Int16) :
      Encodes pool start (.increment slot amount) (0xc4 :: 0x84 :: (u16 slot ++ i16 amount))
  | ifZero (c : Comparison) (offset : Int16) :
      Encodes pool start (.ifZero c offset.toInt32) (c.zeroOpcode :: i16 offset)
  | ifInts (c : Comparison) (offset : Int16) :
      Encodes pool start (.ifInts c offset.toInt32) (c.intsOpcode :: i16 offset)
  | ifRefs (c : Equality) (offset : Int16) :
      Encodes pool start (.ifRefs c offset.toInt32) (c.refsOpcode :: i16 offset)
  | ifNull (c : Equality) (offset : Int16) :
      Encodes pool start (.ifNull c offset.toInt32) (c.nullOpcode :: i16 offset)
  | goto (offset : Int16) : Encodes pool start (.goto offset.toInt32) (0xa7 :: i16 offset)
  | gotoWide (offset : Int32) : Encodes pool start (.goto offset) (0xc8 :: i32 offset)
  | jsr (offset : Int16) : Encodes pool start (.jsr offset.toInt32) (0xa8 :: i16 offset)
  | jsrWide (offset : Int32) : Encodes pool start (.jsr offset) (0xc9 :: i32 offset)
  | ret (slot : UInt8) : Encodes pool start (.ret slot.toUInt16) [0xa9, slot]
  | retWide (slot : UInt16) : Encodes pool start (.ret slot) (0xc4 :: 0xa9 :: u16 slot)
  | tableSwitch (pad : List UInt8) (default low high : Int32) (targets : List Int32)
      (hpad : IsPadding start pad) (hhigh : high.toInt = low.toInt + targets.length - 1) :
      Encodes pool start (.tableSwitch default low targets)
        (0xaa :: (pad ++ i32 default ++ i32 low ++ i32 high ++ targets.flatMap i32))
  | lookupSwitch (pad : List UInt8) (default count : Int32) (pairs : List (Int32 × Int32))
      (hpad : IsPadding start pad) (hcount : count.toInt = pairs.length) :
      Encodes pool start (.lookupSwitch default pairs)
        (0xab :: (pad ++ i32 default ++ i32 count ++ pairs.flatMap fun p => i32 p.1 ++ i32 p.2))
  | getStatic (field : FieldRef) (index : UInt16) (h : pool.fieldRef index = .ok field) :
      Encodes pool start (.getStatic field) (0xb2 :: u16 index)
  | putStatic (field : FieldRef) (index : UInt16) (h : pool.fieldRef index = .ok field) :
      Encodes pool start (.putStatic field) (0xb3 :: u16 index)
  | getField (field : FieldRef) (index : UInt16) (h : pool.fieldRef index = .ok field) :
      Encodes pool start (.getField field) (0xb4 :: u16 index)
  | putField (field : FieldRef) (index : UInt16) (h : pool.fieldRef index = .ok field) :
      Encodes pool start (.putField field) (0xb5 :: u16 index)
  | invokeVirtual (method : MethodRef) (index : UInt16) (h : pool.methodRef index = .ok method) :
      Encodes pool start (.invoke .virtual method) (0xb6 :: u16 index)
  | invokeSpecial (method : MethodRef) (index : UInt16) (h : pool.methodRef index = .ok method) :
      Encodes pool start (.invoke .special method) (0xb7 :: u16 index)
  | invokeStatic (method : MethodRef) (index : UInt16) (h : pool.methodRef index = .ok method) :
      Encodes pool start (.invoke .static method) (0xb8 :: u16 index)
  | invokeInterface (method : MethodRef) (index : UInt16) (count ignored : UInt8)
      (h : pool.methodRef index = .ok method) :
      Encodes pool start (.invoke (.interface count) method)
        (0xb9 :: (u16 index ++ [count, ignored]))
  | invokeDynamic (site : DynamicCallSite) (index : UInt16) (ignored ignored' : UInt8)
      (h : pool.dynamicCallSite index = .ok site) :
      Encodes pool start (.invokeDynamic site) (0xba :: (u16 index ++ [ignored, ignored']))
  | new (name : BinaryName) (index : UInt16) (h : pool.className index = .ok name) :
      Encodes pool start (.new name) (0xbb :: u16 index)
  | newBaseArray (type : BaseType) : Encodes pool start (.newBaseArray type) [0xbc, type.arrayCode]
  | newRefArray (name : BinaryName) (index : UInt16) (h : pool.className index = .ok name) :
      Encodes pool start (.newRefArray name) (0xbd :: u16 index)
  | checkCast (name : BinaryName) (index : UInt16) (h : pool.className index = .ok name) :
      Encodes pool start (.checkCast name) (0xc0 :: u16 index)
  | instanceOf (name : BinaryName) (index : UInt16) (h : pool.className index = .ok name) :
      Encodes pool start (.instanceOf name) (0xc1 :: u16 index)
  | newMultiArray (name : BinaryName) (dimensions : UInt8) (index : UInt16)
      (h : pool.className index = .ok name) :
      Encodes pool start (.newMultiArray name dimensions) (0xc5 :: (u16 index ++ [dimensions]))

/-- Encodings one after the other from an offset on. -/
inductive EncodesAll (pool : ConstantPool) : Nat → List Instruction → List UInt8 → Prop where
  | nil (offset : Nat) : EncodesAll pool offset [] []
  | cons {offset : Nat} {i : Instruction} {is : List Instruction} {w rest : List UInt8}
      (hi : Encodes pool offset i w) (his : EncodesAll pool (offset + w.length) is rest) :
      EncodesAll pool offset (i :: is) (w ++ rest)

end CtorLeak
