import CtorLeak.Constant.Resolve
import CtorLeak.Descriptor.Basic

/-!
# Instructions

Instructions of the stack machine with their operands resolved.  Instructions that differ only in
the type or the operator they work on are one constructor with that type or operator as argument,
and encodings of one instruction that differ only in their size are not told apart.

Each enumeration lists its members in the order of their opcodes as `all`.
-/

namespace CtorLeak

/-- The types that a local variable can have. -/
inductive LocalType where
  | int | long | float | double | ref
deriving DecidableEq, Repr

def LocalType.all : List LocalType := [int, long, float, double, ref]

/-- The types that an array element can have; booleans go with bytes. -/
inductive ElementType where
  | int | long | float | double | ref | byte | char | short
deriving DecidableEq, Repr

def ElementType.all : List ElementType := [int, long, float, double, ref, byte, char, short]

/-- The types that arithmetic works on. -/
inductive NumericType where
  | int | long | float | double
deriving DecidableEq, Repr

def NumericType.all : List NumericType := [int, long, float, double]

/-- The types that bit operations work on. -/
inductive IntegralType where
  | int | long
deriving DecidableEq, Repr

def IntegralType.all : List IntegralType := [int, long]

/-- Constants that have an opcode of their own. -/
inductive Literal where
  | null
  | intM1 | int0 | int1 | int2 | int3 | int4 | int5
  | long0 | long1
  | float0 | float1 | float2
  | double0 | double1
deriving DecidableEq, Repr

def Literal.all : List Literal :=
  [null, intM1, int0, int1, int2, int3, int4, int5, long0, long1, float0, float1, float2,
    double0, double1]

/-- Operations on the stack as such. -/
inductive StackOp where
  | pop | pop2 | dup | dupX1 | dupX2 | dup2 | dup2X1 | dup2X2 | swap
deriving DecidableEq, Repr

def StackOp.all : List StackOp := [pop, pop2, dup, dupX1, dupX2, dup2, dup2X1, dup2X2, swap]

inductive ArithmeticOp where
  | add | sub | mul | div | rem | neg
deriving DecidableEq, Repr

def ArithmeticOp.all : List ArithmeticOp := [add, sub, mul, div, rem, neg]

inductive ShiftOp where
  | left | arithmeticRight | logicalRight
deriving DecidableEq, Repr

def ShiftOp.all : List ShiftOp := [left, arithmeticRight, logicalRight]

inductive BitwiseOp where
  | and | or | xor
deriving DecidableEq, Repr

def BitwiseOp.all : List BitwiseOp := [and, or, xor]

inductive Conversion where
  | intToLong | intToFloat | intToDouble
  | longToInt | longToFloat | longToDouble
  | floatToInt | floatToLong | floatToDouble
  | doubleToInt | doubleToLong | doubleToFloat
  | intToByte | intToChar | intToShort
deriving DecidableEq, Repr

def Conversion.all : List Conversion :=
  [intToLong, intToFloat, intToDouble, longToInt, longToFloat, longToDouble, floatToInt,
    floatToLong, floatToDouble, doubleToInt, doubleToLong, doubleToFloat, intToByte, intToChar,
    intToShort]

/-- What a comparison that meets a NaN answers. -/
inductive NanOrder where
  | less | greater
deriving DecidableEq, Repr

def NanOrder.all : List NanOrder := [less, greater]

inductive Comparison where
  | eq | ne | lt | ge | gt | le
deriving DecidableEq, Repr

def Comparison.all : List Comparison := [eq, ne, lt, ge, gt, le]

inductive Equality where
  | eq | ne
deriving DecidableEq, Repr

def Equality.all : List Equality := [eq, ne]

/-- How a call finds the method to run. -/
inductive InvokeMode where
  | virtual
  | special
  | static
  | interface (count : UInt8)
deriving DecidableEq, Repr

inductive Instruction where
  | nop
  | push (c : Literal)
  | pushByte (value : Int8)
  | pushShort (value : Int16)
  /-- Push a one-slot constant of the pool. -/
  | ldc (index : UInt16)
  /-- Push a two-slot constant of the pool. -/
  | ldc2 (index : UInt16)
  | load (type : LocalType) (slot : UInt16)
  | store (type : LocalType) (slot : UInt16)
  | arrayLoad (type : ElementType)
  | arrayStore (type : ElementType)
  | stack (op : StackOp)
  | arithmetic (op : ArithmeticOp) (type : NumericType)
  | shift (op : ShiftOp) (type : IntegralType)
  | bitwise (op : BitwiseOp) (type : IntegralType)
  /-- Add to an int variable. -/
  | increment (slot : UInt16) (amount : Int16)
  | convert (c : Conversion)
  | compareLong
  | compareFloat (nan : NanOrder)
  | compareDouble (nan : NanOrder)
  /-- Jump if an int compares so with zero. -/
  | ifZero (c : Comparison) (offset : Int32)
  /-- Jump if two ints compare so. -/
  | ifInts (c : Comparison) (offset : Int32)
  /-- Jump if two references compare so. -/
  | ifRefs (c : Equality) (offset : Int32)
  /-- Jump if a reference compares so with null. -/
  | ifNull (c : Equality) (offset : Int32)
  | goto (offset : Int32)
  | jsr (offset : Int32)
  | ret (slot : UInt16)
  | tableSwitch (default low : Int32) (targets : List Int32)
  | lookupSwitch (default : Int32) (pairs : List (Int32 × Int32))
  | returnValue (type : LocalType)
  | returnVoid
  | getStatic (field : FieldRef)
  | putStatic (field : FieldRef)
  | getField (field : FieldRef)
  | putField (field : FieldRef)
  | invoke (mode : InvokeMode) (method : MethodRef)
  | invokeDynamic (site : DynamicCallSite)
  | new (name : BinaryName)
  | newBaseArray (type : BaseType)
  | newRefArray (name : BinaryName)
  | arrayLength
  | throwRef
  | checkCast (name : BinaryName)
  | instanceOf (name : BinaryName)
  | monitorEnter
  | monitorExit
  | newMultiArray (name : BinaryName) (dimensions : UInt8)
deriving DecidableEq, Repr

end CtorLeak
