import CtorLeak.Error
import CtorLeak.Text.ModifiedUtf8

/-!
# Constants

The entries of a class file's constant pool.  Each starts with a byte that tells its kind; most
refer to other entries by index.  Floating-point numbers are kept as their bits.
-/

namespace CtorLeak

inductive Constant where
  | utf8 (text : String)
  | integer (value : Int32)
  | float (bits : UInt32)
  | long (value : Int64)
  | double (bits : UInt64)
  | classInfo (name : UInt16)
  | string (text : UInt16)
  | fieldRef (owner nameAndType : UInt16)
  | methodRef (owner nameAndType : UInt16) (isInterface : Bool)
  | nameAndType (name descriptor : UInt16)
  | methodHandle (kind : UInt8) (member : UInt16)
  | methodType (descriptor : UInt16)
  | dynamic (bootstrap nameAndType : UInt16)
  | invokeDynamic (bootstrap nameAndType : UInt16)
  | moduleInfo (name : UInt16)
  | packageInfo (name : UInt16)
deriving DecidableEq, Repr

namespace Constant

/-- How many slots of the pool the constant takes. -/
def width : Constant → Nat
  | long _ | double _ => 2
  | _ => 1

theorem width_pos (c : Constant) : 0 < c.width := by
  unfold width
  split <;> decide

open Reader in
/-- Reads the constant whose slot is `index`. -/
def read (index : UInt16) : Reader FormatError Constant := do
  let tag ← u8
  match tag with
  | 1 =>
    let length ← u16
    let bytes ← run length.toNat
    match ModifiedUtf8.decode? bytes with
    | some text => return utf8 text
    | none => throw (.malformedUtf8 index)
  | 3 => return integer (← i32)
  | 4 => return float (← u32)
  | 5 => return long (← i64)
  | 6 => return double (← u64)
  | 7 => return classInfo (← u16)
  | 8 => return string (← u16)
  | 9 => return fieldRef (← u16) (← u16)
  | 10 => return methodRef (← u16) (← u16) false
  | 11 => return methodRef (← u16) (← u16) true
  | 12 => return nameAndType (← u16) (← u16)
  | 15 => return methodHandle (← u8) (← u16)
  | 16 => return methodType (← u16)
  | 17 => return dynamic (← u16) (← u16)
  | 18 => return invokeDynamic (← u16) (← u16)
  | 19 => return moduleInfo (← u16)
  | 20 => return packageInfo (← u16)
  | tag => throw (.unknownConstantTag tag index)

end Constant

end CtorLeak
