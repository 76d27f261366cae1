import CtorLeak.Bytes.Writer
import CtorLeak.ClassFile.Basic

/-!
# Writing class files

The bytes of a class file and of its parts, in the layout that the readers take apart.
-/

namespace CtorLeak

open Writer

namespace Constant

def write : Constant → List UInt8
  | utf8 text =>
    let bytes := ModifiedUtf8.encode text
    u8 1 ++ u16 (UInt16.ofNat bytes.length) ++ bytes
  | integer value => u8 3 ++ i32 value
  | float bits => u8 4 ++ u32 bits
  | long value => u8 5 ++ i64 value
  | double bits => u8 6 ++ u64 bits
  | classInfo name => u8 7 ++ u16 name
  | string text => u8 8 ++ u16 text
  | fieldRef owner member => u8 9 ++ u16 owner ++ u16 member
  | methodRef owner member isInterface =>
    u8 (if isInterface then 11 else 10) ++ u16 owner ++ u16 member
  | nameAndType name descriptor => u8 12 ++ u16 name ++ u16 descriptor
  | methodHandle kind member => u8 15 ++ u8 kind ++ u16 member
  | methodType descriptor => u8 16 ++ u16 descriptor
  | dynamic bootstrap member => u8 17 ++ u16 bootstrap ++ u16 member
  | invokeDynamic bootstrap member => u8 18 ++ u16 bootstrap ++ u16 member
  | moduleInfo name => u8 19 ++ u16 name
  | packageInfo name => u8 20 ++ u16 name

end Constant

namespace ConstantPool

/-- The constants in the order of their slots. -/
def constants (pool : ConstantPool) : List Constant := pool.slots.toList.filterMap id

/-- The number of slots, then the constants. -/
def write (pool : ConstantPool) : List UInt8 :=
  u16 (UInt16.ofNat pool.size) ++ pool.constants.flatMap Constant.write

end ConstantPool

def Attribute.write (a : Attribute) : List UInt8 :=
  u16 a.nameIndex ++ longRun a.info

def ExceptionHandler.write (h : ExceptionHandler) : List UInt8 :=
  u16 h.startPc ++ u16 h.endPc ++ u16 h.handlerPc ++ u16 h.catchType

def Code.write (c : Code) : List UInt8 :=
  u16 c.maxStack ++ u16 c.maxLocals ++ longRun c.bytes ++
    vector ExceptionHandler.write c.handlers ++ vector Attribute.write c.attributes

def Member.write {owner : FlagOwner} (m : Member owner) : List UInt8 :=
  u16 m.access.bits ++ u16 m.nameIndex ++ u16 m.descriptorIndex ++
    vector Attribute.write m.attributes

def ClassFile.write (c : ClassFile) : List UInt8 :=
  u32 magic ++ u16 c.version.minor ++ u16 c.version.major ++ c.pool.write ++ u16 c.access.bits ++
    u16 c.thisClass ++ u16 c.superClass ++ vector u16 c.interfaces ++
    vector Member.write c.fields ++ vector Member.write c.methods ++
    vector Attribute.write c.attributes

end CtorLeak
