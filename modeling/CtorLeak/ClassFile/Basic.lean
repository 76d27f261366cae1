import CtorLeak.ClassFile.Member

/-!
# Class files

A class file is the number 0xCAFEBABE, a version, the constant pool, and then the class: its flags,
its own name and that of its superclass, and the tables of its interfaces, fields, methods and
attributes.  Bytes after these are ignored.
-/

namespace CtorLeak

structure Version where
  major : UInt16
  minor : UInt16
deriving DecidableEq, Repr

namespace Version

/-- The first version with lambdas. -/
def java8 : Version := ⟨52, 0⟩

/-- Versions are ordered by their major and then by their minor number. -/
def atLeast (v w : Version) : Bool :=
  w.major < v.major || (w.major == v.major && w.minor ≤ v.minor)

end Version

structure ClassFile where
  version : Version
  pool : ConstantPool
  access : AccessFlags .ofClass
  thisClass : UInt16
  superClass : UInt16
  interfaces : List UInt16
  fields : List Field
  methods : List Method
  attributes : List Attribute
deriving DecidableEq, Repr

namespace ClassFile

def magic : UInt32 := 0xCAFEBABE

open Reader in
def read : Reader FormatError ClassFile := do
  let found ← u32
  if found ≠ magic then throw (.badMagic found)
  let minor ← u16
  let major ← u16
  let pool ← ConstantPool.read
  let access := AccessFlags.ofBits .ofClass (← u16)
  let thisClass ← u16
  let superClass ← u16
  let interfaces ← vector u16
  let fields ← vector (Member.read .ofField)
  let methods ← vector (Member.read .ofMethod)
  let attributes ← vector Attribute.read
  return ⟨⟨major, minor⟩, pool, access, thisClass, superClass, interfaces, fields, methods,
    attributes⟩

/-- The class file that some bytes begin with. -/
def ofBytes (bytes : List UInt8) : Except FormatError ClassFile :=
  match read (.ofBytes bytes) with
  | .ok c _ => .ok c
  | .error e _ => .error e

def name (c : ClassFile) : Except ResolveError BinaryName :=
  c.pool.className c.thisClass

/-- The constructors among some methods.  All names have to resolve. -/
def constructorsAmong (pool : ConstantPool) : List Method → Except ResolveError (List Method)
  | [] => .ok []
  | m :: rest => do
    let isConstructor ← Method.isConstructor m pool
    let constructors ← constructorsAmong pool rest
    return if isConstructor then m :: constructors else constructors

def constructors (c : ClassFile) : Except ResolveError (List Method) :=
  constructorsAmong c.pool c.methods

end ClassFile

end CtorLeak
