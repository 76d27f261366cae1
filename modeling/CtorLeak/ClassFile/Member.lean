import CtorLeak.AccessFlags
import CtorLeak.ClassFile.Attribute

/-!
# Fields and methods

Both are flags, a name, a descriptor and attributes; only the meaning of the flags differs.
-/

namespace CtorLeak

structure Member (owner : FlagOwner) where
  access : AccessFlags owner
  nameIndex : UInt16
  descriptorIndex : UInt16
  attributes : List Attribute
deriving DecidableEq, Repr

abbrev Field := Member .ofField

abbrev Method := Member .ofMethod

namespace Member

variable {owner : FlagOwner}

open Reader in
def read (owner : FlagOwner) : Reader ReadError (Member owner) := do
  let access := AccessFlags.ofBits owner (← u16)
  let nameIndex ← u16
  let descriptorIndex ← u16
  let attributes ← vector Attribute.read
  return ⟨access, nameIndex, descriptorIndex, attributes⟩

def name (m : Member owner) (pool : ConstantPool) : Except ResolveError String :=
  pool.utf8 m.nameIndex

def descriptor (m : Member owner) (pool : ConstantPool) : Except ResolveError String :=
  pool.utf8 m.descriptorIndex

end Member

namespace Method

def isConstructor (m : Method) (pool : ConstantPool) : Except ResolveError Bool := do
  let name ← m.name pool
  return name == UnqualifiedName.init.text

/-- The body of the method: what its first `Code` attribute begins with. -/
def code? (m : Method) (pool : ConstantPool) : Except FormatError (Option Code) :=
  match Attribute.find? pool "Code" m.attributes with
  | .error e => .error (.resolve e)
  | .ok none => .ok none
  | .ok (some a) =>
    match Code.read (.ofBytes a.info) with
    | .ok code _ => .ok (some code)
    | .error e _ => .error (.io (.read e))

end Method

end CtorLeak
