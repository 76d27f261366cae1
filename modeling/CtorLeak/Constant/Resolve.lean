import CtorLeak.Constant.Pool

/-!
# Following constants

What a constant means to the code that uses it: names and descriptors in place of indices.  A
reference is followed in a fixed order (itself, its name and type, its owner), and the first link
that is broken gives the error.
-/

namespace CtorLeak

structure NameAndType where
  name : UnqualifiedName
  descriptor : String
deriving DecidableEq, Repr

structure FieldRef where
  owner : BinaryName
  name : UnqualifiedName
  descriptor : String
deriving DecidableEq, Repr

structure MethodRef where
  owner : BinaryName
  name : UnqualifiedName
  descriptor : String
  /-- Whether the owner is an interface. -/
  isInterface : Bool
deriving DecidableEq, Repr

/-- A call site that a bootstrap method links when it is first reached. -/
structure DynamicCallSite where
  bootstrap : UInt16
  name : UnqualifiedName
  descriptor : String
deriving DecidableEq, Repr

namespace MethodRef

/-- The constructor of the root class. -/
def objectInit : MethodRef := ⟨.object, .init, "()V", false⟩

/-- Whether the method is a constructor of the root class, whatever its descriptor. -/
def isObjectInit (m : MethodRef) : Bool :=
  m.owner == .object && m.name == .init

end MethodRef

namespace ConstantPool

/-- Any constant. -/
def constant (pool : ConstantPool) (index : UInt16) : Except ResolveError Constant :=
  match pool.get? index with
  | some c => .ok c
  | none => .error (.badIndex index .any)

def utf8 (pool : ConstantPool) (index : UInt16) : Except ResolveError String :=
  match pool.get? index with
  | some (.utf8 text) => .ok text
  | _ => .error (.badIndex index .utf8)

def className (pool : ConstantPool) (index : UInt16) : Except ResolveError BinaryName :=
  match pool.get? index with
  | some (.classInfo name) => do
    let text ← pool.utf8 name
    (BinaryName.ofString text).mapError .malformedName
  | _ => .error (.badIndex index .classInfo)

def nameAndType (pool : ConstantPool) (index : UInt16) : Except ResolveError NameAndType :=
  match pool.get? index with
  | some (.nameAndType name descriptor) => do
    let text ← pool.utf8 name
    let name ← (UnqualifiedName.ofString text).mapError .malformedName
    let descriptor ← pool.utf8 descriptor
    return ⟨name, descriptor⟩
  | _ => .error (.badIndex index .nameAndType)

def fieldRef (pool : ConstantPool) (index : UInt16) : Except ResolveError FieldRef :=
  match pool.get? index with
  | some (.fieldRef owner nameAndType) => do
    let member ← pool.nameAndType nameAndType
    let owner ← pool.className owner
    return ⟨owner, member.name, member.descriptor⟩
  | _ => .error (.badIndex index .fieldRef)

def methodRef (pool : ConstantPool) (index : UInt16) : Except ResolveError MethodRef :=
  match pool.get? index with
  | some (.methodRef owner nameAndType isInterface) => do
    let member ← pool.nameAndType nameAndType
    let owner ← pool.className owner
    return ⟨owner, member.name, member.descriptor, isInterface⟩
  | _ => .error (.badIndex index .methodRef)

def dynamicCallSite (pool : ConstantPool) (index : UInt16) :
    Except ResolveError DynamicCallSite :=
  match pool.get? index with
  | some (.invokeDynamic bootstrap nameAndType) => do
    let member ← pool.nameAndType nameAndType
    return ⟨bootstrap, member.name, member.descriptor⟩
  | _ => .error (.badIndex index .invokeDynamic)

end ConstantPool

end CtorLeak
