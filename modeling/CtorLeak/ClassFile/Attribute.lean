import CtorLeak.Instruction.Decode

/-!
# Attributes

An attribute is a named run of bytes attached to a class, a member or code.  The one named `Code`
holds the body of a method.
-/

namespace CtorLeak

structure Attribute where
  nameIndex : UInt16
  info : List UInt8
deriving DecidableEq, Repr

/-- Where an exception that is thrown in a range of code is handled. -/
structure ExceptionHandler where
  startPc : UInt16
  endPc : UInt16
  handlerPc : UInt16
  catchType : UInt16
deriving DecidableEq, Repr

structure Code where
  maxStack : UInt16
  maxLocals : UInt16
  bytes : List UInt8
  handlers : List ExceptionHandler
  attributes : List Attribute
deriving DecidableEq, Repr

open Reader

namespace Attribute

def read : Reader ReadError Attribute := do
  let nameIndex ← u16
  let length ← u32
  let info ← run length.toNat
  return ⟨nameIndex, info⟩

/-- The first attribute of a name.  Names are resolved one after the other up to it. -/
def find? (pool : ConstantPool) (name : String) :
    List Attribute → Except ResolveError (Option Attribute)
  | [] => .ok none
  | a :: rest => do
    let text ← pool.utf8 a.nameIndex
    if text = name then return some a else find? pool name rest

end Attribute

def ExceptionHandler.read : Reader ReadError ExceptionHandler := do
  return ⟨← u16, ← u16, ← u16, ← u16⟩

namespace Code

def read : Reader ReadError Code := do
  let maxStack ← u16
  let maxLocals ← u16
  let length ← u32
  let bytes ← run length.toNat
  let handlers ← vector ExceptionHandler.read
  let attributes ← vector Attribute.read
  return ⟨maxStack, maxLocals, bytes, handlers, attributes⟩

def instructions (code : Code) (pool : ConstantPool) : Except CodeError (List Instruction) :=
  Instruction.decode pool code.bytes

end Code

end CtorLeak
