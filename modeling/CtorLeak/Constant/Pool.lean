import CtorLeak.Constant.Basic

/-!
# The constant pool

A pool is a row of slots.  Slot 0 is never used; a constant sits at the first free slot, and the
slot after a constant of width 2 is not used either.  The count that a class file declares is the
index of the first slot that need not be filled.
-/

namespace CtorLeak

structure ConstantPool where
  slots : Array (Option Constant)
deriving DecidableEq, Repr

namespace ConstantPool

/-- The pool without slots. -/
def empty : ConstantPool := ⟨#[]⟩

/-- The slots that a constant takes, its own first. -/
def slotsOf (c : Constant) : List (Option Constant) :=
  some c :: List.replicate (c.width - 1) none

/-- The pool that holds the given constants in order. -/
def ofConstants (constants : List Constant) : ConstantPool :=
  ⟨(none :: constants.flatMap slotsOf).toArray⟩

def size (pool : ConstantPool) : Nat := pool.slots.size

/-- The constant at an index; `none` if the slot does not exist or is not used. -/
def get? (pool : ConstantPool) (index : UInt16) : Option Constant :=
  pool.slots[index.toNat]?.join

/-- Reads constants from slot `index` on until slot `count` is reached. -/
def readConstants (count index : Nat) : Reader FormatError (List Constant) :=
  if index < count then do
    let c ← Constant.read (UInt16.ofNat index)
    let cs ← readConstants count (index + c.width)
    return c :: cs
  else return []
termination_by count - index
decreasing_by
  have := c.width_pos
  omega

/-- Reads the declared count, then constants from slot 1 on. -/
def read : Reader FormatError ConstantPool := do
  let count ← Reader.u16
  let constants ← readConstants count.toNat 1
  return ofConstants constants

end ConstantPool

end CtorLeak
