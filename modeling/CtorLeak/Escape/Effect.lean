import CtorLeak.Instruction.Basic

/-!
# Effects of instructions

What an instruction does to the operand stack, as coarsely as the escape analysis needs it.
-/

namespace CtorLeak

inductive Effect where
  /-- Pushes the value of a local variable. -/
  | loadsLocal (slot : UInt16)
  /-- Stores into a field of an object or a class. -/
  | storesField
  | duplicatesTop
  | allocatesObject
  | invokesMethod
  /-- Leaves a computed value on top. -/
  | pushesValue
  /-- Takes values and leaves none. -/
  | popsValue
  /-- Anything else, the rearrangements of the stack other than a plain duplication included. -/
  | neutral
deriving DecidableEq, Repr

namespace Effect

/-- The variable that holds the object under construction. -/
def thisSlot : UInt16 := 0

def isThisLoad (e : Effect) : Bool := e == loadsLocal thisSlot

/-- Whether the instruction only helps to build a value that another instruction completes, as
allocation and duplication do before a constructor call. -/
def isShuffle : Effect → Bool
  | duplicatesTop | allocatesObject => true
  | _ => false

/-- Whether something new is on top of the stack afterwards. -/
def pushes : Effect → Bool
  | loadsLocal _ | duplicatesTop | allocatesObject | pushesValue => true
  | _ => false

theorem pushes_of_isThisLoad {e : Effect} (h : e.isThisLoad = true) : e.pushes = true := by
  rw [eq_of_beq h]
  rfl

end Effect

namespace Instruction

def effect : Instruction → Effect
  | load _ slot => .loadsLocal slot
  | putField _ | putStatic _ => .storesField
  | stack .dup => .duplicatesTop
  | new _ => .allocatesObject
  | invoke _ _ | invokeDynamic _ => .invokesMethod
  | push _ | pushByte _ | pushShort _ | ldc _ | ldc2 _ => .pushesValue
  | arrayLoad _ | arrayLength => .pushesValue
  | arithmetic _ _ | shift _ _ | bitwise _ _ | convert _ => .pushesValue
  | compareLong | compareFloat _ | compareDouble _ => .pushesValue
  | getStatic _ | getField _ | checkCast _ | instanceOf _ => .pushesValue
  | newBaseArray _ | newRefArray _ | newMultiArray _ _ => .pushesValue
  | store _ _ | arrayStore _ | stack .pop | stack .pop2 => .popsValue
  | monitorEnter | monitorExit | throwRef => .popsValue
  | ifZero _ _ | ifInts _ _ | ifRefs _ _ | ifNull _ _ => .popsValue
  | tableSwitch _ _ _ | lookupSwitch _ _ | returnValue _ => .popsValue
  | nop | stack _ | increment _ _ | goto _ | jsr _ | ret _ | returnVoid => .neutral

def isThisLoad (i : Instruction) : Bool := i.effect.isThisLoad

def isShuffle (i : Instruction) : Bool := i.effect.isShuffle

end Instruction

end CtorLeak
