import CtorLeak.Escape.Log
import CtorLeak.Escape.Scan

/-!
# Sites

The places in a constructor where `this` could get out: calls, other than the one to the root
class's constructor that every chain of constructors ends with, and stores into fields.
-/

namespace CtorLeak

/-! ## Arguments of a call -/

/-- The number of arguments of a method, whatever their size; none if the descriptor is
unreadable. -/
def argumentCount (descriptor : String) : Nat :=
  match MethodDescriptor.ofDescriptor descriptor with
  | .ok d => d.parameters.length
  | .error _ => 0

theorem argumentCount_of_ok {descriptor : String} {d : MethodDescriptor}
    (h : MethodDescriptor.ofDescriptor descriptor = .ok d) :
    argumentCount descriptor = d.parameters.length := by
  rw [argumentCount, h]

theorem argumentCount_of_error {descriptor : String} {e : DescriptorError}
    (h : MethodDescriptor.ofDescriptor descriptor = .error e) : argumentCount descriptor = 0 := by
  rw [argumentCount, h]

/-- What counting the arguments of a method notes in the log. -/
def argumentEvents (descriptor : String) : List LogEvent :=
  match MethodDescriptor.ofDescriptor descriptor with
  | .ok d =>
    if d.parameterLength = d.parameters.length then [] else [.wideArguments descriptor]
  | .error e => [.unreadableDescriptor descriptor e]

/-- What a call runs. -/
inductive Callee where
  | method (m : MethodRef)
  | dynamic (site : DynamicCallSite)
deriving DecidableEq, Repr

namespace Callee

def descriptor : Callee → String
  | method m => m.descriptor
  | dynamic site => site.descriptor

def describe : Callee → String
  | method m => s!"{m.owner.text}.{m.name.text}{m.descriptor}"
  | dynamic site => s!"invokedynamic {site.name.text}{site.descriptor}"

/-- Whether a call of it can let `this` escape; dynamic calls are taken in on demand. -/
def isRelevant (includeDynamic : Bool) : Callee → Bool
  | method m => !m.isObjectInit
  | dynamic _ => includeDynamic

end Callee

def FieldRef.describe (f : FieldRef) : String := s!"{f.owner.text}.{f.name.text}"

namespace Instruction

def callee? : Instruction → Option Callee
  | invoke _ m => some (.method m)
  | invokeDynamic site => some (.dynamic site)
  | _ => none

/-- The field that the instruction writes. -/
def storedField? : Instruction → Option FieldRef
  | putField f | putStatic f => some f
  | _ => none

end Instruction

/-! ## Sites in code -/

structure CallSite where
  index : Nat
  callee : Callee
deriving DecidableEq, Repr

namespace CallSite

/-- The number of arguments, the receiver apart. -/
def arguments (site : CallSite) : Nat := argumentCount site.callee.descriptor

end CallSite

structure StoreSite where
  index : Nat
  field : FieldRef
deriving DecidableEq, Repr

/-- The calls through which `this` could escape, in order. -/
def callSites (includeDynamic : Bool) (code : List Instruction) : List CallSite :=
  code.zipIdx.filterMap fun (i, index) =>
    ((i.callee?).filter (Callee.isRelevant includeDynamic)).map (CallSite.mk index)

/-- The stores into fields, in order. -/
def storeSites (code : List Instruction) : List StoreSite :=
  code.zipIdx.filterMap fun (i, index) => i.storedField?.map (StoreSite.mk index)

/-! ## Where `this` is loaded for a site -/

/-- The loads of `this` among the values that a call takes, the last argument first. -/
def thisArguments (code : List Instruction) (index arguments : Nat) : List Nat :=
  ((scanBack code index arguments).filter ScanStep.isThisLoad).map ScanStep.index

/-- The load of `this` right before a store.  Every such load is a push, so that asking for a push
changes nothing (`Effect.pushes_of_isThisLoad`). -/
def thisStored? (code : List Instruction) (index : Nat) : Option Nat :=
  match index with
  | 0 => none
  | previous + 1 =>
    match code[previous]? with
    | some i => if i.effect.pushes && i.isThisLoad then some previous else none
    | none => none

end CtorLeak
