import CtorLeak.ClassFile.Basic
import CtorLeak.Escape.Finding

/-!
# Checking a class

Checking a class looks at its constructors in file order and adds what they let escape to a report.
It stops at the first constructor that cannot be loaded; what was found before is kept.
-/

namespace CtorLeak

structure Settings where
  /-- Whether dynamic calls, such as those that make a lambda, count as calls. -/
  includeDynamic : Bool := true
  /-- Whether classes that a compiler made up are left out. -/
  skipSynthetic : Bool := false
deriving DecidableEq, Repr

/-- What checks have told so far. -/
structure Report where
  findings : List Finding := []
  events : List LogEvent := []
deriving DecidableEq, Repr

/-- A part of a check.  What it has added to the report stays there if it fails. -/
abbrev Checker := EStateM FormatError Report

instance : MonadLift (Except FormatError) Checker where
  monadLift x := MonadExcept.ofExcept x

namespace Checker

/-- Adds findings to the report. -/
def find (findings : List Finding) : Checker Unit :=
  modify fun r => { r with findings := r.findings ++ findings }

/-- Adds to the log of the report. -/
def note (events : List LogEvent) : Checker Unit :=
  modify fun r => { r with events := r.events ++ events }

end Checker

/-- A constructor as far as checking needs it.  It may have no body. -/
structure Constructor where
  descriptor : String
  body : Option (List Instruction)
deriving DecidableEq, Repr

namespace Constructor

/-- Loads descriptor, code and instructions, in this order. -/
def load (pool : ConstantPool) (m : Method) : Except FormatError Constructor := do
  let descriptor ← (m.descriptor pool).mapError .resolve
  match ← Method.code? m pool with
  | none => return ⟨descriptor, none⟩
  | some code =>
    let body ← (code.instructions pool).mapError .code
    return ⟨descriptor, some body⟩

def findings (c : Constructor) (owner : BinaryName) (includeDynamic : Bool) : List Finding :=
  match c.body with
  | none => []
  | some code => CtorLeak.findings owner includeDynamic code

def events (c : Constructor) (owner : BinaryName) (includeDynamic : Bool) : List LogEvent :=
  match c.body with
  | none => [.bodyMissing owner c.descriptor]
  | some code =>
    .constructorChecked owner c.descriptor code.length :: findingEvents owner includeDynamic code

/-- Checks one constructor of a class and tells how many findings it has. -/
def check (settings : Settings) (pool : ConstantPool) (owner : BinaryName) (m : Method) :
    Checker Nat := do
  let c ← load pool m
  let found := c.findings owner settings.includeDynamic
  Checker.note (c.events owner settings.includeDynamic)
  Checker.find found
  return found.length

end Constructor

/-- Checks a class and tells how many findings it has. -/
def ClassFile.check (settings : Settings) (c : ClassFile) : Checker Nat := do
  let name ← c.name.mapError FormatError.resolve
  if settings.skipSynthetic && c.access.isSynthetic then
    Checker.note [.syntheticSkipped name]
    return 0
  else
    let constructors ← c.constructors.mapError FormatError.resolve
    constructors.foldlM (fun n m => do return n + (← Constructor.check settings c.pool name m)) 0

/-- Reads a class file and checks it. -/
def check (settings : Settings) (bytes : List UInt8) : Checker Nat := do
  let c ← ClassFile.ofBytes bytes
  c.check settings

/-- The outcome of a single check.  An error ends it, but what was found before stays. -/
structure CheckResult where
  findings : List Finding
  events : List LogEvent
  error : Option FormatError
deriving DecidableEq, Repr

namespace CheckResult

/-- The findings of a check that went through. -/
def toExcept (r : CheckResult) : Except FormatError (List Finding) :=
  match r.error with
  | none => .ok r.findings
  | some e => .error e

end CheckResult

/-- Checks a class file on its own. -/
def checkBytes (settings : Settings) (bytes : List UInt8) : CheckResult :=
  match check settings bytes {} with
  | .ok _ r => ⟨r.findings, r.events, none⟩
  | .error e r => ⟨r.findings, r.events, some e⟩

end CtorLeak
