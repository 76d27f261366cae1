import CtorLeak.Descriptor.Parser

/-!
# The log

What the analysis notes while it works, from warnings to single steps.
-/

namespace CtorLeak

inductive LogLevel where
  | warn | debug | trace
deriving DecidableEq, Repr

def LogLevel.label : LogLevel → String
  | warn => "WARN"
  | debug => "DEBUG"
  | trace => "TRACE"

inductive LogEvent where
  /-- The arguments of a call cannot be counted and are taken to be none. -/
  | unreadableDescriptor (descriptor : String) (e : DescriptorError)
  /-- A call has arguments of two slots, which count as one value. -/
  | wideArguments (descriptor : String)
  | sitesFound (name : BinaryName) (calls stores : Nat)
  | argumentEscapes (name : BinaryName) (load call : Nat)
  | storeEscapes (name : BinaryName) (store : Nat)
  | syntheticSkipped (name : BinaryName)
  | bodyMissing (name : BinaryName) (descriptor : String)
  | constructorChecked (name : BinaryName) (descriptor : String) (size : Nat)
deriving DecidableEq, Repr

namespace LogEvent

def level : LogEvent → LogLevel
  | unreadableDescriptor _ _ => .warn
  | wideArguments _ | sitesFound _ _ _ | argumentEscapes _ _ _ | storeEscapes _ _ => .trace
  | syntheticSkipped _ | bodyMissing _ _ | constructorChecked _ _ _ => .debug

def message : LogEvent → String
  | unreadableDescriptor descriptor e =>
    s!"Cannot parse method descriptor {descriptor}: {e.message}"
  | wideArguments descriptor =>
    s!"Descriptor {descriptor} has wide arguments, scanning them as one value each"
  | sitesFound name calls stores => s!"{name.text}: {calls} call sites, {stores} field stores"
  | argumentEscapes name load call =>
    s!"{name.text}: `this` loaded at {load} is an argument of call at {call}"
  | storeEscapes name store => s!"{name.text}: `this` stored into a field at {store}"
  | syntheticSkipped name => s!"Skipping synthetic class {name.text}"
  | bodyMissing name descriptor => s!"Constructor {name.text}{descriptor} has no code"
  | constructorChecked name descriptor size =>
    s!"Checking constructor {name.text}{descriptor} ({size} instructions)"

def render (e : LogEvent) : String := s!"{e.level.label} {e.message}"

end LogEvent

end CtorLeak
