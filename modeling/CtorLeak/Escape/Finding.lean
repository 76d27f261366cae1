import CtorLeak.Escape.Site

/-!
# Findings

A finding is a place in a constructor where `this` gets out.  `findings` lists those of a
constructor: first the calls that take `this` as an argument, in order and for each call from its
last argument to its first, then the stores of `this` into a field, in order.
-/

namespace CtorLeak

inductive Leak where
  | argument (call load : Nat) (target : String)
  | store (store : Nat) (field : String)
deriving DecidableEq, Repr

namespace Leak

def render : Leak → String
  | argument call _ target => s!"passed to {target} at instruction {call}"
  | store index field => s!"stored into {field} at instruction {index}"

end Leak

structure Finding where
  /-- The class whose constructor leaks. -/
  owner : BinaryName
  leak : Leak
deriving DecidableEq, Repr

namespace Finding

def message : String := "The 'this' reference is exposed outside the constructor"

/-- The code under which reports file a finding. -/
def reason : String := "ESCAPED_THIS_REFERENCE"

def render (f : Finding) : String :=
  s!"{f.owner.dotted}: {message} ({f.leak.render}, {reason})"

end Finding

/-- The calls that take `this`, each with the load of the argument. -/
def leakingCalls (includeDynamic : Bool) (code : List Instruction) : List (CallSite × Nat) :=
  (callSites includeDynamic code).flatMap fun site =>
    (thisArguments code site.index site.arguments).map (site, ·)

/-- The stores of `this`. -/
def leakingStores (code : List Instruction) : List StoreSite :=
  (storeSites code).filter fun site => (thisStored? code site.index).isSome

/-- Everything that a constructor with the given code lets escape. -/
def leaks (includeDynamic : Bool) (code : List Instruction) : List Leak :=
  (leakingCalls includeDynamic code).map
      (fun (site, load) => .argument site.index load site.callee.describe) ++
    (leakingStores code).map (fun site => .store site.index site.field.describe)

def findings (owner : BinaryName) (includeDynamic : Bool) (code : List Instruction) :
    List Finding :=
  (leaks includeDynamic code).map (Finding.mk owner)

/-- What finding the sites of a constructor notes in the log. -/
def siteEvents (includeDynamic : Bool) (code : List Instruction) : List LogEvent :=
  (callSites includeDynamic code).flatMap fun site => argumentEvents site.callee.descriptor

/-- What the search for findings notes in the log. -/
def findingEvents (owner : BinaryName) (includeDynamic : Bool) (code : List Instruction) :
    List LogEvent :=
  siteEvents includeDynamic code ++
    [.sitesFound owner (callSites includeDynamic code).length (storeSites code).length] ++
    (leakingCalls includeDynamic code).map
      (fun (site, load) => .argumentEscapes owner load site.index) ++
    (leakingStores code).map (fun site => .storeEscapes owner site.index)

end CtorLeak
