/-!
# Access flags

A class, a field and a method each have a 16-bit word of flags.  Which bits mean something depends
on what carries the word; the others are dropped.

`AccessFlags.ofBits`, `names` and `render` stand for an outside bit flags library, whose code is not
part of this development.  They do what such a library documents: bits without a name are cut off,
and a set is shown as the names in it, in the order in which they are declared.
-/

namespace CtorLeak

/-- What a word of flags belongs to. -/
inductive FlagOwner where
  | ofClass | ofField | ofMethod
deriving DecidableEq, Repr

namespace FlagOwner

/-- The flags that have a meaning, by name, lowest bit first. -/
def flags : FlagOwner → List (String × UInt16)
  | ofClass =>
    [("PUBLIC", 0x0001), ("FINAL", 0x0010), ("SUPER", 0x0020), ("INTERFACE", 0x0200),
      ("ABSTRACT", 0x0400), ("SYNTHETIC", 0x1000), ("ANNOTATION", 0x2000), ("ENUM", 0x4000),
      ("MODULE", 0x8000)]
  | ofField =>
    [("PUBLIC", 0x0001), ("PRIVATE", 0x0002), ("PROTECTED", 0x0004), ("STATIC", 0x0008),
      ("FINAL", 0x0010), ("VOLATILE", 0x0040), ("TRANSIENT", 0x0080), ("SYNTHETIC", 0x1000),
      ("ENUM", 0x4000)]
  | ofMethod =>
    [("PUBLIC", 0x0001), ("PRIVATE", 0x0002), ("PROTECTED", 0x0004), ("STATIC", 0x0008),
      ("FINAL", 0x0010), ("SYNCHRONIZED", 0x0020), ("BRIDGE", 0x0040), ("VARARGS", 0x0080),
      ("NATIVE", 0x0100), ("ABSTRACT", 0x0400), ("STRICT", 0x0800), ("SYNTHETIC", 0x1000)]

/-- All bits that have a meaning. -/
def mask (owner : FlagOwner) : UInt16 :=
  owner.flags.foldl (fun bits flag => bits ||| flag.2) 0

end FlagOwner

/-- A word of flags with only meaningful bits set. -/
@[ext]
structure AccessFlags (owner : FlagOwner) where
  bits : UInt16
  assigned : bits &&& owner.mask = bits
deriving DecidableEq

namespace AccessFlags

variable {owner : FlagOwner}

/-- Keeps the bits that have a meaning. -/
def ofBits (owner : FlagOwner) (bits : UInt16) : AccessFlags owner :=
  ⟨bits &&& owner.mask, by rw [UInt16.and_assoc, UInt16.and_self]⟩

/-- The names of the flags that are set, lowest bit first. -/
def names (flags : AccessFlags owner) : List String :=
  (owner.flags.filter fun flag => flags.bits &&& flag.2 == flag.2).map Prod.fst

def render (flags : AccessFlags owner) : String :=
  match flags.names with
  | [] => "(empty)"
  | names => " | ".intercalate names

/-- Whether a compiler made the class without a construct in its source. -/
def isSynthetic (flags : AccessFlags .ofClass) : Bool :=
  flags.bits &&& 0x1000 == 0x1000

instance : Repr (AccessFlags owner) := ⟨fun flags _ => flags.render⟩

end AccessFlags

end CtorLeak
