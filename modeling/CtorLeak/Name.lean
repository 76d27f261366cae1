/-!
# Names of classes and members

An unqualified name (a method, a field, one segment of a class name) is a non-empty text without
`.`, `;`, `[` and `/`.  A binary name (a class) is either an array type, which starts with `[` and
is taken as it stands, or a sequence of unqualified names separated by `/`.

Both kinds carry the proof that their text was accepted, so a value of the type is always a name.
-/

namespace CtorLeak

/-- Why a text is not a name. -/
inductive NameError where
  /-- The unqualified name holds one of the reserved characters. -/
  | illegalCharacter (name : String)
  /-- The unqualified name has no characters. -/
  | emptyUnqualified
  /-- The binary name has no characters. -/
  | emptyBinary
deriving DecidableEq, Repr

namespace NameError

def message : NameError → String
  | illegalCharacter name => s!"Unqualified name '{name}' contains an illegal character"
  | emptyUnqualified => "Unqualified name '' is empty"
  | emptyBinary => "Binary name '' is empty"

end NameError

/-! ## Unqualified names -/

/-- The characters that separate names from each other and from what surrounds them. -/
def isReserved (c : Char) : Bool :=
  c = '.' || c = ';' || c = '[' || c = '/'

namespace UnqualifiedName

/-- What is wrong with a text as an unqualified name.  A reserved character is looked for first. -/
def fault? (cs : List Char) : Option NameError :=
  if cs.any isReserved then some (.illegalCharacter (String.ofList cs))
  else if cs.isEmpty then some .emptyUnqualified
  else none

end UnqualifiedName

@[ext]
structure UnqualifiedName where
  text : String
  valid : UnqualifiedName.fault? text.toList = none
deriving DecidableEq

namespace UnqualifiedName

def ofString (text : String) : Except NameError UnqualifiedName :=
  match h : fault? text.toList with
  | none => .ok ⟨text, h⟩
  | some e => .error e

/-- The name that every constructor has. -/
def init : UnqualifiedName := ⟨"<init>", by decide⟩

instance : Repr UnqualifiedName := ⟨fun name _ => repr name.text⟩

end UnqualifiedName

/-! ## Binary names -/

/-- The parts of a text between its slashes: one more than there are slashes. -/
def segments : List Char → List (List Char)
  | [] => [[]]
  | c :: cs =>
    if c = '/' then [] :: segments cs
    else match segments cs with
      | [] => [[c]]
      | part :: parts => (c :: part) :: parts

namespace BinaryName

/-- What is wrong with a text as a binary name: the fault of its first bad segment. -/
def fault? (cs : List Char) : Option NameError :=
  match cs with
  | [] => some .emptyBinary
  | '[' :: _ => none
  | cs => (segments cs).findSome? UnqualifiedName.fault?

end BinaryName

@[ext]
structure BinaryName where
  text : String
  valid : BinaryName.fault? text.toList = none
deriving DecidableEq

namespace BinaryName

def ofString (text : String) : Except NameError BinaryName :=
  match h : fault? text.toList with
  | none => .ok ⟨text, h⟩
  | some e => .error e

/-- The root of the class hierarchy. -/
def object : BinaryName := ⟨"java/lang/Object", by decide⟩

/-- The name as source code writes it, with dots between the segments. -/
def dotted (name : BinaryName) : String :=
  String.ofList (['.'].intercalate (segments name.text.toList))

instance : Repr BinaryName := ⟨fun name _ => repr name.text⟩

end BinaryName

end CtorLeak
