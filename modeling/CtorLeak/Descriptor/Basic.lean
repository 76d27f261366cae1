import CtorLeak.Name

/-!
# Types of fields and methods

A descriptor is the text by which a class file gives the type of a field or of a method:

* a base type is one letter,
* a class is `L`, its binary name and `;`,
* an array is one `[` for each of its dimensions, then the type of its elements,
* a method is its parameters between `(` and `)`, then its result, `V` for none.

`render` writes these texts.
-/

namespace CtorLeak

inductive BaseType where
  | byte | char | double | float | int | long | short | boolean
deriving DecidableEq, Repr

namespace BaseType

def letter : BaseType → Char
  | byte => 'B'
  | char => 'C'
  | double => 'D'
  | float => 'F'
  | int => 'I'
  | long => 'J'
  | short => 'S'
  | boolean => 'Z'

def ofLetter? : Char → Option BaseType
  | 'B' => some byte
  | 'C' => some char
  | 'D' => some double
  | 'F' => some float
  | 'I' => some int
  | 'J' => some long
  | 'S' => some short
  | 'Z' => some boolean
  | _ => none

/-- How many stack or local slots a value takes. -/
def width : BaseType → Nat
  | double | long => 2
  | _ => 1

theorem ofLetter?_letter (b : BaseType) : ofLetter? b.letter = some b := by
  cases b <;> rfl

theorem ofLetter?_eq_some_iff {c : Char} {b : BaseType} :
    ofLetter? c = some b ↔ c = b.letter := by
  constructor
  · intro h
    unfold ofLetter? at h
    split at h <;> simp at h <;> subst h <;> rfl
  · rintro rfl
    exact ofLetter?_letter b

end BaseType

/-- Types whose values are references.  An array has `extra + 1` dimensions. -/
inductive RefType where
  | object (name : BinaryName)
  | objectArray (extra : Nat) (name : BinaryName)
  | baseArray (extra : Nat) (base : BaseType)
deriving DecidableEq, Repr

inductive FieldType where
  | base (type : BaseType)
  | ref (type : RefType)
deriving DecidableEq, Repr

structure MethodDescriptor where
  parameters : List FieldType
  /-- The type of the result; `none` for a method that returns nothing. -/
  result : Option FieldType
deriving DecidableEq, Repr

namespace FieldType

def int : FieldType := .base .int

def long : FieldType := .base .long

def object (name : BinaryName) : FieldType := .ref (.object name)

/-- How many stack or local slots a value takes; a reference takes one. -/
def width : FieldType → Nat
  | base type => type.width
  | ref _ => 1

end FieldType

namespace MethodDescriptor

/-- The slots that are taken once the arguments follow what is there before them. -/
def slotsAfter (d : MethodDescriptor) (taken : Nat) : Nat :=
  d.parameters.foldl (fun length type => length + type.width) taken

/-- The slots that the arguments take. -/
def parameterLength (d : MethodDescriptor) : Nat := d.slotsAfter 0

/-- The slots that the arguments take together with the receiver. -/
def parameterLengthWithThis (d : MethodDescriptor) : Nat := d.slotsAfter 1

end MethodDescriptor

/-! ## Descriptor texts -/

/-- The descriptor of a class. -/
def BinaryName.render (name : BinaryName) : List Char :=
  'L' :: name.text.toList ++ [';']

def RefType.render : RefType → List Char
  | object name => name.render
  | objectArray extra name => List.replicate (extra + 1) '[' ++ name.render
  | baseArray extra base => List.replicate (extra + 1) '[' ++ [base.letter]

def FieldType.render : FieldType → List Char
  | base type => [type.letter]
  | ref type => type.render

def MethodDescriptor.render (d : MethodDescriptor) : List Char :=
  '(' :: d.parameters.flatMap FieldType.render ++ ')' :: (d.result.map FieldType.render).getD ['V']

end CtorLeak
