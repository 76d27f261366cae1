import CtorLeak.Name
import CtorLeak.Bytes.Reader
import CtorLeak.Text.Quoted

/-!
# What can be wrong with a class file

Three kinds of trouble, each with its own type: a constant that is not what its user needs
(`ResolveError`), bytes that are no instructions (`CodeError`), and a file that cannot be read as a
class file at all (`FormatError`, which has the other two inside).

`describe` writes a cause the way reports show it.
-/

namespace CtorLeak

/-! ## The file system -/

/-- Why the system does not give the contents of a file. -/
inductive SystemError where
  | notFound
  | permissionDenied
  | notADirectory
  | isADirectory
  | nameTooLong
  | other (code : Nat) (text : String)
deriving DecidableEq, Repr

namespace SystemError

def code : SystemError → Nat
  | notFound => 2
  | permissionDenied => 13
  | notADirectory => 20
  | isADirectory => 21
  | nameTooLong => 36
  | other code _ => code

def kind : SystemError → String
  | notFound => "NotFound"
  | permissionDenied => "PermissionDenied"
  | notADirectory => "NotADirectory"
  | isADirectory => "IsADirectory"
  | nameTooLong => "InvalidFilename"
  | other _ _ => "Uncategorized"

def text : SystemError → String
  | notFound => "No such file or directory"
  | permissionDenied => "Permission denied"
  | notADirectory => "Not a directory"
  | isADirectory => "Is a directory"
  | nameTooLong => "File name too long"
  | other _ text => text

def message (e : SystemError) : String :=
  s!"{e.text} (os error {e.code})"

def describe (e : SystemError) : String :=
  Text.record "Os"
    [("code", toString e.code), ("kind", e.kind), ("message", Text.quote e.text)]

end SystemError

/-- Why bytes cannot be had: too few of them, none from the system, or no path to ask the system
for, because a zero character would end it too early. -/
inductive IoError where
  | read (e : ReadError)
  | system (e : SystemError)
  | zeroInPath
deriving DecidableEq, Repr

namespace IoError

def kind : IoError → String
  | read _ => "UnexpectedEof"
  | system e => e.kind
  | zeroInPath => "InvalidInput"

def message : IoError → String
  | read e => e.message
  | system e => e.message
  | zeroInPath => "file name contained an unexpected NUL byte"

def describe : IoError → String
  | e@(read .short) | e@zeroInPath =>
    Text.record "Error" [("kind", e.kind), ("message", Text.quote e.message)]
  | e@(read (.shortRun _ _)) =>
    Text.record "Custom" [("kind", e.kind), ("error", Text.quote e.message)]
  | system e => e.describe

end IoError

/-! ## Constants -/

/-- What the user of a constant needs it to be. -/
inductive ConstantRole where
  | any
  | utf8
  | classInfo
  | nameAndType
  | fieldRef
  | methodRef
  | invokeDynamic
deriving DecidableEq, Repr

namespace ConstantRole

def label : ConstantRole → String
  | any => "constant"
  | utf8 => "Utf8"
  | classInfo => "Class"
  | nameAndType => "NameAndType"
  | fieldRef => "Fieldref"
  | methodRef => "Methodref"
  | invokeDynamic => "InvokeDynamic"

end ConstantRole

/-- Why an index into the constant pool does not resolve. -/
inductive ResolveError where
  | badIndex (index : UInt16) (expected : ConstantRole)
  | malformedName (e : NameError)
deriving DecidableEq, Repr

namespace ResolveError

def label : ResolveError → String
  | badIndex _ _ => "BadConstantIndex"
  | malformedName _ => "MalformedName"

def describe : ResolveError → String
  | e@(badIndex index expected) =>
    Text.record e.label
      [("index", toString index), ("expected", Text.quote expected.label)]
  | e@(malformedName fault) => Text.tagged e.label (Text.quote fault.message)

end ResolveError

/-! ## Code -/

/-- Why bytes are no sequence of instructions; `offset` is where the bad instruction starts. -/
inductive CodeError where
  | unknownOpcode (opcode : UInt8) (offset : Nat)
  | badWideOpcode (opcode : UInt8) (offset : Nat)
  | badArrayType (code : UInt8) (offset : Nat)
  | truncated (offset : Nat)
  | resolve (e : ResolveError)
deriving DecidableEq, Repr

namespace CodeError

def label : CodeError → String
  | unknownOpcode _ _ => "UnknownOpcode"
  | badWideOpcode _ _ => "BadWideOpcode"
  | badArrayType _ _ => "BadArrayType"
  | truncated _ => "TruncatedCode"
  | resolve e => e.label

def describe : CodeError → String
  | e@(unknownOpcode opcode offset) | e@(badWideOpcode opcode offset) =>
    Text.record e.label [("opcode", toString opcode), ("offset", toString offset)]
  | e@(badArrayType code offset) =>
    Text.record e.label [("atype", toString code), ("offset", toString offset)]
  | e@(truncated offset) => Text.record e.label [("offset", toString offset)]
  | resolve e => e.describe

end CodeError

/-! ## Class files -/

/-- Why something is no class file, or one whose parts do not fit together. -/
inductive FormatError where
  | io (e : IoError)
  | badMagic (found : UInt32)
  | unknownConstantTag (tag : UInt8) (index : UInt16)
  | malformedUtf8 (index : UInt16)
  | resolve (e : ResolveError)
  | code (e : CodeError)
deriving DecidableEq, Repr

namespace FormatError

def label : FormatError → String
  | io _ => "IoError"
  | badMagic _ => "BadMagic"
  | unknownConstantTag _ _ => "UnknownConstantTag"
  | malformedUtf8 _ => "MalformedUtf8"
  | resolve e => e.label
  | code e => e.label

def describe : FormatError → String
  | e@(io cause) => Text.tagged e.label cause.describe
  | e@(badMagic found) => Text.tagged e.label (toString found)
  | e@(unknownConstantTag tag index) =>
    Text.record e.label [("tag", toString tag), ("index", toString index)]
  | e@(malformedUtf8 index) => Text.tagged e.label (toString index)
  | resolve e => e.describe
  | code e => e.describe

end FormatError

/-- Reading a class file fails if a part of it is cut short. -/
instance : MonadLift (Reader ReadError) (Reader FormatError) where
  monadLift r := r.adaptExcept fun e => .io (.read e)

end CtorLeak
