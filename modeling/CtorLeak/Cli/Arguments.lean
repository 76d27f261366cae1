import CtorLeak.Check

/-!
# Command-line arguments

Arguments are read from left to right.  Flags may stand anywhere before `--`; everything after it is
an input.  A flag may be given once, takes no value and is not abbreviated; short flags may be
written together.  Asking for help or for the version ends the reading at once, and so does the
first argument that is wrong.

These are the rules of an outside library for arguments, whose code is not part of this development.
-/

namespace CtorLeak.Cli

/-- What the user wants done to the inputs. -/
structure Options where
  settings : Settings := {}
  /-- Whether findings are counted only and not shown. -/
  quiet : Bool := false
deriving DecidableEq, Repr

inductive Command where
  | help
  | version
  | check (options : Options) (inputs : List String)
deriving DecidableEq, Repr

inductive Flag where
  | noInvokeDynamic | skipSynthetic | quiet | help | version
deriving DecidableEq, Repr

namespace Flag

def ofLong? : String → Option Flag
  | "no-invokedynamic" => some noInvokeDynamic
  | "skip-synthetic" => some skipSynthetic
  | "quiet" => some quiet
  | "help" => some help
  | "version" => some version
  | _ => none

def ofShort? : Char → Option Flag
  | 'q' => some quiet
  | 'h' => some help
  | 'V' => some version
  | _ => none

end Flag

/-- An argument as it stands, before the flags are put into effect. -/
inductive Argument where
  | flags (fs : List (Option Flag))
  | input (path : String)
  | endOfFlags
  | empty
deriving DecidableEq, Repr

/-- Tells apart flags, inputs and the mark after which only inputs come.  A flag that does not exist
is `none`. -/
def Argument.ofString (text : String) : Argument :=
  match text.toList with
  | [] => .empty
  | ['-'] => .input text
  | ['-', '-'] => .endOfFlags
  | '-' :: '-' :: name => .flags [Flag.ofLong? (String.ofList name)]
  | '-' :: letters => .flags (letters.map Flag.ofShort?)
  | _ => .input text

/-- What has been read so far: the flags that were given, and the inputs, the last first. -/
structure Progress where
  given : List Flag := []
  inputs : List String := []

namespace Progress

/-- The command once all arguments are read.  There has to be an input. -/
def finish (p : Progress) : Option Command :=
  if p.inputs.isEmpty then none
  else some (.check
    { settings :=
        { includeDynamic := !p.given.contains .noInvokeDynamic
          skipSynthetic := p.given.contains .skipSynthetic }
      quiet := p.given.contains .quiet }
    p.inputs.reverse)

/-- Takes flags in one after the other, as far as the reading goes on; otherwise `.error` has what
it ended with. -/
def addFlags (p : Progress) : List (Option Flag) → Except (Option Command) Progress
  | [] => .ok p
  | none :: _ => .error none
  | some .help :: _ => .error (some .help)
  | some .version :: _ => .error (some .version)
  | some flag :: rest =>
    if p.given.contains flag then .error none
    else addFlags { p with given := flag :: p.given } rest

/-- Reads arguments of which none is a flag. -/
def addInputs (p : Progress) : List String → Option Command
  | [] => p.finish
  | text :: rest =>
    if text.isEmpty then none else addInputs { p with inputs := text :: p.inputs } rest

def addArguments (p : Progress) : List String → Option Command
  | [] => p.finish
  | text :: rest =>
    match Argument.ofString text with
    | .empty => none
    | .input path => addArguments { p with inputs := path :: p.inputs } rest
    | .endOfFlags => p.addInputs rest
    | .flags fs =>
      match p.addFlags fs with
      | .ok p => p.addArguments rest
      | .error answer => answer

end Progress

/-- The command that some arguments give; `none` if they are wrong. -/
def Command.ofArguments (arguments : List String) : Option Command :=
  ({} : Progress).addArguments arguments

end CtorLeak.Cli
