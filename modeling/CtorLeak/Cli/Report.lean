import CtorLeak.Cli.Arguments
import CtorLeak.Cli.Styled

/-!
# Reports on many files

Each file is checked on its own.  One that goes through gives a line for each of its findings; one
that does not gives a single line with the reason, and its findings do not count.  A summary with
three counts ends the report.
-/

namespace CtorLeak.Cli

/-- A file to check: the path by which it was found, and what reading it gave. -/
structure Input where
  path : String
  content : Except IoError (List UInt8)

namespace Input

def check (settings : Settings) (input : Input) : Except FormatError (List Finding) :=
  match input.content with
  | .error e => .error (.io e)
  | .ok bytes => (checkBytes settings bytes).toExcept

end Input

/-! ## Lines -/

inductive ReportLine where
  | finding (path : String) (f : Finding)
  | unreadable (path : String) (e : FormatError)
deriving DecidableEq, Repr

namespace ReportLine

def isFinding : ReportLine → Bool
  | finding _ _ => true
  | unreadable _ _ => false

/-- The line with its end.  The style of a finding is reset only after the end. -/
def spans : ReportLine → List Span
  | finding path f =>
    [.style { bold := true }, .text f.owner.dotted, .reset, .text ": ",
      .style { color := some .red }, .text Finding.message, .style { dimmed := true },
      .text s!" ({f.leak.render}) [{path}]\n", .reset]
  | unreadable path e =>
    [.style { color := some .yellow }, .text "ERROR ", .reset,
      .text (s!"{path}: " ++ Text.tagged "ClassFormat" e.describe ++ "\n")]

/-- The lines of one file, from its check. -/
def ofCheck (path : String) : Except FormatError (List Finding) → List ReportLine
  | .ok fs => fs.map (finding path)
  | .error e => [unreadable path e]

end ReportLine

/-! ## Counts -/

/-- How many findings, checked classes and unreadable files there are.  Findings are counted as the
elements of lists are.  Files are counted in 32 bits, and these counts wrap around. -/
structure Tally where
  findings : Nat := 0
  classes : Int32 := 0
  unreadable : Int32 := 0
deriving DecidableEq, Repr

namespace Tally

instance : Add Tally where
  add a b := ⟨a.findings + b.findings, a.classes + b.classes, a.unreadable + b.unreadable⟩

/-- The counts of one file, from its check. -/
def ofCheck : Except FormatError (List Finding) → Tally
  | .ok fs => { findings := fs.length, classes := 1 }
  | .error _ => { unreadable := 1 }

def exitCode (t : Tally) : UInt32 :=
  if 0 < t.unreadable then 2 else if 0 < t.findings then 1 else 0

def color (t : Tally) : Color :=
  if 0 < t.unreadable then .yellow else if 0 < t.findings then .red else .green

def summary (t : Tally) : String :=
  s!"{t.findings} finding(s) in {t.classes} class(es)" ++
    if 0 < t.unreadable then s!", {t.unreadable} unreadable" else ""

def spans (t : Tally) : List Span :=
  [.style { bold := true, color := some t.color }, .text t.summary, .reset, .text "\n"]

end Tally

/-! ## Whole runs -/

/-- The lines about some files, all findings included. -/
def reportLines (settings : Settings) (inputs : List Input) : List ReportLine :=
  inputs.flatMap fun input => ReportLine.ofCheck input.path (input.check settings)

def tally (settings : Settings) (inputs : List Input) : Tally :=
  (inputs.map fun input => Tally.ofCheck (input.check settings)).foldr (· + ·) {}

/-- The lines that are shown. -/
def shownLines (options : Options) (inputs : List Input) : List ReportLine :=
  (reportLines options.settings inputs).filter fun line => !(options.quiet && line.isFinding)

/-- What a run prints and the code it exits with. -/
structure Outcome where
  output : List Span
  exitCode : UInt32
deriving DecidableEq, Repr

def report (options : Options) (inputs : List Input) : Outcome :=
  let counts := tally options.settings inputs
  ⟨(shownLines options inputs).flatMap ReportLine.spans ++ counts.spans, counts.exitCode⟩

def versionText : String := "Escaped `this` checker 0.1.0\n"

def helpLines : List String :=
  ["Find JVM constructors that let `this` escape before construction completes",
    "",
    "Usage: escaped-this [OPTIONS] <INPUT>...",
    "",
    "Arguments:",
    "  <INPUT>...  Class files, or folders to search for class files",
    "",
    "Options:",
    "      --no-invokedynamic  Don't treat `invokedynamic` (eg. lambdas capturing `this`) as a call",
    "      --skip-synthetic    Skip classes generated by the compiler",
    "  -q, --quiet             Only print the summary",
    "  -h, --help              Print help",
    "  -V, --version           Print version"]

def helpText : String := String.join (helpLines.map (· ++ "\n"))

end CtorLeak.Cli
