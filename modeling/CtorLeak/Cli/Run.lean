import CtorLeak.Cli.FileTree
import CtorLeak.Cli.Report

/-!
# Runs

A run reads its arguments, then the files they lead to, and then prints.  `run` does all of it in a
tree of files, folders that are to be searched included.  Files, folders and the terminal are given
as values: nothing here asks the system for them.
-/

namespace CtorLeak.Cli

/-- The inputs that a command names. -/
def Command.paths : Option Command → List String
  | some (.check _ paths) => paths
  | _ => []

/-- What a command prints, given the files that its inputs lead to.  Wrong usage prints nothing. -/
def Command.outcome (command : Option Command) (inputs : List Input) : Outcome :=
  match command with
  | none => ⟨[], 2⟩
  | some .help => ⟨[.text helpText], 0⟩
  | some .version => ⟨[.text versionText], 0⟩
  | some (.check options _) => report options inputs

/-- The files that some paths lead to, with their contents. -/
def FileTree.inputs (tree : FileTree) (paths : List String) : List Input :=
  (paths.flatMap tree.classFiles).map fun path => ⟨path, tree.read path⟩

/-- Runs a command line in a tree of files. -/
def run (tree : FileTree) (arguments : List String) : Outcome :=
  let command := Command.ofArguments arguments
  Command.outcome command (tree.inputs (Command.paths command))

/-- The text that goes to the terminal, given its kind and the wish for no colours. -/
def Outcome.text (terminal noColors : Option String) (outcome : Outcome) : String :=
  Span.renderAll (showsColors terminal noColors) outcome.output

end CtorLeak.Cli
