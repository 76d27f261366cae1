import CtorLeak.Error

/-!
# Files and folders

A tree of files below a working folder, and what paths lead to in it.  A path is followed step by
step: `.` and an empty step stay where they are, `..` goes up, any other step goes down, and every
step needs a folder to start from.  Names and whole paths have a greatest size.  A path may leave
the working folder, but of what is outside only the folders above it are known.

`FileTree.classFiles` searches a folder as an outside library for walking folders does, whose code
is not part of this development.
-/

namespace CtorLeak.Cli

inductive FileNode where
  | file (content : List UInt8)
  | folder
deriving DecidableEq, Repr

/-- A file or a folder, by the steps that lead to it. -/
structure FileEntry where
  steps : List String
  node : FileNode
deriving DecidableEq, Repr

/-- The entries below the working folder, at most one for a location.  Folders that lead to an entry
are entries too. -/
structure FileTree where
  entries : List FileEntry := []
deriving DecidableEq, Repr

/-! ## Paths -/

/-- The most bytes that the name of a file or a folder may have. -/
def maxNameSize : Nat := 255

/-- The most bytes that a path may have. -/
def maxPathSize : Nat := 4095

/-- The steps of a path. -/
def pathSteps (path : String) : List String := (segments path.toList).map String.ofList

/-- Where a path leads: below the working folder, or to a folder outside of it. -/
inductive Location where
  | inside (steps : List String)
  | outside
deriving DecidableEq, Repr

namespace Location

/-- Where a path starts. -/
def start (path : String) : Location :=
  if path.startsWith "/" then outside else inside []

/-- The folder above. -/
def up : Location → Location
  | inside [] | outside => outside
  | inside (first :: rest) => inside (first :: rest).dropLast

/-- Where a name leads; nothing is known by its name outside. -/
def down? (name : String) : Location → Option Location
  | inside steps => some (inside (steps ++ [name]))
  | outside => none

/-- Where one step leads. -/
def enter? (location : Location) (step : String) : Option Location :=
  if step = "" || step = "." then some location
  else if step = ".." then some location.up
  else location.down? step

end Location

/-- Whether a file is taken for a class file by its name: it has the extension `class` after
something. -/
def isClassFileName (name : String) : Bool :=
  name.endsWith ".class" && 6 < name.length

/-- The path of something below a folder. -/
def joinPath (folder below : String) : String :=
  if folder.endsWith "/" then folder ++ below else folder ++ "/" ++ below

namespace FileEntry

/-- The steps from a folder to an entry below it. -/
def below? (entry : FileEntry) : Location → Option (List String)
  | .inside steps =>
    if steps.isPrefixOf entry.steps then some (entry.steps.drop steps.length) else none
  | .outside => none

/-- The steps from a folder to a class file below it. -/
def classFile? (folder : Location) (entry : FileEntry) : Option (List String) := do
  let below ← entry.below? folder
  let name ← below.getLast?
  if entry.node ≠ .folder && isClassFileName name then return below else none

end FileEntry

namespace FileTree

/-- What is at a location. -/
def node? (tree : FileTree) : Location → Option FileNode
  | .inside [] | .outside => some .folder
  | .inside steps => (tree.entries.find? (·.steps == steps)).map (·.node)

/-! ## Making a tree -/

/-- Puts a node at a location, in place of what was there.  Outside, nothing is put. -/
def put (tree : FileTree) (location : Location) (node : FileNode) : FileTree :=
  match location with
  | .inside steps => ⟨tree.entries.filter (·.steps ≠ steps) ++ [⟨steps, node⟩]⟩
  | .outside => tree

/-- Makes the folders along some steps, as far as nothing is there yet. -/
def makeFolders (tree : FileTree) (location : Location) : List String → FileTree
  | [] => tree
  | step :: rest =>
    match location.enter? step with
    | none => tree
    | some next =>
      let tree := if (tree.node? next).isSome then tree else tree.put next .folder
      tree.makeFolders next rest

/-- Adds what a path is to lead to, with the folders on the way. -/
def add (tree : FileTree) (path : String) (node : FileNode) : FileTree :=
  let start := Location.start path
  let steps := pathSteps path
  let tree := tree.makeFolders start steps
  match node, steps.foldlM Location.enter? start with
  | .file _, some location => tree.put location node
  | _, _ => tree

/-- The tree of some files and folders, made one after the other.  The last one of a path stays. -/
def ofNodes (nodes : List (String × FileNode)) : FileTree :=
  nodes.foldl (fun tree (path, node) => tree.add path node) {}

/-! ## Following paths -/

/-- Follows steps from a location. -/
def follow (tree : FileTree) (location : Location) : List String → Except SystemError Location
  | [] => .ok location
  | step :: rest =>
    match tree.node? location with
    | none => .error .notFound
    | some (.file _) => .error .notADirectory
    | some .folder =>
      if maxNameSize < step.utf8ByteSize then .error .nameTooLong
      else
        match location.enter? step with
        | none => .error .notFound
        | some next => tree.follow next rest

/-- The location that a path leads to and what is there. -/
def lookup (tree : FileTree) (path : String) : Except IoError (Location × FileNode) := do
  if path.toList.contains '\x00' then throw .zeroInPath
  if maxPathSize < path.utf8ByteSize then throw (.system .nameTooLong)
  let location ← (tree.follow (.start path) (pathSteps path)).mapError .system
  match tree.node? location with
  | some node => return (location, node)
  | none => throw (.system .notFound)

/-- The contents of the file that a path leads to. -/
def read (tree : FileTree) (path : String) : Except IoError (List UInt8) := do
  match ← tree.lookup path with
  | (_, .file content) => return content
  | (_, .folder) => throw (.system .isADirectory)

/-- The paths to check for one argument: the class files below a folder, as far as a path can lead
to them, or the argument itself. -/
def classFiles (tree : FileTree) (argument : String) : List String :=
  match tree.lookup argument with
  | .ok (location, .folder) =>
    let found := tree.entries.filterMap (·.classFile? location)
    let paths := found.map fun below => joinPath argument ("/".intercalate below)
    paths.filter (·.utf8ByteSize ≤ maxPathSize)
  | _ => [argument]

end FileTree

end CtorLeak.Cli
