import Rowsmith.Unit.Sink

/-!
# Directories

A sink that writes files below a root, over a tree of files. The root is made with all directories
above it; nothing can be made below a file, and a file cannot take the place of a directory.
-/

namespace Rowsmith

/-- The steps of a path from the top of a tree. -/
abbrev TreePath := List String

/-- What a path of a tree leads to. -/
inductive TreeNode
  | directory
  | file (content : String)
  deriving DecidableEq, Repr

/-- A tree of files, the latest entry of a path first. -/
structure FileTree where
  entries : List (TreePath × TreeNode) := []
  deriving DecidableEq, Repr

namespace FileTree

/-- Whether a name can be given to a file or directory. -/
def isUsable (part : String) : Bool :=
  part.utf8ByteSize ≤ 255 && !part.contains (Char.ofNat 0)

/-- The parts of a path text. -/
def parts (path : String) : List String := path.splitOn "/"

/-- What a path leads to. The top is a directory. -/
def node? (t : FileTree) (path : TreePath) : Option TreeNode :=
  if path.isEmpty then some .directory else t.entries.lookup path

/-- Where a part of a path leads from a directory: a dot nowhere, two dots back. -/
def step? (t : FileTree) (here : TreePath) (part : String) : Option TreePath :=
  if t.node? here != some .directory then none
  else if part = "" || part = "." then some here
  else if part = ".." then some here.dropLast
  else if isUsable part then some (here ++ [part])
  else none

/-- Where a path text leads through directories that are there. -/
def resolve? (t : FileTree) (path : String) : Option TreePath :=
  (parts path).foldlM t.step? []

/-- The tree with a directory at every part of a path, given the steps before it. -/
def makeDirectories (t : FileTree) (here : TreePath) : List String → Option FileTree
  | [] => some t
  | part :: rest =>
    match t.step? here part with
    | none => none
    | some next =>
      match t.node? next with
      | some .directory => makeDirectories t next rest
      | some (.file _) => none
      | none => makeDirectories { entries := (next, .directory) :: t.entries } next rest

/-- The tree with a file written, if its directory is there and no directory has its place. -/
def writeFile (t : FileTree) (path content : String) : Option FileTree :=
  match t.resolve? path with
  | none => none
  | some place =>
    if t.node? place = some .directory then none
    else some { entries := (place, .file content) :: t.entries }

/-- The content of a file. -/
def read? (t : FileTree) (path : String) : Option String :=
  match (t.resolve? path).bind t.node? with
  | some (.file content) => some content
  | _ => none

/-- A tree with one file and the directories above it. -/
def withFile (path content : String) : FileTree :=
  match makeDirectories {} [] (parts path).dropLast with
  | some t => (t.writeFile path content).getD t
  | none => {}

end FileTree

/-- A sink that writes files below a root. -/
structure DirectorySink where
  tree : FileTree
  root : String
  deriving DecidableEq, Repr

namespace DirectorySink

/-- The path of a file below the root. -/
def pathOf (sink : DirectorySink) (name : String) : String :=
  if name.startsWith "/" || sink.root.isEmpty then name
  else if sink.root.endsWith "/" then sink.root ++ name
  else sink.root ++ "/" ++ name

/-- Writes a file below the root. -/
def insert (sink : DirectorySink) (name source : String) :
    Except GenerationError DirectorySink :=
  match sink.tree.makeDirectories [] (FileTree.parts sink.root) with
  | none => .error (.unwritable sink.root)
  | some tree =>
    let path := sink.pathOf name
    match tree.writeFile path source with
    | some tree => .ok { sink with tree }
    | none => .error (.unwritable path)

/-- The content of a file below the root. -/
def read? (sink : DirectorySink) (name : String) : Option String :=
  sink.tree.read? (sink.pathOf name)

end DirectorySink

instance : Sink DirectorySink where
  add := DirectorySink.insert

end Rowsmith
