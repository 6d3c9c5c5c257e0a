import RemoteShell.Text.Split

/-!
# Trees of files

Directories, files and symbolic links. A path is followed name by name; links on
the way are followed too, as long as there are not too many.
-/

namespace RemoteShell

/-- Why a path leads to no text. -/
inductive FileError where
  | notFound
  | notDirectory
  | isDirectory
  | tooManyLinks
  | nameTooLong
  | permissionDenied
  /-- The path holds a zero, which ends paths. -/
  | hasZero
  /-- The bytes of the file spell no text. -/
  | notText
  deriving DecidableEq, Repr

/-- The wording of the operating system. -/
def FileError.message : FileError → String
  | .notFound => "No such file or directory (os error 2)"
  | .notDirectory => "Not a directory (os error 20)"
  | .isDirectory => "Is a directory (os error 21)"
  | .tooManyLinks => "Too many levels of symbolic links (os error 40)"
  | .nameTooLong => "File name too long (os error 36)"
  | .permissionDenied => "Permission denied (os error 13)"
  | .hasZero => "file name contained an unexpected NUL byte"
  | .notText => "stream did not contain valid UTF-8"

/-- What a name in a directory stands for. -/
inductive FileNode where
  | directory
  | file (content : List UInt8) (isProgram : Bool)
  | link (target : String)
  deriving DecidableEq, Repr

/-- The nodes of a tree by the names that lead to them from the root. Directories that
lead to a node exist without being listed. -/
structure FileTree where
  nodes : List (List String × FileNode)
  deriving Repr

namespace FileTree

/-- The node at the end of some names, where no link is on the way. -/
def node? (tree : FileTree) (names : List String) : Option FileNode :=
  match tree.nodes.lookup names with
  | some node => some node
  | none => if tree.nodes.any (names.isPrefixOf ·.1) then some .directory else none

/-- The names of a path. A slash at the end asks for a directory, as `.` does. -/
def namesOf (path : String) : List String :=
  let parts := Text.split '/' path
  let names := parts.filter (· ≠ "")
  if parts.getLast? = some "" ∧ names ≠ [] then names ++ ["."] else names

/-- Tells whether a path starts at the root. -/
def isAbsolute (path : String) : Bool := path.startsWith "/"

/-- Tells whether a zero character stands in a text. -/
def hasZero (text : String) : Bool := text.toList.contains '\x00'

/-- How many links may be followed on the way to one node. -/
def linkLimit : Nat := 40

/-- The longest name, in bytes. -/
def longestName : Nat := 255

/-- Follows names from a directory, with at most that many links. The result holds
no links. -/
def follow (tree : FileTree) (links : Nat) (here : List String) :
    List String → Except FileError (List String)
  | [] => .ok here
  | name :: rest =>
    if name = "." then follow tree links here rest
    else if name = ".." then follow tree links here.dropLast rest
    else if longestName < name.utf8ByteSize then .error .nameTooLong
    else
      match tree.node? (here ++ [name]) with
      | none => .error .notFound
      | some .directory => follow tree links (here ++ [name]) rest
      | some (.file ..) => if rest = [] then .ok (here ++ [name]) else .error .notDirectory
      | some (.link target) =>
        match links with
        | 0 => .error .tooManyLinks
        | links + 1 =>
          follow tree links (if isAbsolute target then [] else here) (namesOf target ++ rest)
termination_by names => (links, names.length)

/-- The names that lead to the node of a path without links. -/
def resolve (tree : FileTree) (directory : List String) (path : String) :
    Except FileError (List String) :=
  if path = "" then .error .notFound
  else if hasZero path then .error .hasZero
  else tree.follow linkLimit (if isAbsolute path then [] else directory) (namesOf path)

/-- Tells whether a path leads to a file or a directory. -/
def contains (tree : FileTree) (directory : List String) (path : String) : Bool :=
  (tree.resolve directory path).isOk

/-- The one path without links that leads to the same node. -/
def canonical? (tree : FileTree) (directory : List String) (path : String) : Option String :=
  match tree.resolve directory path with
  | .ok names => some ("/" ++ "/".intercalate names)
  | .error _ => none

/-- The bytes of a file. -/
def read (tree : FileTree) (directory : List String) (path : String) :
    Except FileError (List UInt8) := do
  match tree.node? (← tree.resolve directory path) with
  | some (.file content _) => return content
  | _ => throw .isDirectory

/-- The names that lead to the directory of a path. -/
def enter (tree : FileTree) (directory : List String) (path : String) :
    Except FileError (List String) := do
  let names ← tree.resolve directory path
  match tree.node? names with
  | some .directory => return names
  | _ => throw .notDirectory

/-- Checks that a path leads to a program. -/
def checkProgram (tree : FileTree) (directory : List String) (path : String) :
    Except FileError Unit := do
  match tree.node? (← tree.resolve directory path) with
  | some (.file _ true) => return ()
  | _ => throw .permissionDenied

end FileTree

end RemoteShell
