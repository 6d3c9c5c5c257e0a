import RemoteShell.FileTree
import RemoteShell.Text.Blank
import RemoteShell.Text.Split
import RemoteShell.Text.Utf8

/-!
# The shells of a host

The host lists its shells in a file. Those that exist are put in order of
preference; of several names for one shell the first is kept.
-/

namespace RemoteShell.Shells

/-- The preference for a shell by the last name of its path, the lowest first. -/
def rank (path : String) : Nat :=
  match (Text.split '/' path).getLast? with
  | some "bash" => 0
  | some "zsh" => 1
  | some "ash" => 2
  | some "dash" => 3
  | some "sh" => 4
  | _ => 5

/-- The file that lists the shells. -/
def listFile : String := "/etc/shells"

/-- The shells to look for where the file lists none. -/
def commonShells : List String := ["/bin/bash", "/bin/zsh", "/bin/ash", "/bin/dash", "/bin/sh"]

/-- The paths in a list of shells, one on a line. Blanks around them do not count, and
neither do empty lines and comments. -/
def listed (text : String) : List String :=
  (Text.split '\n' text).map (fun line => String.ofList (Text.trim line.toList))
    |>.filter fun line => line ≠ "" && !line.startsWith "#"

/-- The text of the list; an empty one where there is no such text. -/
def listText (tree : FileTree) : String :=
  match tree.read [] listFile with
  | .error _ => ""
  | .ok bytes => ((Text.decode? bytes).map String.ofList).getD ""

/-- The shells that may be offered: those of the list that exist, or else the common
ones that do. A path that does not start at the root is looked for in the directory. -/
def candidates (tree : FileTree) (directory : List String := []) : List String :=
  match (listed (listText tree)).filter (tree.contains directory) with
  | [] => commonShells.filter (tree.contains directory)
  | shells => shells

/-- Keeps the first of all items with the same key, and none whose key was seen before. -/
def firstByKey (key : String → String) (seen : List String) : List String → List String
  | [] => []
  | item :: items =>
    if seen.contains (key item) then firstByKey key seen items
    else item :: firstByKey key (key item :: seen) items

/-- What tells a shell from another: its path without links. -/
def identity (tree : FileTree) (directory : List String) (path : String) : String :=
  (tree.canonical? directory path).getD path

/-- The shells of a host, the most preferred first. -/
def detect (tree : FileTree) (directory : List String := []) : List String :=
  (firstByKey (identity tree directory) [] (candidates tree directory)).mergeSort
    fun a b => rank a ≤ rank b

/-- The shell to run: the one asked for if it exists, else the most preferred one. -/
def resolve (tree : FileTree) (requested : String) (directory : List String := []) :
    Option String :=
  if tree.contains directory requested then some requested else (detect tree directory).head?

end RemoteShell.Shells
