import RemoteShell.Toml.Value

/-!
# Documents in TOML

A document is a list of lines: headers, each of which opens a table, and entries of
the table that was opened last.
-/

namespace RemoteShell.Toml

/-- A line that says something. -/
inductive Line where
  /-- The header of a table. -/
  | table (keys : List String)
  /-- The header of one more table under the same keys. -/
  | series (keys : List String)
  | entry (keys : List String) (value : Value)
  deriving Repr

/-! ## Reading lines -/

/-- Reads a line that is not blank. -/
def line? : List Char → Option (Line × List Char)
  | '[' :: '[' :: rest => do
    let (keys, rest) ← keys? depthLimit rest
    match rest with
    | ']' :: ']' :: rest => return (.series keys, ← lineEnd? rest)
    | _ => none
  | '[' :: rest => do
    let (keys, rest) ← keys? depthLimit rest
    match rest with
    | ']' :: rest => return (.table keys, ← lineEnd? rest)
    | _ => none
  | input => do
    let ((keys, value), rest) ← entry? (value? depthLimit) input
    return (.entry keys value, ← lineEnd? rest)

/-- Reads all lines; blank ones and comments say nothing. -/
def lines? (input : List Char) : Option (List Line) :=
  match skipTrivia input with
  | [] => some []
  | start =>
    match line? start with
    | none => none
    | some (line, rest) =>
      if _ : rest.length < input.length then (lines? rest).map (line :: ·) else none
termination_by input.length

/-! ## Opening tables -/

namespace Entries

/-- Changes the table that keys of a header lead to. A table on the way may have come
about in any way but between braces, and is made if there is none; of a series the
last table counts. -/
def descend (change : Entries → Option Entries) : List String → Entries → Option Entries
  | [], entries => change entries
  | key :: keys, entries =>
    match entries.lookup key with
    | none => (descend change keys []).map fun inner => entries.put key (.table .implied inner)
    | some (.table .braces _) => none
    | some (.table origin inner) =>
      (descend change keys inner).map fun inner => entries.put key (.table origin inner)
    | some (.series tables) =>
      match tables.getLast? with
      | none => none
      | some last =>
        (descend change keys last).map fun last =>
          entries.put key (.series (tables.dropLast ++ [last]))
    | some _ => none

/-- Opens a table by its header, which no table has twice. -/
def openTable (key : String) (entries : Entries) : Option Entries :=
  match entries.lookup key with
  | none => some (entries.put key (.table .header []))
  | some (.table .implied inner) => some (entries.put key (.table .header inner))
  | some _ => none

/-- Opens one more table of a series. -/
def openSeries (key : String) (entries : Entries) : Option Entries :=
  match entries.lookup key with
  | none => some (entries.put key (.series [[]]))
  | some (.series tables) => some (entries.put key (.series (tables ++ [[]])))
  | some _ => none

/-- Splits keys into those of the parent and the last one. -/
def splitLast? (keys : List String) : Option (List String × String) :=
  keys.getLast?.map fun last => (keys.dropLast, last)

end Entries

/-- A document so far, and the keys of the table that is open. -/
structure Document where
  entries : Entries
  current : List String
  deriving Repr

namespace Document

/-- A document without lines. -/
def empty : Document := ⟨[], []⟩

/-- Adds a line. -/
def add (document : Document) : Line → Option Document
  | .table keys => do
    let (parent, key) ← Entries.splitLast? keys
    return ⟨← document.entries.descend (Entries.openTable key) parent, keys⟩
  | .series keys => do
    let (parent, key) ← Entries.splitLast? keys
    return ⟨← document.entries.descend (Entries.openSeries key) parent, keys⟩
  | .entry keys value => do
    return { document with
      entries := ← document.entries.descend (Entries.assign value keys) document.current }

end Document

/-- The input without the mark that may open a file. -/
def skipByteOrderMark : List Char → List Char
  | '\uFEFF' :: rest => rest
  | input => input

/-- The entries of a document, if it is well formed. -/
def parse? (text : String) : Option Entries := do
  let lines ← lines? (skipByteOrderMark text.toList)
  return (← lines.foldlM Document.add .empty).entries

end RemoteShell.Toml
