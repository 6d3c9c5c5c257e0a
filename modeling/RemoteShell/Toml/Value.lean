import RemoteShell.Toml.Moment
import RemoteShell.Toml.Number
import RemoteShell.Toml.Text

/-!
# Values in TOML

Arrays and inline tables nest, to a fixed depth. A table remembers where it comes
from, because that decides how it may be extended.
-/

namespace RemoteShell.Toml

/-- Where a table comes from. -/
inductive Origin where
  /-- It stands between braces. -/
  | braces
  /-- It has a header of its own. -/
  | header
  /-- A header names a table inside it. -/
  | implied
  /-- The keys of an entry lead through it. -/
  | dotted
  deriving DecidableEq, Repr

/-- The values of a document. -/
inductive Value where
  | text (text : String)
  | integer (n : Int)
  /-- A float as it is written. -/
  | float (literal : String)
  | boolean (b : Bool)
  /-- A date or a time as it is written. -/
  | moment (literal : String)
  | array (items : List Value)
  | table (origin : Origin) (entries : List (String × Value))
  /-- The tables of a header that can be repeated. -/
  | series (tables : List (List (String × Value)))
  deriving Repr

/-- The entries of a table, in order. -/
abbrev Entries : Type := List (String × Value)

namespace Entries

/-- Puts a new value in the place of an entry, or adds it as the last one. -/
def put (entries : Entries) (key : String) (value : Value) : Entries :=
  if entries.any (·.1 = key) then
    entries.map fun entry => if entry.1 = key then (key, value) else entry
  else entries ++ [(key, value)]

/-- Adds an entry under the keys that lead to it. A table on the way is made by
such keys too, and the last one always is. -/
def assign (value : Value) : List String → Entries → Option Entries
  | [], _ => none
  | [key], entries => if entries.any (·.1 = key) then none else some (entries.put key value)
  | key :: keys, entries =>
    match entries.lookup key with
    | none => (assign value keys []).map fun inner => entries.put key (.table .dotted inner)
    | some (.table .dotted inner) =>
      (assign value keys inner).map fun inner => entries.put key (.table .dotted inner)
    | some (.table .implied inner) =>
      if keys.length = 1 then none
      else (assign value keys inner).map fun inner => entries.put key (.table .implied inner)
    | some (.series tables) =>
      match tables.getLast? with
      | none => none
      | some last =>
        if keys.length = 1 then none
        else (assign value keys last).map fun last =>
          entries.put key (.series (tables.dropLast ++ [last]))
    | some _ => none

end Entries

/-! ## Keys -/

/-- The characters of a key without quotes. -/
def isBare (c : Char) : Bool := c.isAlphanum || c = '-' || c = '_'

/-- Reads one key. -/
def simpleKey? : List Char → Option (String × List Char)
  | '"' :: rest => (plainText? rest).map fun (text, left) => (.ofList text, left)
  | '\'' :: rest => (literalText? rest).map fun (text, left) => (.ofList text, left)
  | input =>
    match input.takeWhile isBare with
    | [] => none
    | name => some (.ofList name, input.dropWhile isBare)

/-- How many levels keys and values may go down. -/
def depthLimit : Nat := 79

/-- Reads keys with points between them, at most that many. -/
def keys? : Nat → List Char → Option (List String × List Char)
  | 0, _ => none
  | count + 1, input => do
    let (key, rest) ← simpleKey? (skipBlanks input)
    match skipBlanks rest with
    | '.' :: rest => (keys? count rest).map fun (keys, left) => (key :: keys, left)
    | rest => return ([key], rest)

/-! ## Values -/

/-- A reader of values. -/
abbrev Reader (α : Type) : Type := List Char → Option (α × List Char)

/-- What was read, as it is written. -/
def literal (input rest : List Char) : String := .ofList (input.take (input.length - rest.length))

/-- Reads a value that has no values inside. -/
def scalar? : Reader Value
  | 't' :: 'r' :: 'u' :: 'e' :: rest => some (.boolean true, rest)
  | 'f' :: 'a' :: 'l' :: 's' :: 'e' :: rest => some (.boolean false, rest)
  | input =>
    (text? input).map (fun (text, rest) => (.text (.ofList text), rest))
    <|> (moment? input).map (fun rest => (.moment (literal input rest), rest))
    <|> (float? input).map (fun rest => (.float (literal input rest), rest))
    <|> (integer? input).map (fun (n, rest) => (.integer n, rest))

/-- Reads items with commas between them and perhaps one after the last, up to the
closing bracket. -/
def items? (item : Reader Value) (input : List Char) : Option (List Value × List Char) :=
  match skipTrivia input with
  | ']' :: rest => some ([], rest)
  | start =>
    match item start with
    | none => none
    | some (value, rest) =>
      match skipTrivia rest with
      | ']' :: rest => some ([value], rest)
      | ',' :: rest =>
        if _ : rest.length < input.length then
          (items? item rest).map fun (values, left) => (value :: values, left)
        else none
      | _ => none
termination_by input.length

/-- Reads an entry of keys and a value. -/
def entry? (value : Reader Value) (input : List Char) :
    Option ((List String × Value) × List Char) := do
  let (keys, rest) ← keys? depthLimit input
  match rest with
  | '=' :: rest =>
    let (value, rest) ← value (skipBlanks rest)
    return ((keys, value), skipBlanks rest)
  | _ => none

/-- Reads further entries of a table on one line, with commas between them, up to the
closing brace. -/
def entries? (value : Reader Value) (entries : Entries) (input : List Char) :
    Option (Entries × List Char) :=
  match entry? value input with
  | none => none
  | some ((keys, inner), rest) =>
    match entries.assign inner keys, rest with
    | some entries, '}' :: rest => some (entries, rest)
    | some entries, ',' :: rest =>
      if _ : rest.length < input.length then entries? value entries rest else none
    | _, _ => none
termination_by input.length

/-- Reads a value whose arrays and tables nest at most that deep. -/
def value? : Nat → Reader Value
  | 0, input => scalar? input
  | depth + 1, '[' :: rest =>
    (items? (value? depth) rest).map fun (items, left) => (.array items, left)
  | depth + 1, '{' :: rest =>
    match skipBlanks rest with
    | '}' :: left => some (.table .braces [], left)
    | _ =>
      (entries? (value? depth) [] rest).map fun (entries, left) => (.table .braces entries, left)
  | _ + 1, input => scalar? input

end RemoteShell.Toml
