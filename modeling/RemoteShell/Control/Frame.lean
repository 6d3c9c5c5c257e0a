import RemoteShell.Json.Skip
import RemoteShell.Json.Typed
import RemoteShell.Json.Printer

/-!
# Control frames

A client steers its session with small JSON texts. A frame names its type and
may carry a size and a payload; what is left out is zero or empty. `Frame.read`
takes the object form and, as a list of up to four items, the short form.
`Frame.print` writes the object form without what is zero or empty.
-/

namespace RemoteShell.Control

open Json (Error skipBlanks)

/-- A frame as it stands on the wire. -/
structure Frame where
  kind : String
  cols : Int64
  rows : Int64
  cmd : String
  deriving DecidableEq, Repr

/-- A frame of which only the type is given. -/
def Frame.ofKind (kind : String) : Frame := ⟨kind, 0, 0, ""⟩

/-- The members that have been read so far. -/
structure Members where
  kind : Option String
  cols : Option Int64
  rows : Option Int64
  cmd : Option String
  deriving DecidableEq, Repr

/-- No member yet. -/
def Members.none : Members := ⟨.none, .none, .none, .none⟩

/-- How messages name a frame. -/
def frameName : String := "struct Frame"

/-- The frame that the members make up; only the type is required. -/
def Members.toFrame (members : Members) : Except Error Frame :=
  match members.kind with
  | .none => .error (.missingField "type")
  | some kind =>
    .ok ⟨kind, members.cols.getD 0, members.rows.getD 0, members.cmd.getD ""⟩

/-- Passes the colon between a key and its value. -/
def readColon (input : List Char) : Except Error (List Char) :=
  match skipBlanks input with
  | [] => .error (.incomplete .object)
  | c :: rest => if c = ':' then .ok rest else .error (.malformed .expectedColon)

/-- Reads the value of a member once its key is known. A repeated key is refused
before its value is looked at. -/
def readValueOf (key : String) (members : Members) (input : List Char) :
    Except Error (Members × List Char) := do
  match key with
  | "type" =>
    if members.kind.isSome then throw (.duplicateField key)
    let (value, rest) ← Json.readTextValue (← readColon input)
    return ({ members with kind := some value }, rest)
  | "cols" =>
    if members.cols.isSome then throw (.duplicateField key)
    let (value, rest) ← Json.readIntegerValue (← readColon input)
    return ({ members with cols := some value }, rest)
  | "rows" =>
    if members.rows.isSome then throw (.duplicateField key)
    let (value, rest) ← Json.readIntegerValue (← readColon input)
    return ({ members with rows := some value }, rest)
  | "cmd" =>
    if members.cmd.isSome then throw (.duplicateField key)
    let (value, rest) ← Json.readTextValue (← readColon input)
    return ({ members with cmd := some value }, rest)
  | _ =>
    let rest ← Json.skipValue (← readColon input)
    return (members, rest)

/-- Reads a member from the opening quote of its key on. -/
def readMember (members : Members) (input : List Char) : Except Error (Members × List Char) :=
  match Json.readText input with
  | .error e => .error e
  | .ok (key, rest) => readValueOf (.ofList key) members rest

/-- Reads members up to the closing brace. The first one follows the opening brace,
and each later one a comma. -/
def readMembersWithin : Nat → Bool → Members → List Char → Except Error (Frame × List Char)
  | 0, _, _, _ => .error (.incomplete .object)
  | steps + 1, isFirst, members, input =>
    let readNext (rest : List Char) : Except Error (Frame × List Char) :=
      match readMember members rest with
      | .error e => .error e
      | .ok (members, left) => readMembersWithin steps false members left
    match skipBlanks input with
    | [] => .error (.incomplete .object)
    | c :: rest =>
      if c = '}' then members.toFrame.map (·, rest)
      else if isFirst then
        if c = '"' then readNext rest else .error (.malformed .keyNotText)
      else if c = ',' then
        match skipBlanks rest with
        | [] => .error (.incomplete .value)
        | d :: tail =>
          if d = '"' then readNext tail
          else if d = '}' then .error (.malformed .trailingComma)
          else .error (.malformed .keyNotText)
      else .error (.malformed .expectedCommaOrBrace)

/-- Moves to the next item of a list; none at the closing bracket, which stays. -/
def nextItem (isFirst : Bool) (input : List Char) : Except Error (Option (List Char)) :=
  match skipBlanks input with
  | [] => .error (.incomplete .list)
  | c :: rest =>
    if c = ']' then .ok none
    else if isFirst then .ok (some (c :: rest))
    else if c = ',' then
      match skipBlanks rest with
      | [] => .error (.incomplete .value)
      | d :: tail =>
        if d = ']' then .error (.malformed .trailingComma) else .ok (some (d :: tail))
    else .error (.malformed .expectedCommaOrBracket)

/-- Passes the closing bracket after the last item that a frame has room for. -/
def closeList (input : List Char) : Except Error (List Char) :=
  match skipBlanks input with
  | [] => .error (.incomplete .list)
  | c :: rest =>
    if c = ']' then .ok rest
    else if c = ',' then
      match skipBlanks rest with
      | ']' :: _ => .error (.malformed .trailingComma)
      | _ => .error (.malformed .trailingCharacters)
    else .error (.malformed .trailingCharacters)

/-- Reads the short form after its opening bracket. -/
def readItems (input : List Char) : Except Error (Frame × List Char) := do
  let some input ← nextItem true input
    | throw (.wrongLength 0 (frameName ++ " with 4 elements"))
  let (kind, rest) ← Json.readTextValue input
  let some input ← nextItem false rest
    | return (⟨kind, 0, 0, ""⟩, ← closeList rest)
  let (cols, rest) ← Json.readIntegerValue input
  let some input ← nextItem false rest
    | return (⟨kind, cols, 0, ""⟩, ← closeList rest)
  let (rows, rest) ← Json.readIntegerValue input
  let some input ← nextItem false rest
    | return (⟨kind, cols, rows, ""⟩, ← closeList rest)
  let (cmd, rest) ← Json.readTextValue input
  return (⟨kind, cols, rows, cmd⟩, ← closeList rest)

/-- Reads a frame of either form from the front of a text. -/
def readMembers (input : List Char) : Except Error (Frame × List Char) :=
  match skipBlanks input with
  | [] => .error (.incomplete .value)
  | c :: rest =>
    if c = '{' then readMembersWithin (rest.length + 1) true .none rest
    else if c = '[' then readItems rest
    else .error (Json.mismatch frameName c rest)

/-- Reads a text that is one frame and nothing else. -/
def Frame.read (text : String) : Except Error Frame :=
  match readMembers text.toList with
  | .error e => .error e
  | .ok (frame, rest) =>
    if skipBlanks rest = [] then .ok frame else .error (.malformed .trailingCharacters)

/-- The text of a frame. -/
def Frame.print (frame : Frame) : String :=
  let number (key : String) (value : Int64) : List (String × List Char) :=
    if value = 0 then [] else [(key, Json.printInt value.toInt)]
  .ofList (Json.printObject
    (("type", Json.printText frame.kind.toList) ::
      number "cols" frame.cols ++ number "rows" frame.rows ++
      if frame.cmd = "" then [] else [("cmd", Json.printText frame.cmd.toList)]))

end RemoteShell.Control
