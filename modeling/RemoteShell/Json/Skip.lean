import RemoteShell.Json.Scanner

/-!
# Passing over a value

A value that nobody asks for is still checked to be JSON, to any depth. Only the
pairing of surrogates in its texts is left unchecked.
-/

namespace RemoteShell.Json

/-- Reads the key of a member up to its colon. -/
def skipKey (input : List Char) : Except Error (List Char) :=
  match skipBlanks input with
  | [] => .error (.incomplete .object)
  | c :: rest =>
    if c ≠ '"' then .error (.malformed .keyNotText)
    else
      match skipText rest with
      | .error e => .error e
      | .ok left =>
        match skipBlanks left with
        | [] => .error (.incomplete .object)
        | d :: tail => if d = ':' then .ok tail else .error (.malformed .expectedColon)

mutual

/-- Passes over a value. Each bracket and each member takes one step of the bound. -/
def skipValueWithin : Nat → List Char → Except Error (List Char)
  | 0, _ => .error (.incomplete .value)
  | steps + 1, input =>
    match skipBlanks input with
    | [] => .error (.incomplete .value)
    | c :: rest =>
      if c = 'n' then readWord ['u', 'l', 'l'] rest
      else if c = 't' then readWord ['r', 'u', 'e'] rest
      else if c = 'f' then readWord ['a', 'l', 's', 'e'] rest
      else if c = '-' then skipNumber rest
      else if c.isDigit then skipNumber (c :: rest)
      else if c = '"' then skipText rest
      else if c = '[' then
        match skipBlanks rest with
        | [] => .error (.incomplete .list)
        | d :: tail => if d = ']' then .ok tail else skipItemsWithin steps (d :: tail)
      else if c = '{' then
        match skipBlanks rest with
        | [] => .error (.incomplete .object)
        | d :: tail => if d = '}' then .ok tail else skipMembersWithin steps (d :: tail)
      else .error (.malformed .expectedValue)

/-- Passes over the items of a list, of which there is at least one more. -/
def skipItemsWithin : Nat → List Char → Except Error (List Char)
  | 0, _ => .error (.incomplete .list)
  | steps + 1, input =>
    match skipValueWithin steps input with
    | .error e => .error e
    | .ok left =>
      match skipBlanks left with
      | [] => .error (.incomplete .list)
      | c :: rest =>
        if c = ',' then skipItemsWithin steps rest
        else if c = ']' then .ok rest
        else .error (.malformed .expectedCommaOrBracket)

/-- Passes over the members of an object, of which there is at least one more. -/
def skipMembersWithin : Nat → List Char → Except Error (List Char)
  | 0, _ => .error (.incomplete .object)
  | steps + 1, input =>
    match skipKey input with
    | .error e => .error e
    | .ok value =>
      match skipValueWithin steps value with
      | .error e => .error e
      | .ok left =>
        match skipBlanks left with
        | [] => .error (.incomplete .object)
        | c :: rest =>
          if c = ',' then skipMembersWithin steps rest
          else if c = '}' then .ok rest
          else .error (.malformed .expectedCommaOrBrace)

end

/-- Passes over a value. Two steps for each character are enough, since no two steps
in a row leave the input as it is. -/
def skipValue (input : List Char) : Except Error (List Char) :=
  skipValueWithin (2 * input.length + 2) input

end RemoteShell.Json
