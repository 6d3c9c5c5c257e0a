import RemoteShell.Terminal

/-!
# Terminals

A terminal stands between a program and whoever types to it. What is typed is shown
and handed over line by line; what the program prints is shown. A carriage return
ends a line as a line feed does, and every line feed is shown as both.
-/

namespace RemoteShell.Host

/-- A terminal. -/
structure Terminal where
  size : TerminalSize
  /-- The line that is being typed. -/
  typed : List UInt8
  /-- What has been handed over and not been read: lines with their ends, or less where
  input was ended in the middle. -/
  ready : List (List UInt8)
  /-- What has been shown and nobody has taken. -/
  shown : List UInt8
  deriving DecidableEq, Repr

namespace Terminal

/-- A terminal on which nothing has happened. -/
def ofSize (size : TerminalSize) : Terminal := ⟨size, [], [], []⟩

/-- The line feed. -/
def lineFeed : UInt8 := 10

/-- The carriage return. -/
def carriageReturn : UInt8 := 13

/-- The key that ends the input. -/
def endKey : UInt8 := 4

/-- The keys that interrupt the program. -/
def interruptKeys : List UInt8 := [3, 28]

/-- How a byte of output is shown. -/
def shownByte (byte : UInt8) : List UInt8 :=
  if byte = lineFeed then [carriageReturn, lineFeed] else [byte]

/-- How a key is shown. Controls are shown as a caret with a letter. -/
def shownKey (key : UInt8) : List UInt8 :=
  if key = lineFeed ∨ key = 9 then shownByte key
  else if key < 32 ∨ key = 127 then [94, key ^^^ 64]
  else [key]

/-- Shows something. -/
def display (terminal : Terminal) (bytes : List UInt8) : Terminal :=
  { terminal with shown := terminal.shown ++ bytes }

/-- Prints output of the program. -/
def print (terminal : Terminal) (bytes : List UInt8) : Terminal :=
  terminal.display (bytes.flatMap shownByte)

/-- Hands over what has been typed. -/
def handOver (terminal : Terminal) : Terminal :=
  { terminal with typed := [], ready := terminal.ready ++ [terminal.typed] }

/-- Types one key; tells whether the program is interrupted, which loses all input. -/
def typeKey (terminal : Terminal) (key : UInt8) : Terminal × Bool :=
  let key := if key = carriageReturn then lineFeed else key
  if interruptKeys.contains key then
    ({ terminal with typed := [], ready := [] }.display (shownKey key), true)
  else if key = endKey then (terminal.handOver, false)
  else
    let terminal := { terminal with typed := terminal.typed ++ [key] }.display (shownKey key)
    (if key = lineFeed then terminal.handOver else terminal, false)

/-- Types keys; tells whether the program is interrupted. -/
def typeKeys (terminal : Terminal) (keys : List UInt8) : Terminal × Bool :=
  keys.foldl (fun (terminal, interrupted) key =>
    let (terminal, now) := terminal.typeKey key
    (terminal, interrupted || now)) (terminal, false)

/-- Takes a line that begins with `front` out of what has been handed over. It ends at a
line feed, or where the input was ended; none if it goes on. -/
def lineOf? (front : List UInt8) : List (List UInt8) → Option (List UInt8 × List (List UInt8))
  | [] => none
  | part :: parts =>
    if part = [] then some (front, parts)
    else if part.getLast? = some lineFeed then some (front ++ part.dropLast, parts)
    else lineOf? (front ++ part) parts

/-- Reads a line, without its end; none if there is none yet. -/
def readLine? (terminal : Terminal) : Option (List UInt8 × Terminal) :=
  (lineOf? [] terminal.ready).map fun (line, ready) => (line, { terminal with ready })

/-- Takes what has been shown. -/
def take (terminal : Terminal) : List UInt8 × Terminal :=
  (terminal.shown, { terminal with shown := [] })

/-- Gives the terminal another size. -/
def resize (terminal : Terminal) (size : TerminalSize) : Terminal := { terminal with size }

end Terminal

end RemoteShell.Host
