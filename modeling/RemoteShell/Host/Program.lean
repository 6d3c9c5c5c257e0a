import RemoteShell.Host.Terminal
import RemoteShell.Text.Utf8

/-!
# Programs on a terminal

What a program does is a list of actions. It goes on by itself until it waits for a
line that has not been typed, and leaves when there is nothing more to do.
-/

namespace RemoteShell.Host

/-- One thing that a program does. -/
inductive Action where
  | print (bytes : List UInt8)
  /-- Prints the value of a variable of the environment. -/
  | printVariable (name : String)
  /-- Prints how many arguments there are, and each of them. -/
  | printArguments
  /-- Prints the working directory. -/
  | printDirectory
  /-- Prints the size of the terminal, rows first. -/
  | printSize
  /-- Reads a line and prints it. -/
  | readLine
  | leave (code : Nat)
  /-- Sends a signal to itself. -/
  | signal (number : Nat)
  deriving DecidableEq, Repr

/-- How a program has come to its end. -/
inductive Ending where
  | left (code : Nat)
  /-- A signal has ended it. -/
  | killed
  deriving DecidableEq, Repr

/-- The status that is reported of an end. -/
def Ending.code : Ending → Int
  | left code => code
  | killed => -1

/-- Where a program runs. -/
structure Setting where
  environment : List (String × String)
  arguments : List String
  directory : String
  deriving DecidableEq, Repr

/-- A program that has been started. -/
structure Process where
  setting : Setting
  /-- What it has still to do. -/
  rest : List Action
  ending : Option Ending
  deriving DecidableEq, Repr

namespace Process

/-- Texts as lines of output. -/
def linesOf (texts : List String) : List UInt8 :=
  texts.flatMap fun text => Text.utf8 text.toList ++ [Terminal.lineFeed]

/-- Signals that do nothing to a program that does not ask for them. -/
def harmlessSignals : List Nat := [0, 17, 18, 23, 28]

/-- How far the actions of a program lead: what is left to do, and the end if it comes. -/
def advance (setting : Setting) :
    List Action → Terminal → List Action × Option Ending × Terminal
  | [], terminal => ([], some (.left 0), terminal)
  | .print bytes :: rest, terminal => advance setting rest (terminal.print bytes)
  | .printVariable name :: rest, terminal =>
    advance setting rest (terminal.print (linesOf [(setting.environment.lookup name).getD ""]))
  | .printArguments :: rest, terminal =>
    advance setting rest
      (terminal.print (linesOf (toString setting.arguments.length :: setting.arguments)))
  | .printDirectory :: rest, terminal =>
    advance setting rest (terminal.print (linesOf [setting.directory]))
  | .printSize :: rest, terminal =>
    advance setting rest (terminal.print
      (linesOf [s!"{terminal.size.rows.toNat} {terminal.size.cols.toNat}"]))
  | .readLine :: rest, terminal =>
    match terminal.readLine? with
    | none => (.readLine :: rest, none, terminal)
    | some (line, terminal) =>
      advance setting rest
        (terminal.print (Text.utf8 "got:".toList ++ line ++ [Terminal.lineFeed]))
  | .leave code :: _, terminal => ([], some (.left (code % 256)), terminal)
  | .signal number :: rest, terminal =>
    if harmlessSignals.contains number then advance setting rest terminal
    else ([], some .killed, terminal)

/-- Lets a program go on until it waits or ends. -/
def run (process : Process) (terminal : Terminal) : Process × Terminal :=
  match process.ending with
  | some _ => (process, terminal)
  | none =>
    let (rest, ending, terminal) := advance process.setting process.rest terminal
    ({ process with rest, ending }, terminal)

/-- Ends a program from outside, unless it has ended before. -/
def kill (process : Process) : Process :=
  { process with ending := process.ending.or (some .killed) }

end Process

end RemoteShell.Host
