import RemoteShell.FileTree
import RemoteShell.Host.LoginShell
import RemoteShell.Host.Program

/-!
# Seats

A seat is a login shell with the terminals and the programs that belong to it. It
makes the calls of the shell and lets the host answer them.
-/

namespace RemoteShell.Host

/-- A login shell on its host. -/
structure Seat where
  files : FileTree
  /-- What a program does once it is started. -/
  actions : List Action
  workingDir : String
  /-- The environment of a program; of two values for a name the first counts. -/
  environment : List (String × String)
  shell : LoginShell
  terminals : List Terminal
  /-- The programs that were started, each with its terminal. -/
  processes : List (Nat × Process)
  /-- The terminals whose output is collected. -/
  listened : List Nat
  /-- The output that has been collected and not been taken. -/
  collected : List UInt8
  deriving Repr

namespace Seat

/-- The kind of terminal that programs are told they run on. -/
def terminalKind : String := "xterm-256color"

/-- A seat that has not been used. -/
def make (files : FileTree) (path workingDir : String) (environment : List (String × String))
    (actions : List Action) : Seat where
  files := files
  actions := actions
  workingDir := workingDir
  environment := environment ++ [("TERM", terminalKind)]
  shell := .ofPath path
  terminals := []
  processes := []
  listened := []
  collected := []

/-! ## Starting a program -/

/-- Where a program is looked for whose name has no slash. -/
def searchPath (seat : Seat) : List String :=
  Text.split ':' ((seat.environment.lookup "PATH").getD "/bin:/usr/bin")

/-- Checks that a name leads to a program, from a directory. -/
def checkName (seat : Seat) (directory : List String) (name : String) : Except FileError Unit :=
  if name.toList.contains '/' then seat.files.checkProgram directory name
  else if name = "" then .error .notFound
  else
    let tries := seat.searchPath.map fun place =>
      seat.files.checkProgram directory (if place = "" then name else place ++ "/" ++ name)
    if tries.any (·.isOk) then .ok ()
    else if tries.any fun t => t matches .error .permissionDenied then .error .permissionDenied
    else .error .notFound

/-- Tells whether a text that is passed to a program holds a zero, which ends texts. -/
def hasZero (seat : Seat) : Bool :=
  (seat.shell.path :: seat.workingDir :: seat.environment.flatMap fun (n, v) => [n, v]).any
    FileTree.hasZero

/-- The directory that a program is started in, if it can be started. -/
def findProgram (seat : Seat) : Except String String :=
  if seat.hasZero then .error "nul byte found in provided data"
  else
    match seat.files.enter [] seat.workingDir with
    | .error e => .error e.message
    | .ok names =>
      match seat.checkName names seat.shell.path with
      | .error e => .error e.message
      | .ok () => .ok ("/" ++ "/".intercalate names)

/-! ## Going on -/

/-- Lets a program go on until it waits or ends. -/
def runProcess (seat : Seat) (pid : Nat) : Seat :=
  match seat.processes[pid]? with
  | none => seat
  | some (number, process) =>
    match seat.terminals[number]? with
    | none => seat
    | some terminal =>
      let (process, terminal) := process.run terminal
      { seat with
        processes := seat.processes.set pid (number, process)
        terminals := seat.terminals.set number terminal }

/-- Collects the output of a terminal. -/
def collect (seat : Seat) (number : Nat) : Seat :=
  match seat.terminals[number]? with
  | none => seat
  | some terminal =>
    let (shown, terminal) := terminal.take
    { seat with
      terminals := seat.terminals.set number terminal, collected := seat.collected ++ shown }

/-- Lets all programs go on, and collects their output. -/
def settle (seat : Seat) : Seat :=
  let seat := (List.range seat.processes.length).foldl runProcess seat
  seat.listened.foldl collect seat

/-- Ends programs from outside. -/
def killWhere (seat : Seat) (isMeant : Nat → Bool) : Seat :=
  { seat with processes := seat.processes.mapIdx fun pid (number, process) =>
      (number, if isMeant pid then process.kill else process) }

/-- Ends the programs that the shell has killed. -/
def enforce (seat : Seat) : Seat :=
  seat.killWhere fun pid => seat.shell.started.contains (pid, .killed)

/-! ## The calls -/

/-- Sets up a terminal. -/
def openTerminal (seat : Seat) (size : TerminalSize) : Except ShellFault Unit × Seat :=
  let (answer, shell) := seat.shell.openTerminal (.ok seat.terminals.length) (.ok ())
  (answer, { seat with shell, terminals := seat.terminals ++ [.ofSize size] })

/-- Gives the input of the terminal away. -/
def giveInput (seat : Seat) : Except ShellFault Nat × Seat :=
  let (answer, shell) := seat.shell.giveInput
  (answer, { seat with shell })

/-- Sends the output of the next program to the collection. -/
def listen (seat : Seat) : Seat := { seat with shell := seat.shell.listen }

/-- Starts the shell as a login shell. -/
def start (seat : Seat) : Except ShellFault Unit × Seat :=
  match seat.findProgram with
  | .error message =>
    let (answer, shell) := seat.shell.start (.error message) (.ok ())
    (answer, { seat with shell })
  | .ok directory =>
    let (answer, shell) := seat.shell.start (.ok seat.processes.length) (.ok ())
    match answer, shell.terminal with
    | .ok (), some number =>
      (answer, { seat with
        shell
        processes := seat.processes ++
          [(number, Process.mk ⟨seat.environment, ["-l"], directory⟩ seat.actions none)]
        listened := if shell.hasSink then seat.listened ++ [number] else seat.listened }.enforce)
    | _, _ => (answer, { seat with shell })

/-- Tells the terminal another size. -/
def resize (seat : Seat) (size : TerminalSize) : Except ShellFault Unit × Seat :=
  let seat := match seat.shell.terminal with
    | some number => { seat with terminals := seat.terminals.modify number (·.resize size) }
    | none => seat
  (seat.shell.resize (.ok ()), seat)

/-- The answer of the host to a probe: a program is there until its end has been awaited. -/
def found (seat : Seat) : Except String Unit :=
  if seat.shell.pid.any fun pid => seat.shell.started.contains (pid, .awaited) then
    .error "ESRCH: No such process"
  else .ok ()

/-- Checks that the shell is there. -/
def probe (seat : Seat) : Except ShellFault Unit := seat.shell.probe seat.found

/-- Waits for the shell; none as long as it has not left. -/
def wait? (seat : Seat) : Option (Except ShellFault Int × Seat) :=
  match seat.shell.takeChild with
  | (.error e, _) => some (.error e, seat)
  | (.ok pid, shell) => do
    let (_, process) ← seat.processes[pid]?
    let ending ← process.ending
    let (answer, shell) := shell.reap pid (.ok ending.code)
    return (answer, { seat with shell })

/-- Closes the shell. -/
def close (seat : Seat) : Except ShellFault Unit × Seat :=
  let (answer, shell) := seat.shell.close (if seat.found.isOk then .sent else .gone)
  (answer, { seat with shell }.enforce)

/-- Types on a terminal. -/
def write (seat : Seat) (number : Nat) (keys : List UInt8) : Seat :=
  match seat.terminals[number]? with
  | none => seat
  | some terminal =>
    let (terminal, interrupted) := terminal.typeKeys keys
    let seat := { seat with terminals := seat.terminals.set number terminal }
    if interrupted then
      seat.killWhere fun pid => seat.processes[pid]?.any (·.1 = number)
    else seat

/-- Takes the collected output. -/
def takeOutput (seat : Seat) : List UInt8 × Seat :=
  (seat.collected, { seat with collected := [] })

end Seat

end RemoteShell.Host
