/-!
# Arguments of the command line

Arguments are read from left to right, and the first one that asks for help or the
version, or that nobody understands, decides. The settings file can be named before
and after the command, once each, and after it wins.
-/

namespace RemoteShell.CommandLine

/-- What the program can be told to do. -/
inductive Command where
  | serve
  | checkConfig
  deriving DecidableEq, Repr

/-- What help can be asked about. -/
inductive Topic where
  | program
  | command (command : Command)
  | help
  deriving DecidableEq, Repr

/-- What the arguments ask for. -/
inductive Request where
  | run (command : Command) (settingsFile : Option String)
  | help (topic : Topic)
  | version
  /-- The arguments make no sense. -/
  | misuse
  deriving DecidableEq, Repr

/-- The command with that name. -/
def Command.ofName? : String → Option Command
  | "serve" => some .serve
  | "check-config" => some .checkConfig
  | _ => none

/-- The topic that names after the word `help` stand for. -/
def Topic.ofNames? : List String → Option Topic
  | [] => some .program
  | ["help"] => some .help
  | [name] => (Command.ofName? name).map .command
  | _ => none

/-- What becomes of the option that names the settings file. Its value is taken up
only when the next option comes or the arguments end. -/
structure FileOption where
  value : Option String
  /-- The option has been given; its value, if there is one yet. -/
  pending : Option (Option String)

namespace FileOption

/-- The option has not been given. -/
def absent : FileOption := ⟨none, none⟩

/-- Takes up the value; none if it is missing or the second one. -/
def settle (option : FileOption) : Option FileOption :=
  match option.pending with
  | none => some option
  | some none => none
  | some (some path) => if option.value.isSome then none else some ⟨some path, none⟩

/-- Tells whether the next argument is the value. -/
def isAwaiting (option : FileOption) : Bool := option.pending = some none

end FileOption

/-- Tells whether an argument is an option and no value. -/
def isOption (argument : String) : Bool := argument.startsWith "-" && argument ≠ "-"

/-- An option. -/
inductive Flag where
  | help
  | version
  | settingsFile (path : Option String)
  deriving DecidableEq, Repr

/-- The option that an argument stands for. Of short options in a row the first
decides. -/
def Flag.ofArgument? (argument : String) : Option Flag :=
  if argument = "--help" then some .help
  else if argument = "--version" then some .version
  else if argument = "--config" then some (.settingsFile none)
  else if argument.startsWith "--" then
    if argument.startsWith "--config=" then
      some (.settingsFile (some (argument.drop 9).toString))
    else none
  else if argument.startsWith "-h" then some .help
  else if argument.startsWith "-V" then some .version
  else none

/-- Reads the arguments after a command. -/
def readCommand (command : Command) (option : FileOption) : List String → Request
  | [] =>
    match option.settle with
    | none => .misuse
    | some option => .run command option.value
  | argument :: rest =>
    if argument = "--" then if rest = [] then readCommand command option [] else .misuse
    else if isOption argument then
      match Flag.ofArgument? argument, option.settle with
      | some .help, some _ => .help (.command command)
      | some (.settingsFile none), some option =>
        readCommand command { option with pending := some none } rest
      | some (.settingsFile (some path)), some option =>
        match { option with pending := some (some path) : FileOption }.settle with
        | none => .misuse
        | some option => readCommand command option rest
      | _, _ => .misuse
    else if option.isAwaiting then
      readCommand command { option with pending := some (some argument) } rest
    else .misuse

/-- The request of a command, with the settings file named before it unless another
one is named after it. -/
def Request.withOuter (request : Request) (option : FileOption) : Request :=
  match request with
  | .run command path =>
    match option.settle with
    | none => .misuse
    | some option => .run command (path.or option.value)
  | request => request

/-- Reads the arguments before a command. -/
def readProgram (option : FileOption) : List String → Request
  | [] =>
    match option.settle with
    | none => .misuse
    | some option => .run .serve option.value
  | argument :: rest =>
    if argument = "--" then if rest = [] then readProgram option [] else .misuse
    else if isOption argument then
      match Flag.ofArgument? argument, option.settle with
      | some .help, some _ => .help .program
      | some .version, some _ => .version
      | some (.settingsFile none), some option =>
        readProgram { option with pending := some none } rest
      | some (.settingsFile (some path)), some option =>
        match { option with pending := some (some path) : FileOption }.settle with
        | none => .misuse
        | some option => readProgram option rest
      | _, _ => .misuse
    else if option.isAwaiting then
      readProgram { option with pending := some (some argument) } rest
    else if argument = "help" then
      match Topic.ofNames? rest with
      | none => .misuse
      | some topic => .help topic
    else
      match Command.ofName? argument with
      | none => .misuse
      | some command => (readCommand command .absent rest).withOuter option

/-- What the arguments ask for. -/
def Request.ofArguments (arguments : List String) : Request := readProgram .absent arguments

end RemoteShell.CommandLine
