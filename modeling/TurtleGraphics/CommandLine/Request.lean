/-!
# Requests on the command line

A `Request` is what the arguments of the program ask for. There are two subcommands: `shell`, whose
options each take a value, and `check`, which takes one file and a flag. The value of an option may
be joined to it or be the next argument, if that does not look like an option itself. After the
argument `--` nothing is an option. The texts of `UsageError.message` are this library's own: a
caller can rely on the kind of the error and on the status 2 that it leads to.
-/

namespace TurtleGraphics.CommandLine

inductive Request where
  | help
  | version
  /-- Run a shell, after the lines of the file `script` if there is one. -/
  | shell (script : Option String)
  /-- Check the lines of `file`, and tell where the turtle ends if `verbose`. -/
  | check (file : String) (verbose : Bool)
  deriving DecidableEq, Repr

/-- Why `Request.read` finds no request in the arguments. -/
inductive UsageError where
  | missingCommand
  | missingFile
  | unexpected (argument : String)
  | missingValue (argument : String)
  | invalidValue (value : String)
  | repeated (argument : String)
  deriving DecidableEq, Repr

def UsageError.message : UsageError → String
  | .missingCommand => "a subcommand is needed"
  | .missingFile => "a file is needed"
  | .unexpected argument => "unexpected argument '" ++ argument ++ "'"
  | .missingValue argument => "a value is needed for '" ++ argument ++ "'"
  | .invalidValue value => "invalid value '" ++ value ++ "'"
  | .repeated argument => "'" ++ argument ++ "' is given more than once"

/-! ## Arguments -/

/-- The form of an argument. -/
inductive Form where
  /-- It is `--`. -/
  | terminator
  /-- It is `--name` or `--name=value`. -/
  | long (name : String) (value : Option String)
  /-- It is `-`, then `letter`, then `rest`. -/
  | short (letter : Char) (rest : List Char)
  | plain
  deriving DecidableEq, Repr

def Form.of (argument : String) : Form :=
  match argument.toList with
  | ['-', '-'] => .terminator
  | '-' :: '-' :: text =>
    let name := String.ofList (text.takeWhile (· ≠ '='))
    match text.dropWhile (· ≠ '=') with
    | [] => .long name none
    | _ :: value => .long name (some (String.ofList value))
  | '-' :: letter :: rest => .short letter rest
  | _ => .plain

/-- The argument is `Form.plain`, so it can be the value of an option in front of it. -/
def isValue (argument : String) : Bool :=
  Form.of argument = .plain

/-- The value in the `rest` of a `Form.short`, with or without `=` in front of it. -/
def joinedValue : List Char → Option String
  | [] => none
  | '=' :: value => some (String.ofList value)
  | value => some (String.ofList value)

/-! ## The subcommand `shell` -/

/-- The options of `shell`, with the values that they have been given. -/
structure ShellOptions where
  window : Option String := none
  script : Option String := none

namespace ShellOptions

inductive Name where
  | window
  | script
  deriving DecidableEq, Repr

/-- The option that an argument of this form names, and the value joined to it. -/
def name? : Form → Option (Name × Option String)
  | .long "window" value => some (.window, value)
  | .long "script" value => some (.script, value)
  | .short 'w' rest => some (.window, joinedValue rest)
  | .short 's' rest => some (.script, joinedValue rest)
  | _ => none

/-- Gives the option `name` its value, once. The only window there is has the name `void`. -/
def set (o : ShellOptions) (name : Name) (value : String) : Except UsageError ShellOptions :=
  match name with
  | .window =>
    if o.window.isSome then .error (.repeated "--window")
    else if value = "void" then .ok { o with window := some value }
    else .error (.invalidValue value)
  | .script =>
    if o.script.isSome then .error (.repeated "--script")
    else .ok { o with script := some value }

end ShellOptions

/-- The form is that of `--help` or `-h`. -/
def asksForHelp : Form → Bool
  | .long "help" none => true
  | .short 'h' _ => true
  | _ => false

/-- Reads the arguments of `shell` that are left, behind those that gave `o`. -/
def readShell (o : ShellOptions) : List String → Except UsageError Request
  | [] => .ok (.shell o.script)
  | argument :: rest =>
    match Form.of argument with
    | .terminator =>
      match rest with
      | [] => .ok (.shell o.script)
      | extra :: _ => .error (.unexpected extra)
    | form =>
      if asksForHelp form then .ok .help
      else
        match ShellOptions.name? form, rest with
        | none, _ => .error (.unexpected argument)
        | some (name, some value), rest => do readShell (← o.set name value) rest
        | some (_, none), [] => .error (.missingValue argument)
        | some (name, none), value :: rest =>
          if isValue value then do readShell (← o.set name value) rest
          else .error (.missingValue argument)

/-! ## The subcommand `check` -/

structure CheckOptions where
  file : Option String := none
  verbose : Bool := false

namespace CheckOptions

def request (o : CheckOptions) : Except UsageError Request :=
  match o.file with
  | none => .error .missingFile
  | some file => .ok (.check file o.verbose)

def setFile (o : CheckOptions) (file : String) : Except UsageError CheckOptions :=
  if o.file.isSome then .error (.unexpected file) else .ok { o with file := some file }

def setVerbose (o : CheckOptions) : Except UsageError CheckOptions :=
  if o.verbose then .error (.repeated "--verbose") else .ok { o with verbose := true }

/-- Sets the flags that letters stand for. It is `none` if one of them is `h`, which asks for
help. -/
def setLetters (o : CheckOptions) (argument : String) :
    List Char → Except UsageError (Option CheckOptions)
  | [] => .ok (some o)
  | 'h' :: _ => .ok none
  | 'v' :: letters => do (← o.setVerbose).setLetters argument letters
  | _ => .error (.unexpected argument)

end CheckOptions

/-- Reads the arguments of `check` that are left, behind those that gave `o`. -/
def readCheck (o : CheckOptions) : List String → Except UsageError Request
  | [] => o.request
  | argument :: rest =>
    match Form.of argument with
    | .terminator => do (← rest.foldlM CheckOptions.setFile o).request
    | .plain => do readCheck (← o.setFile argument) rest
    | .long "help" none => .ok .help
    | .long "verbose" none => do readCheck (← o.setVerbose) rest
    | .long .. => .error (.unexpected argument)
    | .short letter letters => do
      match ← o.setLetters argument (letter :: letters) with
      | none => .ok .help
      | some o => readCheck o rest

/-! ## The whole command line -/

/-- Reads the arguments of `help`, which may name a subcommand. -/
def readHelp : List String → Except UsageError Request
  | [] => .ok .help
  | argument :: _ =>
    if argument ∈ ["shell", "check", "help"] then .ok .help else .error (.unexpected argument)

/-- What the arguments of the program ask for. -/
def Request.read : List String → Except UsageError Request
  | [] => .error .missingCommand
  | "shell" :: arguments => readShell {} arguments
  | "check" :: arguments => readCheck {} arguments
  | "help" :: arguments => readHelp arguments
  | argument :: _ =>
    match Form.of argument with
    | .long "version" none | .short 'V' _ => .ok .version
    | .long "help" none | .short 'h' _ => .ok .help
    | _ => .error (.unexpected argument)

end TurtleGraphics.CommandLine
