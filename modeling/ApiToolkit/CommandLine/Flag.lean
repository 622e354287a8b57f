import ApiToolkit.Text.Search
/-!
# Flags

Arguments are read from left to right: long flags, clusters of short flags, values of flags, and
all other arguments in order.

## What is inside

- `Flag`, `Flag.Kind`: what a command knows.
- `Arguments`: what was given.
- `Arguments.read`: reads the arguments of a command.
-/

namespace ApiToolkit.CommandLine

/-- What a flag does. -/
inductive Flag.Kind where
  /-- It is on or off, and given at most once. -/
  | switch
  /-- It is counted. -/
  | counter
  /-- It has a value, and is given at most once. -/
  | value (allowsEmpty : Bool)
  /-- It asks for help. -/
  | help
  /-- It asks for the version. -/
  | version
deriving DecidableEq, Repr

/-- A flag that a command knows. -/
structure Flag where
  /-- The name after two hyphens. -/
  name : String
  /-- The letter after one hyphen. -/
  letter : Option Char
  /-- What it does. -/
  kind : Flag.Kind
deriving DecidableEq, Repr

/-- What is wrong with arguments. -/
inductive UsageFault where
  /-- An argument that the command does not know. -/
  | unknown (argument : String)
  /-- A flag has no value. -/
  | noValue (flag : String)
  /-- A flag has a value although it takes none. -/
  | extraValue (flag : String)
  /-- A flag is given twice. -/
  | repeated (flag : String)
  /-- An empty path. -/
  | emptyPath
  /-- No command is given. -/
  | noCommand
  /-- No file is given. -/
  | noFile
deriving DecidableEq, Repr

/-- The text of a fault. -/
def UsageFault.message : UsageFault → String
  | .unknown argument => "unexpected argument '" ++ argument ++ "'"
  | .noValue flag => "a value is required for '--" ++ flag ++ "'"
  | .extraValue flag => "'--" ++ flag ++ "' takes no value"
  | .repeated flag => "'--" ++ flag ++ "' cannot be used multiple times"
  | .emptyPath => "a path cannot be empty"
  | .noCommand => "a command is required"
  | .noFile => "a file is required"

/-- Why reading arguments ends early. -/
inductive Stop where
  /-- Help was asked for. -/
  | help
  /-- The version was asked for. -/
  | version
  /-- The arguments are wrong. -/
  | fault (fault : UsageFault)
deriving DecidableEq, Repr

/-- What was given. -/
structure Arguments where
  /-- The names of the switches. -/
  switches : List String
  /-- The values of flags. -/
  values : List (String × String)
  /-- How many counted flags there were. -/
  count : Nat
  /-- All other arguments in order. -/
  others : List String

namespace Arguments

/-- Nothing is given. -/
def none : Arguments := ⟨[], [], 0, []⟩

/-- The value of a flag, or what is used without one. -/
def value (given : Arguments) (name fallback : String) : String :=
  (given.values.lookup name).getD fallback

/-- Whether a switch is on. -/
def has (given : Arguments) (name : String) : Bool := given.switches.contains name

/-! ## Taking flags -/

/-- Takes a flag without a value. -/
def takeFlag (given : Arguments) (flag : Flag) : Except Stop Arguments :=
  match flag.kind with
  | .help => .error .help
  | .version => .error .version
  | .counter => .ok { given with count := given.count + 1 }
  | .switch =>
    if given.has flag.name then .error (.fault (.repeated flag.name))
    else .ok { given with switches := given.switches ++ [flag.name] }
  | .value _ => .error (.fault (.noValue flag.name))

/-- Takes the value of a flag. -/
def takeValue (given : Arguments) (flag : Flag) (text : String) : Except Stop Arguments :=
  match flag.kind with
  | .value allowsEmpty =>
    if (given.values.lookup flag.name).isSome then .error (.fault (.repeated flag.name))
    else if text.isEmpty && !allowsEmpty then .error (.fault .emptyPath)
    else .ok { given with values := given.values ++ [(flag.name, text)] }
  | _ => .error (.fault (.extraValue flag.name))

/-- Takes an argument that is no flag, where the command has a place for it. -/
def takeOther (hasPlace : Bool) (given : Arguments) (text : String) : Except Stop Arguments :=
  if !hasPlace then .error (.fault (.unknown text))
  else if text.isEmpty then .error (.fault .emptyPath)
  else .ok { given with others := given.others ++ [text] }

/-- Takes a cluster of letters after a hyphen.  What follows the letter of a flag with a value is
its value, with or without an equals sign.  The result names the flag whose value is still
missing. -/
def takeCluster (flags : List Flag) (given : Arguments) (letters : List Char) :
    Except Stop (Arguments × Option Flag) :=
  match letters with
  | [] => .ok (given, Option.none)
  | c :: rest =>
    match flags.find? fun flag => flag.letter = some c with
    | Option.none => .error (.fault (.unknown (String.ofList ['-', c])))
    | some flag =>
      match flag.kind with
      | .value _ =>
        match rest with
        | [] => .ok (given, some flag)
        | '=' :: text => return (← given.takeValue flag (String.ofList text), Option.none)
        | text => return (← given.takeValue flag (String.ofList text), Option.none)
      | _ => do
        let given ← given.takeFlag flag
        takeCluster flags given rest

/-- Takes what follows two hyphens: a name, and perhaps an equals sign and a value.  The result
names the flag whose value is still missing. -/
def takeLong (flags : List Flag) (given : Arguments) (text : List Char) :
    Except Stop (Arguments × Option Flag) :=
  let name := String.ofList (text.takeWhile (· != '='))
  match flags.find? fun flag => flag.name = name with
  | Option.none => .error (.fault (.unknown ("--" ++ String.ofList text)))
  | some flag =>
    match text.dropWhile (· != '=') with
    | _ :: value => return (← given.takeValue flag (String.ofList value), Option.none)
    | [] =>
      match flag.kind with
      | .value _ => .ok (given, some flag)
      | _ => return (← given.takeFlag flag, Option.none)

/-! ## Reading -/

/-- Whether an argument begins a flag.  A single hyphen does not. -/
def isFlag (argument : String) : Bool :=
  match argument.toList with
  | '-' :: _ :: _ => true
  | _ => false

/-- Takes an argument that begins a flag. -/
def takeArgument (flags : List Flag) (given : Arguments) (argument : String) :
    Except Stop (Arguments × Option Flag) :=
  match argument.toList with
  | '-' :: '-' :: text => takeLong flags given text
  | _ :: letters => takeCluster flags given letters
  | [] => .ok (given, Option.none)

/-- Takes an argument: the value of the flag that waits for one, a flag, or something else. -/
def take (flags : List Flag) (hasPlace : Bool) (given : Arguments) (waiting : Option Flag)
    (argument : String) : Except Stop (Arguments × Option Flag) :=
  match waiting with
  | some flag =>
    -- A value never begins with a hyphen, except for a lone one.
    if isFlag argument then .error (.fault (.noValue flag.name))
    else return (← given.takeValue flag argument, Option.none)
  | Option.none =>
    if isFlag argument then takeArgument flags given argument
    else return (← given.takeOther hasPlace argument, Option.none)

/-- Reads the arguments of a command.  After two hyphens nothing is a flag. -/
def readFrom (flags : List Flag) (hasPlace : Bool) (given : Arguments) (waiting : Option Flag)
    (arguments : List String) : Except Stop Arguments :=
  match arguments with
  | [] =>
    match waiting with
    | some flag => .error (.fault (.noValue flag.name))
    | Option.none => .ok given
  | argument :: rest => do
    if argument = "--" && waiting.isNone then rest.foldlM (takeOther hasPlace) given
    else
      let (given, waiting) ← take flags hasPlace given waiting argument
      readFrom flags hasPlace given waiting rest

/-- Reads the arguments of a command.  Where it has no place for arguments that are no flags, the
first of them is a fault. -/
def read (flags : List Flag) (hasPlace : Bool) (arguments : List String) :
    Except Stop Arguments :=
  readFrom flags hasPlace none Option.none arguments

/-- Reads flags up to the first argument that is none, and gives it with the arguments after
it. -/
def readUntilOther (flags : List Flag) (given : Arguments) (arguments : List String) :
    Except Stop (Arguments × Option (String × List String)) :=
  match arguments with
  | [] => .ok (given, Option.none)
  | argument :: rest =>
    if argument = "--" then .ok (given, Option.none)
    else if isFlag argument then do
      let (given, waiting) ← takeArgument flags given argument
      match waiting with
      | some flag => .error (.fault (.noValue flag.name))
      | Option.none => readUntilOther flags given rest
    else .ok (given, some (argument, rest))

end Arguments

end ApiToolkit.CommandLine
