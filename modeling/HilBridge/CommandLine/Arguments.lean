import HilBridge.Text.Digits

/-!
# `HilBridge.CommandLine.Arguments` — what the program is asked to do

Options have a long form `--name`, and some a short one of a single letter. A value follows as the next
argument or is attached, `--name=value`, `-nvalue` or `-n=value`. Arguments are taken in order: the first
that asks for help or the version decides, and so does the first fault before it.
-/

namespace HilBridge.CommandLine

/-- The options. -/
inductive OptionName where
  | config
  | host
  | port
  | lockstep
  | ticks
  | help
  | version
  deriving Repr, DecidableEq

namespace OptionName

def all : List OptionName :=
  [.config, .host, .port, .lockstep, .ticks, .help, .version]

/-- The name behind two dashes. -/
def long : OptionName → String
  | .config => "config"
  | .host => "host"
  | .port => "port"
  | .lockstep => "lockstep"
  | .ticks => "ticks"
  | .help => "help"
  | .version => "version"

/-- The letter behind one dash. -/
def short? : OptionName → Option Char
  | .config => some 'c'
  | .port => some 'p'
  | .help => some 'h'
  | .version => some 'V'
  | _ => none

def takesValue : OptionName → Bool
  | .config | .host | .port | .ticks => true
  | .lockstep | .help | .version => false

def ofLong? (name : String) : Option OptionName :=
  all.find? (·.long == name)

def ofShort? (letter : Char) : Option OptionName :=
  all.find? (·.short? == some letter)

end OptionName

/-- Why arguments are refused. -/
inductive UsageError where
  | unexpected (argument : String)
  | missingValue (option : OptionName)
  | unneededValue (option : OptionName) (value : String)
  | invalidValue (option : OptionName) (value : String)
  | repeated (option : OptionName)
  deriving Repr, DecidableEq

/-- The error in words. -/
def UsageError.message : UsageError → String
  | .unexpected argument => "unexpected argument '" ++ argument ++ "' found"
  | .missingValue option => "a value is required for '--" ++ option.long ++ "' but none was supplied"
  | .unneededValue option value => "unexpected value '" ++ value ++ "' for '--" ++ option.long ++ "' found"
  | .invalidValue option value => "invalid value '" ++ value ++ "' for '--" ++ option.long ++ "'"
  | .repeated option => "the argument '--" ++ option.long ++ "' cannot be used multiple times"

/-- The settings given as arguments. -/
structure Arguments where
  config : Option String
  host : Option String
  port : Option UInt16
  lockstep : Bool
  ticks : Option Nat
  deriving Repr, DecidableEq

/-- Nothing given. -/
def Arguments.empty : Arguments :=
  ⟨none, none, none, false, none⟩

/-- What the program is asked for. -/
inductive Request where
  | run (arguments : Arguments)
  | help
  | version
  deriving Repr, DecidableEq

/-! ## Values -/

/-- A port, also as a negative zero. -/
def port? (text : String) : Option UInt16 :=
  match text.toList with
  | '-' :: rest => if Text.decimal? rest = some 0 then some 0 else none
  | _ => (Text.unsigned? 65536 text.toList).map UInt16.ofNat

namespace Arguments

/-- Whether an option has been given. -/
def isGiven (a : Arguments) : OptionName → Bool
  | .config => a.config.isSome
  | .host => a.host.isSome
  | .port => a.port.isSome
  | .lockstep => a.lockstep
  | .ticks => a.ticks.isSome
  | .help | .version => false

/-- Takes the value of an option, if it has that form. -/
def withValue? (a : Arguments) (option : OptionName) (value : String) : Option Arguments :=
  match option with
  | .config => if value.isEmpty then none else some { a with config := some value }
  | .host => some { a with host := some value }
  | .port => (port? value).map fun port => { a with port := some port }
  | .ticks => (Text.unsigned? (Nat.pow 2 64) value.toList).map fun ticks => { a with ticks := some ticks }
  | _ => none

/-- Takes an option with its value. An option may be given once. -/
def setValue (a : Arguments) (option : OptionName) (value : String) : Except UsageError Arguments :=
  if a.isGiven option then .error (.repeated option)
  else
    match a.withValue? option value with
    | some a => .ok a
    | none => .error (.invalidValue option value)

end Arguments

/-! ## Reading -/

/-- What an argument is by its form. -/
inductive Form where
  | long (name : String) (value : Option String)
  | short (letter : Char) (attached : List Char)
  /-- Two dashes, behind which no options follow. -/
  | ending
  | plain
  deriving Repr, DecidableEq

/-- The form of an argument. A single dash is plain. -/
def Form.ofArgument (argument : String) : Form :=
  match argument.toList with
  | ['-', '-'] => .ending
  | '-' :: '-' :: rest =>
    let name := String.ofList (rest.takeWhile (· != '='))
    match rest.dropWhile (· != '=') with
    | [] => .long name none
    | _ :: value => .long name (some (String.ofList value))
  | '-' :: letter :: attached => .short letter attached
  | _ => .plain

/-- The option that a form names, and the value attached to it. -/
def Form.option? : Form → Option (OptionName × Option String)
  | .long name value => (OptionName.ofLong? name).map (·, value)
  | .short letter attached =>
    (OptionName.ofShort? letter).map fun option =>
      (option,
       match attached with
       | [] => none
       | '=' :: value => some (String.ofList value)
       | value => some (String.ofList value))
  | _ => none

/-- Reads arguments behind those already taken. -/
def readFrom (a : Arguments) : List String → Except UsageError Request
  | [] => .ok (.run a)
  | argument :: rest =>
    let form := Form.ofArgument argument
    match form.option? with
    | none =>
      match form, rest with
      | .ending, [] => .ok (.run a)
      | .ending, extra :: _ => .error (.unexpected extra)
      | _, _ => .error (.unexpected argument)
    | some (option, attached) =>
      if option.takesValue then
        match attached with
        | some value => do readFrom (← a.setValue option value) rest
        | none =>
          match rest with
          | [] => .error (.missingValue option)
          | value :: rest =>
            if Form.ofArgument value = .plain then do readFrom (← a.setValue option value) rest
            else .error (.missingValue option)
      else
        match form, attached with
        | .long .., some value => .error (.unneededValue option value)
        | _, _ =>
          match option with
          | .help => .ok .help
          | .version => .ok .version
          | _ =>
            if a.isGiven option then .error (.repeated option)
            else readFrom { a with lockstep := true } rest

/-- What a list of arguments asks for. -/
def Request.ofArguments (arguments : List String) : Except UsageError Request :=
  readFrom .empty arguments

/-! ## Texts -/

/-- The answer to a question for the version. -/
def versionText : String :=
  "gz_mavlink_bridge 0.1.0"

/-- The answer to a question for help. -/
def helpText : String :=
  "Simulation to autopilot MAVLink HIL bridge\n\n"
    ++ "Usage: gz_mavlink_bridge [OPTIONS]\n\nOptions:\n"
    ++ "  -c, --config <CONFIG>  JSON configuration file. Defaults apply when omitted\n"
    ++ "      --host <HOST>      Autopilot host name or address\n"
    ++ "  -p, --port <PORT>      Autopilot UDP port\n"
    ++ "      --lockstep         Wait for the autopilot after every sensor send\n"
    ++ "      --ticks <TICKS>    Stop after this many ticks. Runs until Ctrl+C when omitted\n"
    ++ "  -h, --help             Print help\n"
    ++ "  -V, --version          Print version"

end HilBridge.CommandLine
