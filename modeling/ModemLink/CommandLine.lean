/-
Module: ModemLink.CommandLine
Purpose: The command line: its arguments, its commands and what they print.
Main exports: Command, Invocation, UsageError, parse, Response, respond
-/
import ModemLink.Rehearsal
import ModemLink.Scenario.File

namespace ModemLink.CommandLine

/-! ## Arguments -/

/-- What the program is asked to do. -/
inductive Command where
  /-- Play a scenario. -/
  | run (scenario : String) (seed : Option UInt64) (json : Bool)
  /-- Check the settings in a file. -/
  | checkConfig (config : String)
  /-- List the kinds of request. -/
  | kinds
deriving DecidableEq, Repr

/-- The names of the commands. -/
inductive CommandName where
  | run
  | checkConfig
  | kinds
deriving DecidableEq, Repr

namespace CommandName

def text : CommandName → String
  | run => "run"
  | checkConfig => "check-config"
  | kinds => "kinds"

def all : List CommandName := [run, checkConfig, kinds]

def ofText (s : String) : Option CommandName :=
  all.find? (·.text = s)

end CommandName

/-- What the arguments ask for. -/
inductive Invocation where
  /-- Help on the program or on one command. -/
  | help (topic : Option CommandName)
  | version
  | execute (command : Command)
deriving DecidableEq, Repr

/-- What is wrong with the arguments. -/
inductive UsageError where
  | missingCommand
  | unknownCommand (name : String)
  | unexpected (argument : String)
  | missing (argument : String)
  | invalid (argument value : String)
  | repeated (argument : String)
deriving DecidableEq, Repr

/-- The complaint about the arguments. -/
def UsageError.message : UsageError → String
  | missingCommand => "a command is required"
  | unknownCommand name => s!"unrecognized command '{name}'"
  | unexpected argument => s!"unexpected argument '{argument}'"
  | missing argument => s!"a value is required for '{argument}'"
  | invalid argument value => s!"invalid value '{value}' for '{argument}'"
  | repeated argument => s!"the argument '{argument}' cannot be used multiple times"

/-- Arguments that were understood. -/
structure Parsed where
  verbose : Bool := false
  json : Bool := false
  seed : Option UInt64 := none
  path : Option String := none
deriving DecidableEq, Repr

/-- Either more arguments are to be read, or the answer is known. -/
abbrev Outcome (α : Type) := Except (Except UsageError Invocation) α

namespace Outcome

/-- The arguments are wrong. -/
def fail {α : Type} (error : UsageError) : Outcome α :=
  .error (.error error)

/-- The arguments ask for something that needs no more of them. -/
def answer {α : Type} (invocation : Invocation) : Outcome α :=
  .error (.ok invocation)

end Outcome

/-- A decimal number of 64 bits; a plus sign may stand before it, and leading zeros are allowed. -/
def seed? (s : String) : Option UInt64 := do
  let digits := match s.toList with
    | '+' :: rest => rest
    | cs => cs
  let n ← Text.digitsIn? 10 digits
  if n < UInt64.size then some (UInt64.ofNat n) else none

/-- Ask for more of the program's messages; once is enough. -/
def setVerbose (parsed : Parsed) : Outcome Parsed :=
  if parsed.verbose then .fail (.repeated "--verbose") else .ok { parsed with verbose := true }

/-- Read one-letter options that share a dash. -/
def letters (topic : Option CommandName) (argument : String) (parsed : Parsed) :
    List Char → Outcome Parsed
  | [] => .ok parsed
  | 'v' :: rest => do letters topic argument (← setVerbose parsed) rest
  | 'h' :: _ => .answer (.help topic)
  | 'V' :: _ => if topic.isNone then .answer .version else .fail (.unexpected argument)
  | _ => .fail (.unexpected argument)

/-- Note the seed. -/
def setSeed (parsed : Parsed) (value : String) : Outcome Parsed :=
  if parsed.seed.isSome then .fail (.repeated "--seed")
  else if value.isEmpty then .fail (.missing "--seed")
  else
    match seed? value with
    | some seed => .ok { parsed with seed := some seed }
    | none => .fail (.invalid "--seed" value)

/-- Note a path. -/
def setPath (name : CommandName) (parsed : Parsed) (argument : String) : Outcome Parsed :=
  if name = .kinds ∨ parsed.path.isSome then .fail (.unexpected argument)
  else if argument.isEmpty then .fail (.missing name.text)
  else .ok { parsed with path := some argument }

/-- An argument that begins with a dash and is more than one. -/
def isOption (argument : String) : Bool :=
  argument.startsWith "-" && argument ≠ "-"

/-- Read the arguments of a command.  After two dashes all of them are paths. -/
def arguments (name : CommandName) (parsed : Parsed) : List String → Outcome Parsed
  | [] => .ok parsed
  | "--" :: rest => rest.foldlM (setPath name) parsed
  | "--help" :: _ => .answer (.help name)
  | "--verbose" :: rest => do arguments name (← setVerbose parsed) rest
  | "--json" :: rest =>
    if name ≠ .run then .fail (.unexpected "--json")
    else if parsed.json then .fail (.repeated "--json")
    else arguments name { parsed with json := true } rest
  | "--seed" :: rest =>
    if name ≠ .run then .fail (.unexpected "--seed")
    else
      match rest with
      | [] => .fail (.missing "--seed")
      | value :: rest =>
        if isOption value then .fail (.missing "--seed")
        else do arguments name (← setSeed parsed value) rest
  | argument :: rest => do
    if name = .run ∧ argument.startsWith "--seed=" then
      arguments name (← setSeed parsed (String.ofList (argument.toList.drop 7))) rest
    else if argument.startsWith "--" then .fail (.unexpected argument)
    else if isOption argument then
      arguments name (← letters (some name) argument parsed (argument.toList.drop 1)) rest
    else arguments name (← setPath name parsed argument) rest

/-- The command that the arguments of a name make up. -/
def command (name : CommandName) (parsed : Parsed) : Except UsageError Command :=
  match name, parsed.path with
  | .kinds, _ => .ok .kinds
  | .run, some path => .ok (.run path parsed.seed parsed.json)
  | .checkConfig, some path => .ok (.checkConfig path)
  | _, none => .error (.missing name.text)

/-- What help is asked for, given the words after `help`. -/
def helpTopic : List String → Except UsageError Invocation
  | [] | ["help"] => .ok (.help none)
  | topic :: rest =>
    match CommandName.ofText topic, rest with
    | some name, [] => .ok (.help name)
    | some _, extra :: _ => .error (.unknownCommand extra)
    | none, _ => .error (.unknownCommand topic)

/-- Read the arguments in front of the command, and then the command. -/
def parseFrom (parsed : Parsed) : List String → Except UsageError Invocation
  | [] => .error .missingCommand
  | "help" :: rest => helpTopic rest
  | "--help" :: _ => .ok (.help none)
  | "--version" :: _ => .ok .version
  | "--verbose" :: rest =>
    match setVerbose parsed with
    | .ok parsed => parseFrom parsed rest
    | .error result => result
  | argument :: rest =>
    match CommandName.ofText argument with
    | some name =>
      match arguments name {} rest with
      | .ok parsed => (command name parsed).map .execute
      | .error result => result
    | none =>
      if argument.startsWith "--" then .error (.unexpected argument)
      else if isOption argument then
        match letters none argument parsed (argument.toList.drop 1) with
        | .ok parsed => parseFrom parsed rest
        | .error result => result
      else .error (.unknownCommand argument)

/-- What the arguments of the program ask for. -/
def parse (args : List String) : Except UsageError Invocation :=
  parseFrom {} args

/-! ## Texts -/

def programName : String := "radiobridge-sim"

def versionText : String := programName ++ " 0.1.0"

/-- The options that every command has. -/
def commonOptions : List String :=
  ["  -v, --verbose  Verbose logging", "  -h, --help     Print help"]

/-- Help on the program or on one command. -/
def helpLines : Option CommandName → List String
  | none =>
    ["Run radio bridge scenarios against a simulated modem", "",
      s!"Usage: {programName} [OPTIONS] <COMMAND>", "", "Commands:",
      "  run           Run a scenario file",
      "  check-config  Validate a bridge configuration file",
      "  kinds         List request kinds, opcodes and version ladders",
      "  help          Print this message or the help of the given subcommand(s)", "", "Options:"]
    ++ commonOptions ++ ["  -V, --version  Print version"]
  | some .run =>
    ["Run a scenario file", "", s!"Usage: {programName} run [OPTIONS] <SCENARIO>", "",
      "Arguments:", "  <SCENARIO>  Path to the scenario YAML", "", "Options:",
      "      --seed <SEED>  Seed for the simulated modem (overrides the scenario's seed)",
      "      --json         Print the report as JSON",
      "  -v, --verbose      Verbose logging", "  -h, --help         Print help"]
  | some .checkConfig =>
    ["Validate a bridge configuration file", "",
      s!"Usage: {programName} check-config [OPTIONS] <CONFIG>", "",
      "Arguments:", "  <CONFIG>  Path to the configuration YAML", "", "Options:"] ++ commonOptions
  | some .kinds =>
    ["List request kinds, opcodes and version ladders", "",
      s!"Usage: {programName} kinds [OPTIONS]", "", "Options:"] ++ commonOptions

/-- A row of the list of kinds. -/
def kindLine (label opcode versions : String) : String :=
  Report.padRight 38 label ++ " " ++ Report.padLeft 6 opcode ++ "  " ++ versions

/-- The list of kinds. -/
def kindLines : List String :=
  kindLine "kind" "opcode" "versions" :: RequestKind.all.map fun kind =>
    kindLine kind.label (toString kind.opcode)
      (String.intercalate " " (kind.ladder.rungs.map Version.text))

/-- The line for settings that make sense. -/
def configLine (path : String) (config : BridgeConfig) : String :=
  s!"{path}: ok (instance {config.name}, wake lock {config.wakeLockTimeoutMs} ms, "
    ++ s!"ack {config.ackWakeLockTimeoutMs} ms, max age {config.requestMaxAgeMs} ms)"

/-! ## Answers -/

/-- What the program prints, and the code it ends with. -/
structure Response where
  code : UInt32
  output : List String := []
  complaint : Option String := none
deriving DecidableEq, Repr

namespace Response

/-- The command did its work. -/
def success (output : List String) : Response :=
  ⟨0, output, none⟩

/-- The command failed. -/
def failure (reason : String) : Response :=
  ⟨1, [], some reason⟩

/-- The arguments are wrong. -/
def misuse (error : UsageError) : Response :=
  ⟨2, [], some error.message⟩

end Response

/-- The file a command needs. -/
def Command.path? : Command → Option String
  | run scenario _ _ => some scenario
  | checkConfig config => some config
  | kinds => none

/-- Carry a command out, given the bytes of its file, `none` standing for no file. -/
def Command.perform (command : Command) (file : Option ByteArray) (firstSerial : UInt32)
    (startedAt : Timestamp) : Response :=
  match command with
  | kinds => .success kindLines
  | checkConfig path =>
    match BridgeConfig.ofBytes file with
    | .ok config => .success [configLine path config]
    | .error error => .failure error.message
  | run _ seed json =>
    match Scenario.ofBytes file with
    | .error error => .failure error.message
    | .ok scenario =>
      match scenario.rehearse seed firstSerial startedAt with
      | .ok report => .success [if json then (encode report).pretty else report.text]
      | .error error => .failure error.message

/-- The answer to the arguments of the program, given what the files hold. -/
def respond (args : List String) (files : String → Option ByteArray) (firstSerial : UInt32)
    (startedAt : Timestamp) : Response :=
  match parse args with
  | .error error => .misuse error
  | .ok (.help topic) => .success (helpLines topic)
  | .ok .version => .success [versionText]
  | .ok (.execute command) =>
    command.perform (command.path?.bind files) firstSerial startedAt

end ModemLink.CommandLine
