import CommandLink.Cli.Arguments

/-! # The commands of the command line

What each command takes, and the typed form of what was read. The options for formats and logs are
understood before and after the name of a command; the later one counts. -/

namespace CommandLink
namespace Cli

structure AgentArguments where
  path : String
  appVersion : Option String
  announce : Bool

structure SendArguments where
  path : String
  stream : UInt8
  id : CommandId
  data : Option String
  hex : Option String
  timeout : String

inductive CommandChoice
  | agent (arguments : AgentArguments)
  | send (arguments : SendArguments)
  | decode (frame : String)
  | version (extended : Bool)

/-- The socket path that a command names. -/
def CommandChoice.path? : CommandChoice → Option String
  | .agent a => some a.path
  | .send a => some a.path
  | .decode _ | .version _ => none

/-- A command with the format of what it prints. -/
structure CommandLine where
  choice : CommandChoice
  format : OutputFormat

/-- The options that every command takes. -/
def commonOptions : List OptionSpec :=
  [⟨"format", none, .value .format⟩,
    ⟨"log-format", none, .value (.oneOf ["text", "json"])⟩,
    ⟨"log-level", none, .value (.oneOf ["off", "error", "warn", "info", "debug", "trace"])⟩,
    ⟨"help", some 'h', .help⟩]

def agentSpec : CommandSpec where
  name := "agent"
  options := [⟨"app-version", none, .value .anyText⟩, ⟨"no-start-notification", none, .flag⟩]
    ++ commonOptions
  positionals := [⟨"path", .path⟩]
  required := ["path"]
  excluded := []

def sendSpec : CommandSpec where
  name := "send"
  options :=
    [⟨"stream", some 's', .value .number⟩, ⟨"subsystem", none, .value .subsystem⟩,
      ⟨"command", none, .value .number⟩, ⟨"subcommand", none, .value .number⟩,
      ⟨"data", none, .value .anyText⟩, ⟨"hex", none, .value .anyText⟩,
      ⟨"timeout", none, .value .anyText⟩] ++ commonOptions
  positionals := [⟨"path", .path⟩]
  required := ["path", "subsystem", "command"]
  excluded := [("data", "hex")]

def decodeSpec : CommandSpec where
  name := "decode"
  options := commonOptions
  positionals := [⟨"frame", .anyText⟩]
  required := ["frame"]
  excluded := []

def versionSpec : CommandSpec where
  name := "version"
  options := ⟨"extended", none, .flag⟩ :: commonOptions
  positionals := []
  required := []
  excluded := []

/-- What may stand before the name of a command. -/
def programSpec : CommandSpec where
  name := ""
  options := ⟨"version", some 'V', .version⟩ :: commonOptions
  positionals := []
  required := []
  excluded := []

def commandSpecs : List CommandSpec := [agentSpec, sendSpec, decodeSpec, versionSpec]

namespace Reading

def text? (r : Reading) (name : String) : Option String :=
  r.values.findSome? fun
    | (n, .text s) => if n == name then some s else none
    | _ => none

def octet? (r : Reading) (name : String) : Option UInt8 :=
  r.values.findSome? fun
    | (n, .octet b) => if n == name then some b else none
    | _ => none

def format? (r : Reading) : Option OutputFormat :=
  r.values.findSome? fun
    | (_, .format f) => some f
    | _ => none

/-- The command that was read, by its name. -/
def choice (r : Reading) (name : String) : CommandChoice :=
  match name with
  | "agent" =>
    .agent ⟨(r.text? "path").getD "", r.text? "app-version", !r.has "no-start-notification"⟩
  | "send" =>
    .send {
      path := (r.text? "path").getD ""
      stream := (r.octet? "stream").getD 0
      id := ⟨(r.octet? "subsystem").getD 0, (r.octet? "command").getD 0,
        (r.octet? "subcommand").getD 0⟩
      data := r.text? "data"
      hex := r.text? "hex"
      timeout := (r.text? "timeout").getD "5s" }
  | "decode" => .decode ((r.text? "frame").getD "")
  | _ => .version (r.has "extended")

end Reading

/-- A name that stands for a command where one is expected. -/
def isCommandName (s : String) : Bool := s == "help" || commandSpecs.any (·.name == s)

/-- What `help` does with the names that follow it. -/
def helpAbout : List String → ArgumentError
  | [] => .displayHelp
  | [name] => if isCommandName name then .displayHelp else .invalidSubcommand
  | _ => .invalidSubcommand

/-- Reads the arguments from the name of a command on. `before` holds what was read before it. -/
def readCommand (before : Reading) (spec : CommandSpec) (rest : List String) :
    Except ArgumentError CommandLine :=
  match readArguments spec rest with
  | .error e => .error e
  | .ok r =>
    match before.close with
    | .error e => .error e
    | .ok before => .ok ⟨r.choice spec.name, (r.format? <|> before.format?).getD .json⟩

/-- Reads the arguments before the name of a command, and then the others. -/
def readProgram (r : Reading) : List String → Except ArgumentError CommandLine
  | [] =>
    match r.close with
    | .error e => .error e
    | .ok r => .error (if r.values.isEmpty then .displayHelpOnMissing else .missingSubcommand)
  | argument :: rest =>
    let command := if r.trailing || r.awaitingValue then none else
      commandSpecs.find? (·.name == argument)
    match command with
    | some spec => readCommand r spec rest
    | none =>
      if argument == "help" && !r.trailing && !r.awaitingValue then .error (helpAbout rest)
      else
        let surplus := if r.trailing && isCommandName argument then ArgumentError.unknownArgument
          else .invalidSubcommand
        match r.take programSpec argument surplus with
        | .ok r => readProgram r rest
        | .error e => .error e

/-- Reads a command line. -/
def CommandLine.ofArguments (arguments : List String) : Except ArgumentError CommandLine :=
  readProgram .fresh arguments

end Cli
end CommandLink
