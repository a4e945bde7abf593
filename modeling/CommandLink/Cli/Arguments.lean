import CommandLink.Cli.Output

/-! # Reading arguments

Arguments are read from left to right against a description of what a command takes: options with a
value, flags, and positionals in order. An option stays open until the argument after its value, so
that an argument which fits nowhere is reported before a value that does not fit its option. After
`--` all arguments are positionals. -/

namespace CommandLink
namespace Cli

/-- Why reading arguments ends without a command to run. -/
inductive ArgumentError
  | invalidValue
  | unknownArgument
  | invalidSubcommand
  | valueValidation
  | tooManyValues
  | argumentConflict
  | missingRequiredArgument
  | missingSubcommand
  | displayHelp
  | displayHelpOnMissing
  | displayVersion
  deriving DecidableEq

/-- The exit code: displays that were asked for are no failures. -/
def ArgumentError.code : ArgumentError → Nat
  | .displayHelp | .displayVersion => 0
  | _ => 2

/-- A value that was read. -/
inductive ArgumentValue
  | text (s : String)
  | octet (b : UInt8)
  | format (f : OutputFormat)
  | present

/-- How the value of an option or positional is read. -/
inductive ValueKind
  /-- Any text. -/
  | anyText
  /-- A path, which is not empty. -/
  | path
  /-- A number below 256. -/
  | number
  | subsystem
  | format
  /-- One of the words listed. -/
  | oneOf (words : List String)

def OutputFormat.ofName? : String → Option OutputFormat
  | "json" => some .json
  | "table" => some .table
  | "pretty" => some .pretty
  | "raw" => some .raw
  | _ => none

def ValueKind.read (kind : ValueKind) (s : String) : Except ArgumentError ArgumentValue :=
  match kind with
  | .anyText => .ok (.text s)
  | .path => if s.isEmpty then .error .invalidValue else .ok (.text s)
  | .number =>
    match signed? s.toList with
    | some n =>
      if 0 ≤ n ∧ n < 256 then .ok (.octet (UInt8.ofNat n.toNat)) else .error .valueValidation
    | none => .error .valueValidation
  | .subsystem =>
    match Subsystem.parse s with
    | .ok b => .ok (.octet b)
    | .error _ => .error .valueValidation
  | .format =>
    match OutputFormat.ofName? s with
    | some f => .ok (.format f)
    | none => .error .invalidValue
  | .oneOf words => if words.contains s then .ok (.text s) else .error .invalidValue

/-- What an option does. -/
inductive OptionKind
  | value (kind : ValueKind)
  | flag
  | help
  | version

/-- One option, by the name after its two dashes. -/
structure OptionSpec where
  name : String
  short : Option Char
  kind : OptionKind

/-- One positional. -/
structure PositionalSpec where
  name : String
  kind : ValueKind

/-- What a command takes. -/
structure CommandSpec where
  name : String
  options : List OptionSpec
  positionals : List PositionalSpec
  required : List String
  /-- Pairs of options that exclude each other. -/
  excluded : List (String × String)

/-- An argument whose values are being collected. -/
structure OpenArgument where
  name : String
  kind : ValueKind
  value : Option String

/-- How far reading has come. -/
structure Reading where
  values : List (String × ArgumentValue)
  unfinished : Option OpenArgument
  /-- The next argument is the value of the open option. -/
  awaitingValue : Bool
  /-- The positionals read so far. -/
  positionals : Nat
  /-- Only positionals follow. -/
  trailing : Bool

namespace Reading

def fresh : Reading := ⟨[], none, false, 0, false⟩

def has (r : Reading) (name : String) : Bool := r.values.any (·.1 == name)

/-- Adds a value. An argument is given once. -/
def store (r : Reading) (name : String) (value : ArgumentValue) : Except ArgumentError Reading :=
  if r.has name then .error .argumentConflict
  else .ok { r with values := r.values ++ [(name, value)] }

/-- Reads the value of the open argument. -/
def close (r : Reading) : Except ArgumentError Reading :=
  match r.unfinished with
  | none => .ok r
  | some a =>
    match a.value with
    | none => .error .invalidValue
    | some s =>
      if r.has a.name then .error .argumentConflict
      else
        match a.kind.read s with
        | .ok value => { r with unfinished := none }.store a.name value
        | .error e => .error e

/-- An option was named, with the value attached to it, if there is one. -/
def takeOption (r : Reading) (o : OptionSpec) (attached : Option String) :
    Except ArgumentError Reading :=
  match o.kind, attached with
  | .value kind, some s => do
    let r ← r.close
    let r ← Reading.close { r with unfinished := some ⟨o.name, kind, some s⟩ }
    return { r with awaitingValue := false }
  | .value kind, none => do
    let r ← r.close
    return { r with unfinished := some ⟨o.name, kind, none⟩, awaitingValue := true }
  | _, some _ => .error .tooManyValues
  | .flag, none => do
    let r ← r.close
    let r ← r.store o.name .present
    return { r with awaitingValue := false }
  | .help, none => do
    let _ ← r.close
    .error .displayHelp
  | .version, none => do
    let _ ← r.close
    .error .displayVersion

/-- A positional was given. -/
def takePositional (r : Reading) (spec : CommandSpec) (s : String) (surplus : ArgumentError) :
    Except ArgumentError Reading :=
  match spec.positionals[r.positionals]? with
  | none => .error surplus
  | some p => do
    let r ← r.close
    return { r with
      unfinished := some ⟨p.name, p.kind, some s⟩
      awaitingValue := false
      positionals := r.positionals + 1 }

end Reading

/-- Splits at the first equals sign. -/
def splitAttached (text : List Char) : String × Option String :=
  let name := String.ofList (text.takeWhile (· != '='))
  match text.dropWhile (· != '=') with
  | [] => (name, none)
  | _ :: value => (name, some (String.ofList value))

/-- Short options: flags one after the other, of which an option with a value takes the rest. -/
def takeShorts (spec : CommandSpec) (r : Reading) : List Char → Except ArgumentError Reading
  | [] => .ok r
  | c :: rest =>
    match spec.options.find? (·.short == some c) with
    | none => .error .unknownArgument
    | some o =>
      match o.kind with
      | .value _ =>
        let attached := match rest with
          | [] => none
          | '=' :: value => some (String.ofList value)
          | value => some (String.ofList value)
        r.takeOption o attached
      | _ =>
        match r.takeOption o none with
        | .ok r => takeShorts spec r rest
        | .error e => .error e

/-- The options that an argument may name. -/
def takeDashed (spec : CommandSpec) (r : Reading) (argument : List Char) :
    Option (Except ArgumentError Reading) :=
  match argument with
  | '-' :: '-' :: text =>
    let (name, attached) := splitAttached text
    match spec.options.find? (·.name == name) with
    | some o => some (r.takeOption o attached)
    | none => some (.error .unknownArgument)
  | '-' :: c :: rest => some (takeShorts spec r (c :: rest))
  | _ => none

/-- One argument that is not the name of a command. -/
def Reading.take (spec : CommandSpec) (r : Reading) (argument : String)
    (surplus : ArgumentError) : Except ArgumentError Reading :=
  if r.trailing then r.takePositional spec argument surplus
  else if argument == "--" then .ok { r with trailing := true }
  else
    match takeDashed spec r argument.toList with
    | some result => result
    | none =>
      match r.awaitingValue, r.unfinished with
      | true, some a =>
        .ok { r with unfinished := some { a with value := some argument }, awaitingValue := false }
      | _, _ => r.takePositional spec argument surplus

/-- What must hold of a complete list of arguments. -/
def Reading.check (spec : CommandSpec) (r : Reading) : Except ArgumentError Reading :=
  if spec.excluded.any fun (a, b) => r.has a && r.has b then .error .argumentConflict
  else if spec.required.any fun name => !r.has name then .error .missingRequiredArgument
  else .ok r

/-- Reads all arguments of a command. -/
def readArguments (spec : CommandSpec) (arguments : List String) : Except ArgumentError Reading :=
  let go := fun (r : Reading) argument => r.take spec argument .unknownArgument
  match arguments.foldlM go Reading.fresh with
  | .error e => .error e
  | .ok r =>
    match r.close with
    | .ok r => r.check spec
    | .error e => .error e

end Cli
end CommandLink
