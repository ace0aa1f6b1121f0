import ModemRelay.Mode
import ModemRelay.Text.Decimal

/-! The command line of a replay.

Arguments are read from left to right, and the first that is wrong, or that asks for the version or
for help, decides. An option is given at most once, its value after an equals sign or as the next
argument, which must not look like an option. After a double dash all arguments name files. -/

namespace ModemRelay.Replay

/-- What a replay puts in place of a scenario's own settings. -/
structure Overrides where
  seed : Option UInt64 := none
  mode : Option Mode := none
  /-- The response timeout, in milliseconds. -/
  timeout : Option UInt64 := none
  deriving DecidableEq

/-- What a command line asks for. -/
structure Options where
  scenarios : List String := []
  overrides : Overrides := {}
  logLevel : Option String := none
  deriving DecidableEq

/-- What becomes of a command line. -/
inductive Request where
  | replay (options : Options)
  | version
  | help
  | misuse
  deriving DecidableEq

namespace Options

/-- Whether an argument looks like an option. -/
def looksLikeOption (arg : String) : Bool := arg.startsWith "-" && arg != "-"

/-- The options with one more given, if there is one of this name that has not been given yet and
takes the value. -/
def give (o : Options) (name value : String) : Option Options :=
  match name with
  | "--seed" =>
    if o.overrides.seed.isSome then none
    else (Text.decimal? value).map fun seed => { o with overrides.seed := some seed }
  | "--mode" =>
    if o.overrides.mode.isSome then none
    else (Mode.ofNameAnyCase? value).map fun mode => { o with overrides.mode := some mode }
  | "--timeout-ms" =>
    if o.overrides.timeout.isSome then none
    else (Text.decimal? value).map fun timeout => { o with overrides.timeout := some timeout }
  | "--log-level" =>
    if o.logLevel.isSome then none else some { o with logLevel := some value }
  | _ => none

/-- The options with files added, of which there has to be one in all and none without a name. -/
def finish (o : Options) (files : List String) : Request :=
  let scenarios := o.scenarios ++ files
  if scenarios.isEmpty || scenarios.any (·.isEmpty) then .misuse
  else .replay { o with scenarios }

/-- An argument that looks like an option, parted at its first equals sign. -/
def parted (arg : String) : String × Option String :=
  let cs := arg.toList
  let name := String.ofList (cs.takeWhile (· != '='))
  match cs.dropWhile (· != '=') with
  | [] => (name, none)
  | _ :: value => (name, some (String.ofList value))

/-- Reads arguments, given the options so far. -/
def read (o : Options) : List String → Request
  | [] => o.finish []
  | "--" :: files => o.finish files
  | arg :: rest =>
    if !looksLikeOption arg then
      if arg.isEmpty then .misuse else read { o with scenarios := o.scenarios ++ [arg] } rest
    else if arg = "--help" || arg.startsWith "-h" then
      .help
    else if arg = "--version" || arg.startsWith "-V" then
      .version
    else
      match parted arg with
      | (name, some value) =>
        match o.give name value with
        | some o => read o rest
        | none => .misuse
      | (name, none) =>
        match rest with
        | [] => .misuse
        | value :: rest =>
          if looksLikeOption value then
            .misuse
          else
            match o.give name value with
            | some o => read o rest
            | none => .misuse

end Options

/-- What a command line asks for. -/
def Request.ofArguments (args : List String) : Request := Options.read {} args

end ModemRelay.Replay
