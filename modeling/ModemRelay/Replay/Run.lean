import ModemRelay.Log.Filter
import ModemRelay.Log.Line
import ModemRelay.Replay.Options
import ModemRelay.Scenario.Decode
import ModemRelay.Scenario.Report

/-! Replaying scenario files.

Files are replayed in order. The first that cannot be loaded ends the replay; a scenario that does
not meet its expectations only makes it fail in the end. -/

namespace ModemRelay.Replay

/-- The scenario with the overrides in place of its own settings. -/
def Overrides.apply (o : Overrides) (s : Scenario) : Scenario :=
  let s := o.seed.elim s s.withSeed
  let s := o.mode.elim s s.withMode
  o.timeout.elim s s.withTimeout

/-- The replay of one file: what came of it and what it wrote to the log. -/
structure Run where
  report : Scenario.Report
  log : List Log.Record

/-- A record that the replay itself writes. -/
private def note (level : Log.Level) (message : String)
    (fields : List (String × Log.Value) := []) : Log.Record :=
  { level, source := .replay, message, fields }

private def number (n : Nat) : Log.Value := .plain (toString n)

/-- What the log says of a report: a summary, and each expectation that was not met. -/
def summary (r : Scenario.Report) : List Log.Record :=
  note .info "scenario replayed"
    [ ("scenario", .plain r.name),
      ("seed", number r.seed.toNat),
      ("mode", .plain r.finalMode.name),
      ("elapsed_ms", number r.elapsed.millis),
      ("delivered", number r.delivered.length),
      ("matched", number r.stats.tally.matched),
      ("mismatched", number r.stats.tally.mismatched),
      ("timed_out", number r.stats.tally.timedOut),
      ("dropped", number r.stats.tally.droppedLines),
      ("late", number r.stats.tally.lateModemLines) ] ::
    r.violations.map fun v => note .error v.message [("scenario", .plain r.name)]

def runOne (path : String) (s : Scenario) : Run :=
  let session := s.play.state
  let report := s.report session
  ⟨report, note .info ("Replaying " ++ path) :: s.log session ++ summary report⟩

/-- Replays files in order, up to the first that cannot be loaded. -/
def runAll (load : String → Except Scenario.Error Scenario) (o : Overrides) :
    List String → List Run × Option Scenario.Error
  | [] => ([], none)
  | path :: rest =>
    match load path with
    | .error e => ([], some e)
    | .ok s =>
      let (runs, error) := runAll load o rest
      (runOne path (o.apply s) :: runs, error)

/-- How a replay ends. -/
inductive Ending where
  | passed (total : Nat)
  | failed (missed total : Nat)
  | stopped (error : Scenario.Error)
  deriving DecidableEq

/-- How a replay ends after the runs that it came to. -/
def Ending.ofRuns (runs : List Run) : Option Scenario.Error → Ending
  | some e => .stopped e
  | none =>
    let missed := runs.countP (!·.report.passed)
    if missed = 0 then .passed runs.length else .failed missed runs.length

/-- Replays files: how it ends, and all that is written to the log. -/
def replay (load : String → Except Scenario.Error Scenario) (o : Overrides)
    (paths : List String) : Ending × List Log.Record :=
  let (runs, error) := runAll load o paths
  let ending := Ending.ofRuns runs error
  let closing :=
    match ending with
    | .passed total => [note .info ("All " ++ toString total ++ " scenarios passed")]
    | _ => []
  (ending, runs.flatMap (·.log) ++ closing)

/-- What a failed replay prints of an error. For a text that is not a scenario it is the kind alone,
without the brackets in which the reader of TOML would say what is wrong. -/
def errorDetail : Scenario.Error → String
  | .unreadable path fault =>
    "Io \x7b path: " ++ Text.quote path ++ ", source: " ++ fault.detail ++ " \x7d"
  | .malformed => "Parse"
  | .impossible cause => "Invalid(" ++ Text.quote cause.message ++ ")"
  | .unmet name violations =>
    "Unmet \x7b name: " ++ Text.quote name ++ ", violations: " ++
      Text.quoteList (violations.map (·.message)) ++ " \x7d"

/-- The text of a failed replay, absent where it has passed. -/
def Ending.problem? : Ending → Option String
  | passed _ => none
  | failed missed total =>
    some (Text.quote (toString missed ++ " of " ++ toString total ++ " scenarios failed"))
  | stopped e => some (errorDetail e)

/-- What a program run leaves behind. -/
structure Output where
  exitCode : Nat
  lines : List String := []
  errorLines : List String := []

def versionText : String := "wardmodem-replay 0.1.0"

def helpText : List String :=
  [ "Replay AT sessions against the wardmodem transceiver",
    "",
    "Usage: wardmodem-replay [OPTIONS] <SCENARIOS>...",
    "",
    "Arguments:",
    "  <SCENARIOS>...  Scenario files (TOML)",
    "",
    "Options:",
    "      --seed <SEED>              Override the seed of every scenario",
    "      --mode <MODE>              Override the initial mode (ward-model, pass-through, " ++
      "split-verify)",
    "      --timeout-ms <TIMEOUT_MS>  Override the modem response window, in milliseconds",
    "      --log-level <LOG_LEVEL>    Log level (trace, debug, info, warn, error) " ++
      "[default: info]",
    "  -h, --help                     Print help",
    "  -V, --version                  Print version" ]

/-- The filter of the log: that of the environment, where it can be read, and else that of the
command line. -/
def filterOf (environment : Option String) (logLevel : Option String) : Log.Filter :=
  (environment.bind Log.Filter.ofText?).getD (.ofTextPartly (logLevel.getD "info"))

/-- The complaints about a filter of the command line that is used though not all of it can be
read. -/
def complaints (environment : Option String) (logLevel : Option String) : List String :=
  match environment.bind Log.Filter.ofText? with
  | some _ => []
  | none =>
    (Log.Filter.unread (logLevel.getD "info")).map fun (part, fault) =>
      "ignoring `" ++ part ++ "`: " ++ fault.message

/-- Runs the program, given its arguments, the log filter of the environment and what reading each
file comes to. Where the arguments cannot be understood, the error line is a stand-in for the
message of the argument parser. -/
def run (args : List String) (environment : Option String)
    (read : String → Except ReadFault ByteArray) : Output :=
  match Request.ofArguments args with
  | .misuse => { exitCode := 2, errorLines := ["error: the command line cannot be understood"] }
  | .version => { exitCode := 0, lines := [versionText] }
  | .help => { exitCode := 0, lines := helpText }
  | .replay options =>
    let load (path : String) := Scenario.load path (read path)
    let (ending, log) := replay load options.overrides options.scenarios
    let shown := log.filter (filterOf environment options.logLevel).allows
    let problem := ending.problem?.toList.map ("Error: " ++ ·)
    { exitCode := if problem.isEmpty then 0 else 1
      lines := shown.flatMap (·.lines)
      errorLines := complaints environment options.logLevel ++ problem }

end ModemRelay.Replay
