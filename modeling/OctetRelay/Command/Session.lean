/-
# One run of the program

A run of the program reads its command line, prepares its log files, loads its
settings and then either shows them or runs the transcoder.  Here it is a
function from the arguments, the environment and the files to an exit code, two
texts and the files afterwards.

What goes wrong before the log files are there is only printed; afterwards the
events of the run go into the logs as well.

Source: `run` of the command line; `SPEC_FULL.md` 6, the exit codes, and 14, the
configuration check and the run summary.
-/

import OctetRelay.Command.Arguments
import OctetRelay.Command.LogFilter
import OctetRelay.Lifecycle
import OctetRelay.Settings.Layers

namespace OctetRelay
namespace Command

/-- The environment of a run, in the order of its variables. -/
abbrev Environment := List (String × String)

/-- The logs of a run: their files, and what goes into them. -/
structure Logs where
  paths : LogPaths
  info : List Event
  error : List Event

/-- What a run of the program leaves behind. -/
structure Outcome where
  /-- The exit code; a run that is still going has none. -/
  exit : Option Nat
  stdout : String := ""
  stderr : String := ""
  /-- The files, without what goes into the logs. -/
  tree : FileTree
  logs : Option Logs := none

namespace Outcome

/-- The octets of some lines. -/
def linesOctets (events : List Event) : Octets :=
  (String.join (events.map fun event => event.line ++ "\n")).toUTF8.toList

/-- The files, with what goes into the logs. -/
def files (outcome : Outcome) : FileTree :=
  match outcome.logs with
  | none => outcome.tree
  | some logs =>
    (outcome.tree.append logs.paths.info (linesOctets logs.info)).append logs.paths.error
      (linesOctets logs.error)

end Outcome

/-- The version of the program. -/
def versionText : String := "acm 0.1.0\n"

/-- What the program says about itself. -/
def helpText : String :=
  "ASN.1 codec module - transcodes UPER messages from Kafka into XER\n\n"
    ++ "Usage: acm [OPTIONS] --config <FILE>\n\n"
    ++ "Options:\n"
    ++ "  -c, --config <FILE>            Configuration file\n"
    ++ "  -C, --config-check             Print the effective configuration and exit\n"
    ++ "  -t, --produce-topic <TOPIC>    Topic that receives the XML output\n"
    ++ "  -p, --partition <PARTITION>    Partition for produced messages\n"
    ++ "  -g, --group <GROUP>            Consumer group ID\n"
    ++ "  -b, --broker <BROKERS>         Kafka brokers (comma-separated)\n"
    ++ "  -o, --offset <OFFSET>          "
    ++ "Start offset: beginning, end, stored or an explicit offset\n"
    ++ "  -x, --exit                     Exit once every partition reaches its end\n"
    ++ "  -d, --debug <CONTEXTS>         librdkafka debug contexts\n"
    ++ "  -v, --log-level <LOG_LEVEL>    "
    ++ "Log level: trace, debug, info, warning, error, critical or off [default: trace]\n"
    ++ "  -D, --log-dir <LOG_DIR>        Directory for the log files [default: logs]\n"
    ++ "  -R, --log-rm                   Remove existing log files before starting\n"
    ++ "  -i, --ilog <INFO_LOG>          Information log file name [default: log.info]\n"
    ++ "  -e, --elog <ERROR_LOG>         Error log file name [default: log.error]\n"
    ++ "  -h, --help                     Print help\n"
    ++ "  -V, --version                  Print version\n"

/-- The word in front of an error, red and bold where the environment insists on colours. -/
def errorLabel (environment : Environment) : String :=
  match environment.lookup "CLICOLOR_FORCE" with
  | some value => if value = "0" then "Error:" else "\x1b[1;31mError:\x1b[0m"
  | none => "Error:"

/-- The line that reports an error. -/
def errorLine (environment : Environment) (text : String) : String :=
  errorLabel environment ++ " " ++ text ++ "\n"

/-- A settings error and what caused it; the fault of a file is told by both. -/
def settingsChain (error : SettingsError) : String :=
  match error with
  | .unreadable _ fault => error.message ++ ": " ++ fault.message
  | _ => error.message

/-- A run error and what caused it, each told in full. -/
def runChain (error : RunError) : String :=
  match error with
  | .configuration (.settings fault) => error.message ++ ": " ++ settingsChain fault
  | .configuration fault => error.message ++ ": " ++ fault.message
  | .broker reason => error.message ++ ": " ++ reason
  | .subscription _ _ | .cancelled _ => error.message

/-- The effective settings, a line each. -/
def describeText (settings : Settings) : String :=
  String.join (settings.describe.map fun (key, value) => key ++ " = " ++ value ++ "\n")

/-- How a run goes on once its log files are there: its exit code if it ends, what it prints and
what it logs. -/
structure Course where
  exit : Option Nat
  stdout : String := ""
  stderr : String := ""
  events : List Event := []

/-- A course that ends with an error. -/
def Course.failed (environment : Environment) (text : String) (stdout : String)
    (events : List Event) : Course :=
  { exit := some 1, stdout, stderr := errorLine environment text, events }

/-- Shows the settings, and says whether they can be used. -/
def check (environment : Environment) (settings : Settings) : Course :=
  match settings.validate with
  | .ok () => { exit := some 0, stdout := describeText settings }
  | .error error => .failed environment (settingsChain error) (describeText settings) []

/-- Runs the transcoder. -/
def transcodeWith (around : Lifecycle.Surroundings) (environment : Environment) (config : String)
    (settings : Settings) : Course :=
  match settings.validate with
  | .error error => .failed environment (settingsChain error) "" []
  | .ok () =>
    let ran := Lifecycle.run (Codec.octetString settings.skipBytes) settings around
    let events := .programStarting config settings.brokers :: ran.trace.events
    match ran.ending with
    | .stalled => { exit := none, events }
    | .returned (.ok counters) => { exit := some 0, stderr := counters.text ++ "\n", events }
    | .returned (.error error) => .failed environment (runChain error) "" events

/-- Loads the settings and uses them. -/
def course (around : Lifecycle.Surroundings) (environment : Environment) (tree : FileTree)
    (config : String) (options : Options) : Course :=
  let fromEnvironment := OctetRelay.Environment.layer environment
  let loaded := Settings.load config (tree.readText config) fromEnvironment options.layer
  let used : Course := match loaded.result with
    | .error error =>
      .failed environment
        ("Failed to load configuration from " ++ config ++ ": " ++ settingsChain error) "" []
    | .ok settings =>
      if options.configCheck then check environment settings
      else transcodeWith around environment config settings
  { used with events := loaded.events ++ used.events }

/-- The event that a level of the command line calls for. -/
def levelEvents (level : String) : List Event :=
  if (Threshold.ofWord? level).isSome then [] else [.unknownLogLevel level]

/-- The filter of the information log; without a known level everything is logged. -/
def infoFilter (environment : Environment) (level : String) : LogFilter :=
  .read ((Threshold.ofWord? level).getD (some .trace)) ((environment.lookup "RUST_LOG").getD "")

/-- The complaints about directives that could not be read. -/
def refusalText (filter : LogFilter) : String :=
  String.join (filter.refused.map fun refused => refused.message ++ "\n")

/-- Makes the log file where it is missing, and says where it is; a link there is followed.  A
directory in its place, too long a name or a refusal is in the way. -/
def openLog (tree : FileTree) (path : FilePath) : Except FileFault (FileTree × FilePath) := do
  let place ← tree.follow path.dropLast path.getLast?.toList
  match tree.node? place with
  | some .directory => .error .isDirectory
  | some (.file _) => tree.requireAllowed .content place
  | none => tree.requireAllowed .change place
  .ok (tree.append place [], place)

/-- Makes the log files where they are missing. -/
def openLogs (tree : FileTree) (paths : LogPaths) : Except FileFault (FileTree × LogPaths) := do
  let (tree, info) ← openLog tree paths.info
  let (tree, error) ← openLog tree paths.error
  .ok (tree, { info, error })

/-- Runs the program with options. -/
def runOptions (around : Lifecycle.Surroundings) (environment : Environment) (tree : FileTree)
    (config : String) (options : Options) : Outcome :=
  let logOptions := options.logOptions
  let prepared := LogFiles.prepare tree logOptions
  match prepared.result with
  | .error fault =>
    { exit := some 1, stderr := errorLine environment fault.message, tree := prepared.tree }
  | .ok paths =>
    match openLogs prepared.tree paths with
    | .error fault =>
      { exit := some 101
        stderr := "failed to create initial log file: " ++ fault.message ++ "\n"
        tree := prepared.tree }
    | .ok (tree, paths) =>
      let filter := infoFilter environment logOptions.level
      let course := course around environment tree config options
      let events := levelEvents logOptions.level ++ course.events
      { exit := course.exit
        stdout := course.stdout
        stderr := refusalText filter ++ course.stderr
        tree
        logs := some
          { paths
            info := events.filter filter.admits
            error := events.filter LogFilter.grave.admits } }

/-- Runs the program. -/
def run (around : Lifecycle.Surroundings) (arguments : List String) (environment : Environment)
    (tree : FileTree) : Outcome :=
  match read arguments with
  | .error fault => { exit := some 2, stderr := "error: " ++ fault.message ++ "\n", tree }
  | .ok .help => { exit := some 0, stdout := helpText, tree }
  | .ok .version => { exit := some 0, stdout := versionText, tree }
  | .ok (.run config options) => runOptions around environment tree config options

end Command
end OctetRelay
