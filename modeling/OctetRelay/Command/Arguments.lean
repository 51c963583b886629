/-
# The command line

An argument is an option, or the value of the option before it.  An option has
a short name of one letter behind `-`, a long one behind `--`, or both; it is a
switch or takes a value.

| form | value |
| --- | --- |
| `-c value`, `--config value` | the next argument, unless that looks like an option |
| `-cvalue`, `-c=value` | the rest of the argument |
| `--config=value` | what follows the first `=` |
| `-xC` | none: switches may share a `-`, and the last one may take a value |

Nothing may be given twice, and the configuration file has to be given.

Source: `Cli`, `overrides` and `log_options`; `SPEC_FULL.md` 10 and 11, the
options of the command line.
-/

import OctetRelay.Command.LogFiles
import OctetRelay.Settings.Layer

namespace OctetRelay
namespace Command

/-- The options without a value. -/
inductive Switch where
  | configCheck
  | exitOnEof
  | removeLogs
  deriving DecidableEq, Repr

/-- The options with a value. -/
inductive Valued where
  | config
  | produceTopic
  | partition
  | group
  | broker
  | offset
  | debug
  | logLevel
  | logDirectory
  | infoLog
  | errorLog
  deriving DecidableEq, Repr

/-- What an option's name stands for. -/
inductive Meaning where
  | switch (option : Switch)
  | valued (option : Valued)
  | help
  | version
  deriving DecidableEq, Repr

/-- The options by their names. -/
def meanings : List (Char × String × Meaning) :=
  [('c', "config", .valued .config),
   ('C', "config-check", .switch .configCheck),
   ('t', "produce-topic", .valued .produceTopic),
   ('p', "partition", .valued .partition),
   ('g', "group", .valued .group),
   ('b', "broker", .valued .broker),
   ('o', "offset", .valued .offset),
   ('x', "exit", .switch .exitOnEof),
   ('d', "debug", .valued .debug),
   ('v', "log-level", .valued .logLevel),
   ('D', "log-dir", .valued .logDirectory),
   ('R', "log-rm", .switch .removeLogs),
   ('i', "ilog", .valued .infoLog),
   ('e', "elog", .valued .errorLog),
   ('h', "help", .help),
   ('V', "version", .version)]

/-- What a short name stands for. -/
def ofShort? (name : Char) : Option Meaning :=
  (meanings.find? fun entry => entry.1 == name).map (·.2.2)

/-- What a long name stands for. -/
def ofLong? (name : String) : Option Meaning :=
  (meanings.find? fun entry => entry.2.1 == name).map (·.2.2)

/-- The options that were given. -/
structure Options where
  config : Option String := none
  configCheck : Bool := false
  produceTopic : Option String := none
  partition : Option Int32 := none
  group : Option String := none
  broker : Option String := none
  offset : Option StartOffset := none
  exitOnEof : Bool := false
  debug : Option String := none
  logLevel : Option String := none
  logDirectory : Option String := none
  removeLogs : Bool := false
  infoLog : Option String := none
  errorLog : Option String := none
  deriving DecidableEq, Repr

/-- What is wrong with a command line. -/
inductive UsageFault where
  | unknownArgument (argument : String)
  | unexpectedValue (argument : String)
  | missingValue
  | repeated
  | badValue (value : String)
  | missingConfig
  deriving DecidableEq, Repr

/-- The text of a usage fault. -/
def UsageFault.message : UsageFault → String
  | .unknownArgument argument => "unexpected argument '" ++ argument ++ "' found"
  | .unexpectedValue argument => "unexpected value in '" ++ argument ++ "'"
  | .missingValue => "a value is required but none was supplied"
  | .repeated => "an option cannot be used multiple times"
  | .badValue value => "invalid value '" ++ value ++ "'"
  | .missingConfig => "the option '--config <FILE>' was not provided"

/-- What a command line asks for. -/
inductive Request where
  | run (config : String) (options : Options)
  | help
  | version

namespace Options

/-- Sets a switch. -/
def flip (options : Options) (switch : Switch) : Except UsageFault Options :=
  match switch with
  | .configCheck =>
    if options.configCheck then .error .repeated else .ok { options with configCheck := true }
  | .exitOnEof =>
    if options.exitOnEof then .error .repeated else .ok { options with exitOnEof := true }
  | .removeLogs =>
    if options.removeLogs then .error .repeated else .ok { options with removeLogs := true }

/-- A text in a place that is still free. -/
def text (place : Option String) (value : String) : Except UsageFault (Option String) :=
  if place.isSome then .error .repeated else .ok (some value)

/-- A path in a place that is still free; no path is empty. -/
def path (place : Option String) (value : String) : Except UsageFault (Option String) :=
  if value = "" then .error (.badValue value) else text place value

/-- Gives a value to an option. -/
def give (options : Options) (option : Valued) (value : String) : Except UsageFault Options :=
  match option with
  | .config => do return { options with config := ← path options.config value }
  | .produceTopic => do return { options with produceTopic := ← text options.produceTopic value }
  | .group => do return { options with group := ← text options.group value }
  | .broker => do return { options with broker := ← text options.broker value }
  | .debug => do return { options with debug := ← text options.debug value }
  | .logLevel => do return { options with logLevel := ← text options.logLevel value }
  | .logDirectory => do return { options with logDirectory := ← path options.logDirectory value }
  | .infoLog => do return { options with infoLog := ← text options.infoLog value }
  | .errorLog => do return { options with errorLog := ← text options.errorLog value }
  | .partition =>
    if options.partition.isSome then .error .repeated
    else
      match Text.readInteger .signed32 value.toList with
      | .ok number => .ok { options with partition := some (.ofInt number) }
      | .error _ => .error (.badValue value)
  | .offset =>
    if options.offset.isSome then .error .repeated
    else
      match StartOffset.read value with
      | .ok offset => .ok { options with offset := some offset }
      | .error _ => .error (.badValue value)

/-- The settings that the options give. -/
def layer (options : Options) : SettingsLayer :=
  { brokers := options.broker
    groupId := options.group
    producerTopic := options.produceTopic
    partition := options.partition
    offset := options.offset
    exitOnEof := if options.exitOnEof then some true else none
    debug := options.debug }

/-- Where to log, and how much. -/
def logOptions (options : Options) : LogOptions :=
  { directory := options.logDirectory.getD "logs"
    infoName := options.infoLog.getD "log.info"
    errorName := options.errorLog.getD "log.error"
    level := options.logLevel.getD "trace"
    removeExisting := options.removeLogs }

end Options

/-- How far a command line was read. -/
inductive Reading where
  /-- All options so far are complete. -/
  | complete (options : Options)
  /-- The last option still needs its value. -/
  | pending (options : Options) (option : Valued)
  /-- Nothing else counts any more. -/
  | final (request : Request)

/-- The rest of a cluster as a value; one `=` in front does not belong to it. -/
def clusterValue : List Char → String
  | '=' :: rest => String.ofList rest
  | rest => String.ofList rest

/-- Reads the letters behind one `-`. -/
def readCluster (options : Options) : List Char → Except UsageFault Reading
  | [] => .ok (.complete options)
  | c :: rest =>
    match ofShort? c with
    | none => .error (.unknownArgument (String.ofList ['-', c]))
    | some .help => .ok (.final .help)
    | some .version => .ok (.final .version)
    | some (.switch switch) => do readCluster (← options.flip switch) rest
    | some (.valued option) =>
      if rest.isEmpty then .ok (.pending options option)
      else (options.give option (clusterValue rest)).map .complete

/-- Splits a long option at its first `=`. -/
def splitLong (text : List Char) : List Char × Option (List Char) :=
  match text.dropWhile (· ≠ '=') with
  | [] => (text, none)
  | _ :: value => (text.takeWhile (· ≠ '='), some value)

/-- Reads what stands behind `--`. -/
def readLong (options : Options) (text : List Char) : Except UsageFault Reading :=
  let (name, value) := splitLong text
  let argument := String.ofList ('-' :: '-' :: text)
  match ofLong? (String.ofList name), value with
  | none, _ => .error (.unknownArgument argument)
  | some (.valued option), some value => (options.give option (String.ofList value)).map .complete
  | some (.valued option), none => .ok (.pending options option)
  | some _, some _ => .error (.unexpectedValue argument)
  | some .help, none => .ok (.final .help)
  | some .version, none => .ok (.final .version)
  | some (.switch switch), none => (options.flip switch).map .complete

/-- Whether an argument looks like an option, so that it is no value of the one before it. -/
def looksLikeOption (argument : String) : Bool :=
  match argument.toList with
  | '-' :: _ :: _ => true
  | _ => false

/-- Reads one argument where no value is due. -/
def readArgument (options : Options) (argument : String) : Except UsageFault Reading :=
  match argument.toList with
  | '-' :: '-' :: text => readLong options text
  | '-' :: c :: rest => readCluster options (c :: rest)
  | _ => .error (.unknownArgument argument)

/-- What a complete command line asks for. -/
def conclude (options : Options) : Except UsageFault Request :=
  match options.config with
  | some config => .ok (.run config options)
  | none => .error .missingConfig

/-- Reads the arguments that are left. -/
def readArguments : Reading → List String → Except UsageFault Request
  | .final request, _ => .ok request
  | .complete options, [] => conclude options
  | .pending _ _, [] => .error .missingValue
  | .complete options, "--" :: rest =>
    match rest with
    | [] => conclude options
    | argument :: _ => .error (.unknownArgument argument)
  | .complete options, argument :: rest => do
    readArguments (← readArgument options argument) rest
  | .pending options option, argument :: rest =>
    if looksLikeOption argument then .error .missingValue
    else do readArguments (.complete (← options.give option argument)) rest

/-- Reads a command line. -/
def read (arguments : List String) : Except UsageFault Request :=
  readArguments (.complete {}) arguments

end Command
end OctetRelay
