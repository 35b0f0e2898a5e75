import LayeredConfig.CommandLine.Arguments
import LayeredConfig.Number.LenientNumeral
import LayeredConfig.Session
import LayeredConfig.Text.Json
import LayeredConfig.Text.Style

/-!
A run of the program: from its arguments to what it prints and how it exits. The options of the
program are understood first, then the configuration is assembled, and only then the arguments of
the command are looked at. The log shows events from information upwards. The output goes to a file
or to another program, not to a terminal, and so whatever is printed besides the log loses its
escape sequences; the help has none.
-/

namespace LayeredConfig

def Value.json : Value → Text.Json
  | .absent => .null
  | .text content => .string content
  | .integer number => .integer number
  | .flag on => .boolean on
  | .items contents => .strings contents

def Config.show (config : Config) : String :=
  (Text.Json.object (Field.all.map fun field =>
    (field.name, (config.settings.get field).json))).render 0

namespace CommandLine

/-- A text as a line of the output, which goes to no terminal. -/
def printed (content : String) : String :=
  Text.unstyled (content ++ "\n")

/-- A part of what is printed besides the results. -/
inductive Notice where
  | logged (event : Event)
  | text (content : String)
deriving DecidableEq, Repr

/-- How a run ends. -/
structure Outcome where
  exitCode : Nat
  output : String
  notices : List Notice
  /-- The least severity that the log shows at the end. -/
  logLevel : Severity
deriving DecidableEq, Repr

/-- The values that the program's options give the assembly. -/
def Arguments.options (arguments : Arguments) : Options where
  configFile := arguments.value? "--config"
  port := arguments.value? "--port"
  host := arguments.value? "--host"
  instanceId := arguments.value? "--id"
  restartCount := arguments.value? "--numRestarts"
  statusFile := arguments.value? "--forkedStatusFile"

/-- The file that a run on these arguments may read, so that it can be read beforehand. -/
def fileOf (arguments : List String) : Option Storage.Path :=
  match program.divide arguments with
  | .ok understood => understood.options.configFile.map .ofText
  | .error _ => none

/-- The exit of a run before the log is set up. -/
def Outcome.early (exitCode : Nat) (output : String) (notices : List Notice) : Outcome :=
  ⟨exitCode, output, notices, .warning⟩

/-- The exit of a run whose use of the program is at fault. -/
def Outcome.refused (fault : UsageFault) : Outcome :=
  .early 2 "" [.text (Text.unstyled (fault.report program))]

/-- What a command prints for a configuration. -/
inductive Subcommand where
  | show
  | workerArguments
deriving DecidableEq, Repr

namespace Subcommand

def ofName? (name : String) : Option Subcommand :=
  if name = "show" then some .show
  else if name = "worker-args" then some .workerArguments
  else none

def command : Subcommand → Command
  | .show => showCommand
  | .workerArguments => workerCommand

def workerPort (arguments : Arguments) : Except UsageFault (Option Int) :=
  match arguments.value? "--worker-port" with
  | none => .ok none
  | some text =>
    match Number.parseLenient? text with
    | some port => .ok (some port)
    | none => .error (.notInteger "--worker-port" text)

/-- The identity that the arguments give a worker; an empty one counts as none. -/
def workerId (arguments : Arguments) : Option String :=
  (arguments.value? "--worker-id").filter (· != "")

def result (around : Surroundings) (config : Config) (arguments : Arguments) :
    Subcommand → Except UsageFault String
  | .show => .ok (printed config.show)
  | .workerArguments =>
    (workerPort arguments).map fun port =>
      String.join ((Worker.argumentsOr false around.directory config port
        (workerId arguments)).map printed)

/-- The output of a command, which is its help or its result. Arguments that are left over are the
last fault to be looked for. -/
def perform (around : Surroundings) (config : Config) (subcommand : Subcommand)
    (others : List String) : Except UsageFault String := do
  let arguments ← subcommand.command.divide others
  if arguments.wantsHelp then pure subcommand.command.help
  else do
    let output ← subcommand.result around config arguments
    match arguments.rest with
    | [] => pure output
    | first :: others => throw (.unexpectedArguments first others)

end Subcommand

/-- The events that the log shows. -/
def shown (events : List Event) : List Notice :=
  (events.filter fun event => Severity.info.rank ≤ event.severity.rank).map .logged

def levelFor (config : Config) : Severity :=
  if config.settings.logLevel = some .debug then .debug else .info

/-- Assembles the configuration and performs a command. A fault that is not foreseen breaks the run
off. -/
def runSubcommand (around : Surroundings) (options : Options) (subcommand : Subcommand)
    (others : List String) : Except ConfigFault Outcome :=
  match assemble around.files around.freshId options with
  | ⟨events, .error fault⟩ =>
    if fault.isForeseen then
      .ok ⟨1, "", shown events ++ [.text (printed ("Error: " ++ fault.message))], .info⟩
    else .error fault
  | ⟨events, .ok config⟩ =>
    match subcommand.perform around config others with
    | .ok output => .ok ⟨0, output, shown events, levelFor config⟩
    | .error fault =>
      .ok ⟨2, "", shown events ++ [.text (Text.unstyled (fault.report subcommand.command))],
        levelFor config⟩

/-- The exit for a name that is no command. One that begins with a hyphen came after the end of the
options; it is taken for an option once more, and only if it passes as one the name is at fault. -/
def unknownCommand (name : String) (others : List String) : Outcome :=
  let fault := UsageFault.unknownCommand name
    (Text.closeMatches name (program.commands.map Prod.fst))
  if name.toList.head? == some '-' then
    match program.divide (name :: others) with
    | .error fault => .refused fault
    | .ok arguments => if arguments.wantsHelp then .early 0 program.help [] else .refused fault
  else .refused fault

/-- Runs the program on its arguments. Without any it prints its help as an error. -/
def run (around : Surroundings) (arguments : List String) : Except ConfigFault Outcome :=
  if arguments.isEmpty then .ok (.early 2 "" [.text program.help])
  else
    match program.divide arguments with
    | .error fault => .ok (.refused fault)
    | .ok understood =>
      if understood.wantsHelp then .ok (.early 0 program.help [])
      else
        match understood.rest with
        | [] => .ok (.refused .noCommand)
        | name :: others =>
          match Subcommand.ofName? name with
          | none => .ok (unknownCommand name others)
          | some subcommand => runSubcommand around understood.options subcommand others

end CommandLine

end LayeredConfig
