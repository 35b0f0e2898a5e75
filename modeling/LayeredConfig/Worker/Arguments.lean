import LayeredConfig.Settings.Basic

/-!
The arguments that a worker process is started with: its port, its identity, and the file that it
reads the rest from. On Windows the path of the file is quoted where it has a space.
-/

namespace LayeredConfig.Worker

def isQuoted (cs : List Char) : Bool :=
  cs.head? == some '"' && cs.getLast? == some '"'

/-- The argument as it has to stand on a command line to arrive as one. -/
def escapeArgument (windows : Bool) (argument : String) : String :=
  if windows && argument.toList.contains ' ' && !isQuoted argument.toList then
    "\"" ++ argument ++ "\""
  else argument

/-- The arguments of a worker. The path of the file is made absolute, since the worker may run in
another directory. -/
def arguments (windows : Bool) (directory : Storage.Path) (config : Config) (port : Int)
    (id : String) : List String :=
  ["-p", Number.render port, "-i", id] ++
    match config.settings.configPath with
    | none => []
    | some path => ["-c", escapeArgument windows (path.absolute directory).text]

/-- The arguments of a worker whose port and identity are those of the configuration unless they are
given. -/
def argumentsOr (windows : Bool) (directory : Storage.Path) (config : Config) (port : Option Int)
    (id : Option String) : List String :=
  arguments windows directory config (port.getD config.settings.port) (id.getD config.id)

end LayeredConfig.Worker
