/-!
Commands and their options, as they are declared and as their help describes them.
-/

namespace LayeredConfig.CommandLine

/-- An option that takes a value. It has a word, written with two hyphens, and may have a letter. -/
structure OptionForm where
  letter : Option Char
  word : String
  kind : String
  help : String
deriving DecidableEq, Repr

/-- A command. One with commands of its own takes only those options that come before the first
argument, so that the rest is left to the command which that argument names. -/
structure Command where
  /-- The words by which the command is called. -/
  path : String
  summary : String
  options : List OptionForm
  /-- The commands below this one, each with a short description. -/
  commands : List (String × String)
deriving DecidableEq, Repr

def helpOption : String × String :=
  ("--help", "Show this message and exit.")

def program : Command where
  path := "forkserver"
  summary := "forkserver - server configuration for a supervised worker process."
  options :=
    [⟨some 'c', "--config", "TEXT", "Path to the XML config file"⟩,
      ⟨some 'p', "--port", "TEXT", "Port to listen on"⟩,
      ⟨some 'h', "--host", "TEXT", "Host to bind to ('*' for all interfaces)"⟩,
      ⟨some 'i', "--id", "TEXT", "Server instance id"⟩,
      ⟨none, "--numRestarts", "TEXT", "Restarts so far (set by the parent)"⟩,
      ⟨none, "--forkedStatusFile", "TEXT", "Status file path (set by the parent)"⟩]
  commands :=
    [("show", "Print the assembled configuration as JSON."),
      ("worker-args", "Print the arguments a new worker would be started with,...")]

def showCommand : Command where
  path := "forkserver show"
  summary := "Print the assembled configuration as JSON."
  options := []
  commands := []

def workerCommand : Command where
  path := "forkserver worker-args"
  summary := "Print the arguments a new worker would be started with, one per line."
  options :=
    [⟨none, "--worker-port", "INTEGER", "Worker port (default: configured port)"⟩,
      ⟨none, "--worker-id", "TEXT", "Worker id (default: configured id)"⟩]
  commands := []

/-- An option with the name of its value, as help lists it. -/
def OptionForm.heading (form : OptionForm) : String :=
  (match form.letter with
    | some letter => String.ofList ['-', letter, ',', ' ']
    | none => "") ++ form.word ++ " " ++ form.kind

/-- Lines of two columns, the second two blanks behind the longest entry of the first. -/
def columns (rows : List (String × String)) : String :=
  let width := rows.foldl (fun width row => max width row.1.length) 0
  String.join (rows.map fun row =>
    "  " ++ row.1 ++ String.ofList (List.replicate (width - row.1.length) ' ') ++ "  " ++ row.2 ++
      "\n")

namespace Command

/-- How the command is called, in one line. -/
def usage (command : Command) : String :=
  "Usage: " ++ command.path ++ " [OPTIONS]" ++
    (if command.commands.isEmpty then "" else " COMMAND [ARGS]...") ++ "\n"

def help (command : Command) : String :=
  command.usage ++ "\n  " ++ command.summary ++ "\n\nOptions:\n" ++
    columns (command.options.map (fun form => (form.heading, form.help)) ++ [helpOption]) ++
    (if command.commands.isEmpty then "" else "\nCommands:\n" ++ columns command.commands)

def words (command : Command) : List String :=
  command.options.map OptionForm.word ++ [helpOption.1]

end Command

end LayeredConfig.CommandLine
