import LayeredConfig.CommandLine.Command
import LayeredConfig.Text.Quoted
import LayeredConfig.Text.Similarity

/-!
Faults in the use of a command, and what is printed about them.
-/

namespace LayeredConfig.CommandLine

inductive UsageFault where
  | unknownOption (given : String) (similar : List String)
  | missingValue (given : String)
  | unexpectedValue (given : String)
  | noCommand
  | unknownCommand (given : String) (similar : List String)
  | notInteger (given value : String)
  | unexpectedArguments (first : String) (others : List String)
deriving DecidableEq, Repr

namespace UsageFault

/-- A remark on names that are similar to a given one, if there are any. -/
def suggestion : List String → String
  | [] => ""
  | [name] => " Did you mean " ++ Text.quote name ++ "?"
  | names =>
    " (Did you mean one of: " ++
      ", ".intercalate ((names.mergeSort fun s t => s ≤ t).map Text.quote) ++ "?)"

def message : UsageFault → String
  | .unknownOption given similar =>
    "No such option " ++ Text.quote given ++ "." ++ suggestion similar
  | .missingValue given => "Option " ++ Text.quote given ++ " requires an argument."
  | .unexpectedValue given => "Option " ++ Text.quote given ++ " does not take a value."
  | .noCommand => "Missing command."
  | .unknownCommand given similar =>
    "No such command " ++ Text.quote given ++ "." ++ suggestion similar
  | .notInteger given value =>
    "Invalid value for " ++ Text.quote given ++ ": " ++ Text.quote value ++
      " is not a valid integer."
  | .unexpectedArguments first [] => "Got unexpected extra argument (" ++ first ++ ")"
  | .unexpectedArguments first others =>
    "Got unexpected extra arguments (" ++ " ".intercalate (first :: others) ++ ")"

/-- Whether the usage of the command is printed before the message. It is not where an option alone
is at fault. -/
def showsUsage : UsageFault → Bool
  | .missingValue _ | .unexpectedValue _ => false
  | _ => true

def report (command : Command) (fault : UsageFault) : String :=
  (if fault.showsUsage then
    command.usage ++ "Try '" ++ command.path ++ " --help' for help.\n\n"
  else "") ++ "Error: " ++ fault.message ++ "\n"

end UsageFault

end LayeredConfig.CommandLine
