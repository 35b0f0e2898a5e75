import LayeredConfig.CommandLine.UsageFault

/-!
The arguments of a command, divided into options and the rest. An argument of more than one
character that begins with a hyphen is an option; two hyphens alone end the options. The value of an
option may stand behind an equals sign or, for a letter, directly behind it, and is the next
argument otherwise. Of several values of one option the last counts.
-/

namespace LayeredConfig.CommandLine

/-- The arguments of a command as they are understood. -/
structure Arguments where
  /-- The values of options by their words, in the order in which they were given. -/
  values : List (String × String)
  wantsHelp : Bool
  rest : List String
deriving DecidableEq, Repr

namespace Arguments

def value? (arguments : Arguments) (word : String) : Option String :=
  (arguments.values.reverse.find? (·.1 == word)).map Prod.snd

end Arguments

/-- What an argument that begins with a hyphen asks for. -/
inductive Recognized where
  | help
  /-- An option, the way in which it was given, and its value if that is part of the argument. -/
  | option (word given : String) (value : Option String)

/-- Divides an argument at its first equals sign. -/
def splitValue (argument : String) : String × Option String :=
  match argument.toList.dropWhile (· != '=') with
  | [] => (argument, none)
  | _ :: value => (String.ofList (argument.toList.takeWhile (· != '=')), some (String.ofList value))

def isOption (argument : String) : Bool :=
  match argument.toList with
  | '-' :: _ :: _ => true
  | _ => false

namespace Command

def recognizeLetter (command : Command) (letter : Char) (value : List Char) :
    Except UsageFault Recognized :=
  let given := String.ofList ['-', letter]
  match command.options.find? (·.letter == some letter) with
  | some form =>
    .ok (.option form.word given (if value.isEmpty then none else some (String.ofList value)))
  | none => .error (.unknownOption given [])

def recognize (command : Command) (argument : String) : Except UsageFault Recognized :=
  let (given, value) := splitValue argument
  if given = helpOption.1 then
    if value.isSome then .error (.unexpectedValue given) else .ok .help
  else
    match command.options.find? (·.word == given) with
    | some form => .ok (.option form.word given value)
    | none =>
      match argument.toList with
      | '-' :: '-' :: _ =>
        .error (.unknownOption given (Text.closeMatches given command.words))
      | '-' :: letter :: value => command.recognizeLetter letter value
      | _ => .error (.unknownOption given [])

def divide (command : Command) : List String → Except UsageFault Arguments
  | [] => .ok ⟨[], false, []⟩
  | argument :: others =>
    if argument = "--" then .ok ⟨[], false, others⟩
    else if isOption argument then
      match command.recognize argument, others with
      | .error fault, _ => .error fault
      | .ok .help, others =>
        (command.divide others).map fun a => { a with wantsHelp := true }
      | .ok (.option word _ (some value)), others =>
        (command.divide others).map fun a => { a with values := (word, value) :: a.values }
      | .ok (.option _ given none), [] => .error (.missingValue given)
      | .ok (.option word _ none), value :: others =>
        (command.divide others).map fun a => { a with values := (word, value) :: a.values }
    else if !command.commands.isEmpty then .ok ⟨[], false, argument :: others⟩
    else (command.divide others).map fun a => { a with rest := argument :: a.rest }

end Command

end LayeredConfig.CommandLine
