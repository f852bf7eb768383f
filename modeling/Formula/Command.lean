import Formula.Settings
import Formula.Text.Blank

/-! Commands of a session: lines whose first word starts with a colon. -/
namespace Formula

inductive Command where
  | help
  | set (setting : Setting) (enabled : Bool)
  | settings
  | quit
  deriving DecidableEq, Repr

inductive CommandError where
  /-- There is no such command, or it takes other words. -/
  | invalid
  /-- The word behind `:set` has no sign. -/
  | unsigned
  /-- There is no setting of this name. -/
  | unknownSetting (lowered : String)
  deriving DecidableEq, Repr

def CommandError.message : CommandError → String
  | invalid => "Invalid command"
  | unsigned => "Setting must be a known setting and prefixed with either + or -"
  | unknownSetting lowered => Setting.unknownMessage lowered

/-- What a session does with a line. -/
inductive Dispatch where
  /-- The line is no command; it is read as an expression. -/
  | source
  | handled
  | quit
  deriving DecidableEq, Repr

namespace Command

/-- The words behind `:set`: a sign, and the name of a setting. -/
def ofSwitch (word : String) : Except CommandError Command :=
  match word.toList with
  | '+' :: name => signed true name
  | '-' :: name => signed false name
  | _ => .error .unsigned
where
  signed (enabled : Bool) (name : List Char) : Except CommandError Command :=
    match Setting.ofName (String.ofList name) with
    | .ok setting => .ok (.set setting enabled)
    | .error lowered => .error (.unknownSetting lowered)

/-- The command with these words. -/
def ofWords : List String → Except CommandError Command
  | [":help"] => .ok .help
  | [":set", word] => ofSwitch word
  | [":settings"] => .ok .settings
  | [":quit"] => .ok .quit
  | [":q"] => .ok .quit
  | _ => .error .invalid

/-- The first word starts with a colon. -/
def isCommand : List String → Bool
  | [] => false
  | word :: _ => word.toList.head? = some ':'

/-- A row of the help: the usage takes 25 columns. -/
def helpRow (usage description : String) : String :=
  usage ++ "".pushn ' ' (25 - usage.length) ++ " " ++ description ++ "\n"

def helpText : String :=
  "Available commands: \n"
    ++ helpRow ":help" "Show help on the available commands"
    ++ helpRow ":set (+|-)setting" "Enable or disable a setting"
    ++ helpRow ":settings" "Show the values of all settings"
    ++ helpRow ":quit" "Leave the REPL"
    ++ "Anything else is parsed as an arithmetic expression.\n"

/-- What a command prints. -/
def output (settings : Settings) : Command → String
  | help => helpText
  | set _ _ => ""
  | .settings => "Settings+> " ++ settings.summary ++ "\n"
  | quit => ""

/-- The settings behind a command. -/
def apply (settings : Settings) : Command → Settings
  | set setting enabled => settings.set setting enabled
  | _ => settings

def dispatch : Command → Dispatch
  | quit => .quit
  | _ => .handled

end Command

/-- What came of a line: whether it was a command, what that printed, and the settings behind it. -/
structure Turn where
  result : Except CommandError Dispatch
  output : String
  settings : Settings

/-- Carry out a line if it is a command. One that fails changes nothing. -/
def Settings.dispatch (settings : Settings) (line : String) : Turn :=
  if Command.isCommand (words line) then
    match Command.ofWords (words line) with
    | .ok command => ⟨.ok command.dispatch,command.output settings,command.apply settings⟩
    | .error error => ⟨.error error,"",settings⟩
  else ⟨.ok .source,"",settings⟩

end Formula
