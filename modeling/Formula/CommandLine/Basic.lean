import Formula.Limit
import Formula.Settings

/-! What a command line asks for, and why one may not be carried out. -/
namespace Formula

/-- The two tasks of the program. -/
inductive Task where
  /-- Read the named input once. -/
  | parse (input : String)
  /-- Hold a session. -/
  | repl
  deriving DecidableEq, Repr

structure Options where
  noColor : Bool
  debug : Bool
  maxDepth : Nat
  task : Task
  deriving DecidableEq, Repr

namespace Options

def settings (options : Options) : Settings :=
  (Settings.standard.set .color !options.noColor).set .debug options.debug

def limit (options : Options) : Limit := .ofRequest options.maxDepth

end Options

/-- Why a command line names no task to carry out. -/
inductive Usage where
  | displayHelp
  | displayVersion
  | missingTask
  | emptyValue
  | badValue
  | tooManyValues
  | repeatedOption
  | missingInput
  | unknownWord
  | misspeltTask
  | unknownTopic
  deriving DecidableEq, Repr

namespace Usage

def kind : Usage → String
  | displayHelp => "DisplayHelp"
  | displayVersion => "DisplayVersion"
  | missingTask => "DisplayHelpOnMissingArgumentOrSubcommand"
  | emptyValue => "EmptyValue"
  | badValue => "ValueValidation"
  | tooManyValues => "TooManyValues"
  | repeatedOption => "UnexpectedMultipleUsage"
  | missingInput => "MissingRequiredArgument"
  | unknownWord => "UnknownArgument"
  | misspeltTask => "InvalidSubcommand"
  | unknownTopic => "UnrecognizedSubcommand"

/-- Asking for help or for the version is no mistake. -/
def exitCode : Usage → Nat
  | displayHelp => 0
  | displayVersion => 0
  | _ => 2

end Usage
end Formula
