import Formula.CommandLine.Reader
import Formula.Input
import Formula.Session

/-! The program as a whole: what it prints and how it ends, for a command line, on a host that may be the
system or may be known in full beforehand. -/
namespace Formula

/-- How the program gets at what lies around it. -/
structure Host (m : Type → Type) (ρ : Type) where
  /-- The bytes of an input. -/
  content : String → m (Except ReadFault (List UInt8))
  /-- The lines of standard input. -/
  lines : ρ
  /-- Keep the lines of a session for later. -/
  saveHistory : m (Except ReadFault Unit)

inductive ProgramError where
  | unreadable (name : String) (fault : ReadFault)
  | historyLost (fault : ReadFault)
  deriving DecidableEq, Repr

def ProgramError.message : ProgramError → String
  | unreadable name fault => "failed to read " ++ name ++ ": " ++ fault.message
  | historyLost fault => fault.message

namespace Program

/-- A dash stands for standard input. -/
def isStandardInput (input : String) : Bool := input = "-"

/-- The name of an input in diagnostics. -/
def sourceName (input : String) : String :=
  if isStandardInput input then "<stdin>" else input

/-- The name of an input that cannot be read. -/
def inputName (input : String) : String :=
  if isStandardInput input then "stdin" else input

/-- The text of an input, by what has come of reading its bytes. -/
def readInput (input : String) (content : Except ReadFault (List UInt8)) : Except ProgramError String :=
  match content >>= readText with
  | .ok text => .ok text
  | .error fault => .error (.unreadable (inputName input) fault)

/-- What is said last about the outcome of a task, and the exit code. -/
def conclude : Except ProgramError Bool → String × Nat
  | .ok true => ("",0)
  | .ok false => ("",1)
  | .error error => ("Error: " ++ error.message ++ "\n",2)

end Program

namespace Host

variable {m : Type → Type} [Monad m] [MonadLiftT Console m] {ρ : Type}
  [ForIn m ρ (Except ReadFault String)]

/-- Read one input and show what comes of it. -/
def parse (host : Host m ρ) (limit : Limit) (settings : Settings) (input : String) :
    m (Except ProgramError Bool) := do
  match Program.readInput input (← host.content input) with
  | .error error => return .error error
  | .ok text => return .ok (← readAndShow limit settings (Program.sourceName input) text)

/-- Hold a session over standard input. -/
def repl (host : Host m ρ) (limit : Limit) (settings : Settings) : m (Except ProgramError Bool) := do
  Session.hold limit settings host.lines
  match ← host.saveHistory with
  | .ok () => return .ok true
  | .error fault => return .error (.historyLost fault)

/-- Carry out a task. The answer is whether the input was an expression; a session always is. -/
def execute (host : Host m ρ) (options : Options) : m (Except ProgramError Bool) :=
  match options.task with
  | .parse input => host.parse options.limit options.settings input
  | .repl => host.repl options.limit options.settings

/-- Carry out a task, and complain if that fails. The answer is the exit code. -/
def exit (host : Host m ρ) (options : Options) : m Nat := do
  let (complaint,code) := Program.conclude (← host.execute options)
  Console.complain complaint
  return code

end Host

/-- What the program finds around it, if all of that is known beforehand. -/
structure Surroundings where
  /-- What comes of reading standard input. -/
  input : Except ReadFault (List UInt8)
  read : String → Except ReadFault (List UInt8)
  /-- What comes of keeping the lines of a session for later. -/
  saveHistory : Except ReadFault Unit

namespace Program

/-- The bytes of an input. -/
def content (around : Surroundings) (input : String) : Except ReadFault (List UInt8) :=
  if isStandardInput input then around.input else around.read input

/-- The host that these surroundings make, on which all that is printed goes to a transcript. -/
def host (around : Surroundings) : Host Console (List (Except ReadFault String)) where
  content input := return content around input
  lines := Session.linesOf around.input
  saveHistory := return around.saveHistory

def parse (around : Surroundings) (limit : Limit) (settings : Settings) (input : String) :
    Console (Except ProgramError Bool) :=
  (host around).parse limit settings input

def execute (around : Surroundings) (options : Options) : Console (Except ProgramError Bool) :=
  (host around).execute options

/-- Carry out a task from an empty transcript on: the transcript and the exit code. -/
def exit (around : Surroundings) (options : Options) : Transcript × Nat :=
  (((host around).exit options).run .empty).swap

end Program
end Formula
