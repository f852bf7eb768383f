import Formula.Command
import Formula.Input
import Formula.Presentation

/-! Sessions: expressions and commands, line by line, until one of them ends it or no more come. A session
takes its lines from wherever they come and says what it says wherever a console can be carried out. -/
namespace Formula.Session

/-- The name under which lines are read. -/
def sourceName : String := "repl"

def versionLine : String := "parsegate 0.1.0"

def greeting : String := versionLine ++ " (type :help for commands)\n\n"

/-- Said when there are no more lines. -/
def farewell : String := "CTRL-D\n"

/-- Said when a line cannot be read. -/
def brokenOff (fault : ReadFault) : String := "Error: Io(" ++ fault.record ++ ")\n"

/-- Carry out a line. The answer is the settings to go on with, if the session goes on. -/
def step (limit : Limit) (settings : Settings) (line : String) : Console (Option Settings) := do
  if line.toList.all isSpace then
    return some settings
  let turn := settings.dispatch line
  Console.print turn.output
  match turn.result with
  | .ok .source =>
    let _ ← readAndShow limit settings sourceName line
    return some settings
  | .ok .handled => return some turn.settings
  | .ok .quit => return none
  | .error error =>
    Console.complain (error.message ++ "\n")
    return some turn.settings

/-- Carry out what comes of asking for a line. One that cannot be read ends the session. -/
def round (limit : Limit) (settings : Settings) : Except ReadFault String → Console (Option Settings)
  | .ok line => step limit settings line
  | .error fault => do
    Console.print (brokenOff fault)
    return none

section Loop

variable {m : Type → Type} [Monad m] [MonadLiftT Console m] {ρ : Type}
  [ForIn m ρ (Except ReadFault String)]

/-- Carry out lines as they come, until the session ends or no more come. -/
def converse (limit : Limit) (initial : Settings) (lines : ρ) : m Unit := do
  let mut settings := initial
  for line in lines do
    match ← round limit settings line with
    | some next => settings := next
    | none => return
  Console.print farewell

/-- A whole session. -/
def hold (limit : Limit) (settings : Settings) (lines : ρ) : m Unit := do
  Console.print greeting
  converse limit settings lines

end Loop

/-- A whole session over lines that are at hand. -/
def run (limit : Limit) (settings : Settings) (lines : List (Except ReadFault String)) : Console Unit :=
  hold limit settings lines

/-- The lines of an input. Each keeps its line feed, and the last one counts if it is not empty. -/
def linesOf : Except ReadFault (List UInt8) → List (Except ReadFault String)
  | .ok bytes => ((splitAfter (· = 10) bytes).filter (!·.isEmpty)).map readText
  | .error fault => [.error fault]

end Formula.Session
