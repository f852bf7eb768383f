import Formula.Console
import Formula.Diagnostic.Render
import Formula.Expr.Outline
import Formula.Expr.Printer
import Formula.Front
import Formula.Settings

/-! Reading a text and showing what comes of it, as the settings say. -/
namespace Formula

/-- A tree in outline or in compact form. -/
def Expr.present (settings : Settings) (tree : Expr) : String :=
  if settings.isEnabled .debug then tree.outline else tree.compact

/-- Reports go to standard error, in color if the setting says so. The console is one that can show colors:
with no `TERM`, with a `dumb` one or with a `NO_COLOR` in the environment, a program would leave them out
whatever the setting says, and the environment is not looked at here. -/
def consoleReporter (name : String) (settings : Settings) (text : String) :
    Console (Failure → Console Unit) :=
  return fun failure =>
    Console.complain (Source.render ⟨name,text⟩ (settings.isEnabled .color) failure)

/-- Read a text under a name and print its tree; the answer is whether it is an expression. -/
def readAndShow (limit : Limit) (settings : Settings) (name text : String) : Console Bool := do
  let front : Front Console Expr := ⟨arithmetic limit,consoleReporter name settings⟩
  match ← front.parse text with
  | some tree =>
    Console.print (tree.present settings ++ "\n")
    return true
  | none => return false

end Formula
