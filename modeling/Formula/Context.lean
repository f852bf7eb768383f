import Formula.Failure
import Formula.Matched

/-! What grammar rules are handed: the position as it is at the moment, a way to build errors there, and
the parser they belong to. Asking for a coordinate is an action, and nothing is remembered of it. -/
namespace Formula

/-- A kind of error says how errors of type `ε` are built. -/
class ErrorKind (κ : Type) (ε : outParam Type) where
  construct : κ → String → Position → ε

/-- Kinds of error that can be shown in one line. -/
class Summary (κ : Type) where
  summary : κ → String

/-- The kind of error where no other is asked for. -/
structure SyntaxError where
  deriving DecidableEq, Repr

/-- It builds plain failures. -/
instance : ErrorKind SyntaxError Failure where
  construct _ message position := ⟨message,position⟩

instance : Summary SyntaxError := ⟨fun _ => "SyntaxError"⟩

structure Context (m : Type → Type) (π κ : Type) where
  parser : π
  lineNumber : m Nat
  columnNumber : m Nat
  errorKind : κ

namespace Context

variable {m : Type → Type} [Monad m] {π κ ε : Type}

/-- A context whose kind of error is made on the spot, once. -/
def withFactory (parser : π) (line column : m Nat) (factory : m κ) : m (Context m π κ) := do
  let kind ← factory
  return ⟨parser,line,column,kind⟩

/-- Build an error at the position of the moment. The line is asked for first. -/
def error [ErrorKind κ ε] (context : Context m π κ) (message : String) : m ε := do
  let line ← context.lineNumber
  let column ← context.columnNumber
  return ErrorKind.construct context.errorKind message ⟨line,column⟩

/-- The text of a matched fragment, which is the same in every context. -/
def normalize {α : Type} [Matchable α] (_ : Context m π κ) (value : α) : String :=
  Formula.normalize value

/-- A context in one line. Only the kind of error is shown. -/
def summary [Summary κ] (context : Context m π κ) : String :=
  "GrammarContext \x7b error_kind: " ++ Summary.summary context.errorKind ++ ", .. \x7d"

end Context
end Formula
