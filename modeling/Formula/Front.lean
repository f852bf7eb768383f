import Formula.Failure
import Formula.Parse

/-! A front that reads texts with any engine. Whatever goes wrong in the engine stays behind the front:
it is reported once, and the caller gets no tree. -/
namespace Formula

/-- What an engine throws when it breaks down. -/
inductive Payload where
  /-- A text known beforehand. -/
  | fixed (text : String)
  /-- A text made up when it happened. -/
  | built (text : String)
  /-- Something that is no text. -/
  | other
  deriving DecidableEq, Repr

/-- What comes of giving a text to an engine. -/
inductive Answer (τ : Type) where
  | tree (value : τ)
  | failed (complaint : Complaint)
  | crashed (payload : Payload)
  deriving DecidableEq, Repr

def Payload.message : Payload → String
  | fixed text => "parser engine panicked: " ++ text
  | built text => "parser engine panicked: " ++ text
  | other => "parser engine panicked"

/-- The tree, or the failure to report. -/
def Answer.result {τ : Type} : Answer τ → Except Failure τ
  | tree value => .ok value
  | failed complaint => .error (.ofComplaint complaint)
  | crashed payload => .error ⟨payload.message,Failure.nowhere⟩

/-- What an engine may be held by. -/
inductive Holder where
  | reference
  | box
  deriving DecidableEq, Repr

section Holders

variable {m : Type → Type} {τ : Type}

/-- Whatever holds an engine hands every text on to it. -/
def Holder.hand (_ : Holder) (engine : String → m (Answer τ)) (source : String) : m (Answer τ) :=
  engine source

/-- An engine behind any number of holders, the outermost first. -/
def held (holders : List Holder) (engine : String → m (Answer τ)) : String → m (Answer τ) :=
  holders.foldr Holder.hand engine

end Holders

/-- An engine, and how to open a reporter for a text. -/
structure Front (m : Type → Type) (τ : Type) where
  engine : String → m (Answer τ)
  reporter : String → m (Failure → m Unit)

namespace Front

variable {m : Type → Type} [Monad m] {τ : Type}

/-- Read a text; a failure goes to a reporter that is opened for this text. -/
def parse (front : Front m τ) (source : String) : m (Option τ) := do
  let answer ← front.engine source
  match answer.result with
  | .ok tree => return some tree
  | .error failure =>
    let report ← front.reporter source
    report failure
    return none

end Front

/-- The failure that a rejected text is reported with. -/
def Rejection.failure (rejection : Rejection) : Failure :=
  ⟨rejection.cause.message,rejection.position⟩

/-- The engine that reads arithmetic expressions. -/
def arithmetic {m : Type → Type} [Monad m] (limit : Limit) (source : String) : m (Answer Expr) :=
  return match Formula.parse limit source with
    | .ok tree => .tree tree
    | .error rejection => .failed rejection.failure.complaint

end Formula
