import Formula.Text.Position
import Formula.Text.Quoted

/-! Failures to read a text, as they are reported: a message and a position, with zero for every
coordinate that is not known. -/
namespace Formula

structure Failure where
  message : String
  position : Position
  deriving DecidableEq, Repr

/-- What a reader of texts may fail with: it need not know where. -/
structure Complaint where
  message : String
  line : Option Nat
  column : Option Nat
  deriving DecidableEq, Repr

namespace Failure

/-- The position of a failure that could have come about anywhere. -/
def nowhere : Position := ⟨0,0⟩

def ofComplaint (complaint : Complaint) : Failure :=
  ⟨complaint.message,complaint.line.getD 0,complaint.column.getD 0⟩

/-- A failure as a complaint that knows its position. -/
def complaint (failure : Failure) : Complaint :=
  ⟨failure.message,some failure.position.line,some failure.position.column⟩

@[simp] theorem ofComplaint_complaint (failure : Failure) :
    ofComplaint failure.complaint = failure := rfl

/-- A failure in one line, its position in front. -/
def display (failure : Failure) : String :=
  toString failure.position.line ++ ":" ++ toString failure.position.column ++ ": "
    ++ failure.message

/-- A failure as a record in one line. -/
def summary (failure : Failure) : String :=
  "ParseFailure \x7b message: " ++ quoted failure.message ++ ", line: "
    ++ toString failure.position.line ++ ", column: " ++ toString failure.position.column ++ " \x7d"

end Failure
end Formula
