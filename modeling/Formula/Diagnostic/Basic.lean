import Formula.Failure
import Formula.Text.Lines

/-! Diagnostics: a failure pinned to a range of bytes of the text it is about. -/
namespace Formula

/-- A range of bytes with a remark. -/
structure Label where
  start : Nat
  stop : Nat
  message : String
  deriving DecidableEq, Repr

structure Diagnostic where
  message : String
  labels : List Label
  notes : List String
  deriving DecidableEq, Repr

/-- A text and the name it goes by. -/
structure Source where
  name : String
  text : String
  deriving DecidableEq, Repr

namespace Diagnostic

def severity : String := "error"

def code : String := "E001"

/-- What is said instead of a label. -/
def noPosition : String := "the parser did not report a usable source position"

end Diagnostic

namespace Source

/-- The name of a text that has none of its own. -/
def anonymous : String := "<input>"

def chars (source : Source) : List Char := source.text.toList

/-- The bytes of the character at a position. A column behind the line stands for the end of its
content, and there, as on a line end, the range is empty. -/
def span (source : Source) (position : Position) : Option (Nat × Nat) :=
  if position.line = 0 then none
  else match (lines source.chars)[position.line - 1]? with
    | none => none
    | some line =>
      let skip := max position.column 1 - 1
      let start :=
        if skip < line.text.length then
          min (line.start + byteLength (line.text.take skip)) line.contentEnd
        else line.contentEnd
      match dropBytes? start source.chars with
      | some (c :: _) => some (start,if c = '\n' || c = '\r' then start else start + c.utf8Size)
      | _ => some (start,start)

/-- The diagnostic of a failure: a label where its position lies in the text, else a note. -/
def diagnostic (source : Source) (failure : Failure) : Diagnostic :=
  match source.span failure.position with
  | some (start,stop) =>
    ⟨failure.message,[⟨start,stop,"line " ++ toString failure.position.line ++ ", column "
      ++ toString failure.position.column⟩],[]⟩
  | none => ⟨failure.message,[],[Diagnostic.noPosition]⟩

/-- A text in one line: its name and its size. -/
def summary (source : Source) : String :=
  "ErrorReporter \x7b name: " ++ quoted source.name ++ ", source_len: "
    ++ toString source.text.utf8ByteSize ++ " \x7d"

end Source
end Formula
