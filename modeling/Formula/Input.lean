import Formula.Text.Quoted
import Formula.Text.Utf8

/-! Inputs: their bytes as a text, and why they cannot be read. -/
namespace Formula

/-- Why an input cannot be read. -/
inductive ReadFault where
  | missing
  | isFolder
  | notFolder
  /-- A part of the path is longer than a name may be. -/
  | nameTooLong
  /-- The path holds a NUL, which no path may. -/
  | badPath
  /-- The bytes are not UTF-8. -/
  | notText
  /-- Any other reason, in the words of the system. -/
  | system (reason : String)
  deriving DecidableEq, Repr

def ReadFault.message : ReadFault → String
  | missing => "No such file or directory (os error 2)"
  | isFolder => "Is a directory (os error 21)"
  | notFolder => "Not a directory (os error 20)"
  | nameTooLong => "File name too long (os error 36)"
  | badPath => "file name contained an unexpected NUL byte"
  | notText => "stream did not contain valid UTF-8"
  | system reason => reason

/-- A fault as a record in one line. Faults of the system show their codes. -/
def ReadFault.record : ReadFault → String
  | missing => coded 2 "NotFound" "No such file or directory"
  | isFolder => coded 21 "IsADirectory" "Is a directory"
  | notFolder => coded 20 "NotADirectory" "Not a directory"
  | nameTooLong => coded 36 "InvalidFilename" "File name too long"
  | badPath => plain "InvalidInput" "file name contained an unexpected NUL byte"
  | notText => plain "InvalidData" "stream did not contain valid UTF-8"
  | system reason => plain "Other" reason
where
  coded (code : Nat) (kind text : String) : String :=
    "Os \x7b code: " ++ toString code ++ ", kind: " ++ kind ++ ", message: " ++ quoted text ++ " \x7d"
  plain (kind text : String) : String :=
    "Error \x7b kind: " ++ kind ++ ", message: " ++ quoted text ++ " \x7d"

/-- Bytes as a text. -/
def readText (bytes : List UInt8) : Except ReadFault String :=
  match textOf? bytes with
  | some text => .ok text
  | none => .error .notText

end Formula
