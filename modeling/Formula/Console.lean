/-! What a program prints, kept apart by where it goes. -/
namespace Formula

structure Transcript where
  out : String
  err : String
  deriving DecidableEq, Repr

namespace Transcript

def empty : Transcript := ⟨"",""⟩

def append (a b : Transcript) : Transcript := ⟨a.out ++ b.out,a.err ++ b.err⟩

instance : Append Transcript := ⟨append⟩

end Transcript

/-- A computation that prints. -/
abbrev Console := StateM Transcript

namespace Console

/-- Print to standard output. -/
def print (text : String) : Console Unit :=
  modify fun transcript => { transcript with out := transcript.out ++ text }

/-- Print to standard error. -/
def complain (text : String) : Console Unit :=
  modify fun transcript => { transcript with err := transcript.err ++ text }

end Console
end Formula
