import Formula.Text.Utf8

/-! Written sheets: texts and changes of ink, one after the other. A terminal shows the inks, a plain
text leaves them out. -/
namespace Formula

inductive Ink where
  /-- Bold red, for what kind of diagnostic it is. -/
  | header
  /-- Bold, for its message. -/
  | message
  /-- Blue, for frame and line numbers. -/
  | border
  /-- Red, for the place itself. -/
  | mark
  deriving DecidableEq, Repr

inductive Stroke where
  | write (text : String)
  | dip (ink : Ink)
  /-- Back to the ink of the paper. -/
  | wipe
  deriving DecidableEq, Repr

abbrev Sheet := List Stroke

/-- The escape sequence that sets every attribute back. -/
def resetCode : String := "\x1b[0m"

def Ink.code : Ink → String
  | header => resetCode ++ "\x1b[1m\x1b[38;5;9m"
  | message => resetCode ++ "\x1b[1m"
  | border => resetCode ++ "\x1b[34m"
  | mark => resetCode ++ "\x1b[31m"

namespace Stroke

def isText : Stroke → Bool
  | write _ => true
  | _ => false

/-- What a stroke leaves on a medium, with inks or without. -/
def shown (colored : Bool) : Stroke → String
  | write text => text
  | dip ink => if colored then ink.code else ""
  | wipe => if colored then resetCode else ""

end Stroke

namespace Sheet

def shown (colored : Bool) (sheet : Sheet) : String :=
  String.join (sheet.map (Stroke.shown colored))

/-- A text in one ink. -/
def inInk (ink : Ink) (text : String) : Sheet := [.dip ink, .write text, .wipe]

/-- Cells in a row; those that are marked are written in ink, which is taken up in front of a marked
cell and wiped off behind the last of a run. -/
def shade (marked : Bool) : List (String × Bool) → Sheet
  | [] => if marked then [.wipe] else []
  | (text,true) :: rest =>
    (if marked then [] else [Stroke.dip .mark]) ++ .write text :: shade true rest
  | (text,false) :: rest =>
    (if marked then [Stroke.wipe] else []) ++ .write text :: shade false rest

end Sheet

/-- A medium to write on. -/
structure Sink where
  /-- The number of bytes it still takes, if that is limited. -/
  room : Option Nat
  /-- Changes of ink are passed on and take no room. -/
  freeInk : Bool
  deriving DecidableEq, Repr

namespace Sink

/-- Write some bytes: those that are taken, the sink behind it, and whether all were taken. -/
def write (sink : Sink) (bytes : List UInt8) : List UInt8 × Sink × Bool :=
  match sink.room with
  | none => (bytes,sink,true)
  | some room =>
    (bytes.take room,{ sink with room := some (room - bytes.length) },bytes.length ≤ room)

/-- Write what a stroke leaves. A change of ink cannot fail where it is free. -/
def stroke (sink : Sink) (colored : Bool) (stroke : Stroke) : List UInt8 × Sink × Bool :=
  if sink.freeInk && !stroke.isText then (bytesOf (stroke.shown colored),sink,true)
  else sink.write (bytesOf (stroke.shown colored))

/-- Draw stroke by stroke, and stop where the sink fails. -/
def draw (sink : Sink) (colored : Bool) : Sheet → List UInt8 × Sink
  | [] => ([],sink)
  | stroke :: more =>
    match sink.stroke colored stroke with
    | (taken,next,true) =>
      let (rest,last) := next.draw colored more
      (taken ++ rest,last)
    | (taken,next,false) => (taken,next)

end Sink
end Formula
