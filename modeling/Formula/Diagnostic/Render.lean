import Formula.Diagnostic.Basic
import Formula.Diagnostic.Sheet
import Formula.Text.Width

/-! How a diagnostic is drawn: a headline, then the line of the text with carets under the label, or
the notes where there is no label. -/
namespace Formula.Diagnostic

/-- A source line as it is drawn: nothing of its line end, and no NUL at its end either. -/
def drawnText (text : List Char) : List Char :=
  (text.reverse.dropWhile fun c => c = '\n' || c = '\r' || c.toNat = 0).reverse

/-- A character of a line, or the end of the line: the byte it starts at and how much it takes. -/
structure Cell where
  char : Char
  start : Nat
  size : Nat
  width : Nat
  deriving DecidableEq, Repr

/-- The cells of characters that come with their widths, the first at byte `start`. -/
def cellsFrom (start : Nat) : List (Char × Nat) → List Cell
  | [] => []
  | (c,width) :: rest => ⟨c,start,c.utf8Size,width⟩ :: cellsFrom (start + c.utf8Size) rest

namespace Cell

/-- The cell shares a byte with the range. -/
def overlaps (cell : Cell) (first last : Nat) : Bool :=
  first < cell.start + cell.size && cell.start < last

def blanks (width : Nat) : String := "".pushn ' ' width

/-- Tabs are drawn as the spaces they take. -/
def drawn (cell : Cell) : String :=
  if cell.char = '\t' then blanks cell.width else cell.char.toString

/-- Carets under the range, blanks in front of it, nothing behind it. -/
def caret (cell : Cell) (first last : Nat) : String :=
  if cell.overlaps first last then "".pushn '^' cell.width
  else if cell.start < last then blanks cell.width
  else ""

end Cell

/-- The line, and the row of carets under it. The carets may stand one column behind the line. -/
def snippet (line : Line) (label : Label) : Sheet × Sheet :=
  let text := drawnText line.text
  let first := label.start
  let last := max label.stop (first + 1)
  let cells := cellsFrom line.start (withWidths 0 text)
  let finish : Cell := ⟨' ',line.start + byteLength text,1,1⟩
  (Sheet.shade false (cells.map fun cell => (cell.drawn,cell.overlaps first last)),
    Sheet.shade false ((cells ++ [finish]).map fun cell =>
      (cell.caret first last,cell.overlaps first last)))

def headline (diagnostic : Diagnostic) : Sheet :=
  [.dip .header, .write (severity ++ "[" ++ code ++ "]"), .dip .message,
    .write (": " ++ diagnostic.message), .wipe, .write "\n"]

/-- The source line of a label in its frame. The line and column shown are those of its first byte. -/
def labelRows (source : Source) (label : Label) : Sheet :=
  let (number,line) := lineAt source.chars label.start
  let position := locate source.chars label.start
  let digits := toString number
  let gutter : Sheet := [.write (Cell.blanks (digits.length + 1))]
  let (text,carets) := snippet line label
  let locus := " " ++ source.name ++ ":" ++ toString position.line ++ ":" ++ toString position.column
  gutter ++ Sheet.inInk .border "┌─" ++ [.write (locus ++ "\n")]
    ++ gutter ++ Sheet.inInk .border "│" ++ [.write "\n"]
    ++ Sheet.inInk .border digits ++ [.write " "] ++ Sheet.inInk .border "│" ++ [.write " "]
    ++ text ++ [.write "\n"]
    ++ gutter ++ Sheet.inInk .border "│" ++ [.write " "] ++ carets ++ [.write " "]
    ++ Sheet.inInk .mark label.message ++ [.write "\n"]

def noteRow (note : String) : Sheet :=
  [.write " "] ++ Sheet.inInk .border "=" ++ [.write (" " ++ note ++ "\n")]

/-- The whole drawing, with an empty line at its end. -/
def draw (source : Source) (diagnostic : Diagnostic) : Sheet :=
  diagnostic.headline ++ diagnostic.labels.flatMap (labelRows source)
    ++ diagnostic.notes.flatMap noteRow ++ [.write "\n"]

end Formula.Diagnostic

namespace Formula.Source

/-- The drawing of a failure over its source. -/
def sheet (source : Source) (failure : Failure) : Sheet :=
  (source.diagnostic failure).draw source

/-- The drawing as text, with colors or without. -/
def render (source : Source) (colored : Bool) (failure : Failure) : String :=
  (source.sheet failure).shown colored

/-- Report a failure to a sink. A sink that fails is no failure of the report. -/
def report (source : Source) (colored : Bool) (failure : Failure) (sink : Sink) :
    List UInt8 × Sink :=
  sink.draw colored (source.sheet failure)

/-- Report failures one after the other: the bytes that each of them got through. -/
def reportAll (source : Source) (colored : Bool) : List Failure → Sink → List (List UInt8)
  | [], _ => []
  | failure :: more, sink =>
    let (taken,next) := source.report colored failure sink
    taken :: source.reportAll colored more next

end Formula.Source
