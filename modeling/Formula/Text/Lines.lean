import Formula.Text.Position

/-! The lines of a text. A line ends behind its line feed; behind the last line feed one more line
starts, which may be empty. -/
namespace Formula

/-- A list cut behind every element that ends a piece. The last piece may be empty. -/
def splitAfter {α : Type} (ends : α → Bool) : List α → List (List α)
  | [] => [[]]
  | a :: rest =>
    if ends a then [a] :: splitAfter ends rest
    else match splitAfter ends rest with
      | piece :: more => (a :: piece) :: more
      | [] => [[a]]

/-- Cutting loses nothing. -/
@[simp] theorem flatten_splitAfter {α : Type} (ends : α → Bool) (l : List α) :
    (splitAfter ends l).flatten = l := by
  induction l with
  | nil => rfl
  | cons a rest ih =>
    simp only [splitAfter]
    split
    · simp [ih]
    · split <;> next h => rw [h] at ih; simpa using ih

/-- A text cut behind every line feed. -/
def splitLines (text : List Char) : List (List Char) := splitAfter (· = '\n') text

/-- A line with its line end, and the byte at which it starts. -/
structure Line where
  start : Nat
  text : List Char
  deriving DecidableEq, Repr

/-- Put one text behind another, the first at byte `start`. -/
def placeLines (start : Nat) : List (List Char) → List Line
  | [] => []
  | text :: more => ⟨start,text⟩ :: placeLines (start + byteLength text) more

def lines (text : List Char) : List Line := placeLines 0 (splitLines text)

namespace Line

/-- The line without the carriage returns and line feeds at its end. -/
def content (line : Line) : List Char :=
  (line.text.reverse.dropWhile fun c => c = '\n' || c = '\r').reverse

/-- The byte behind the content. -/
def contentEnd (line : Line) : Nat := line.start + byteLength line.content

end Line

/-- The text from a byte on, if a character starts there or the text ends there. -/
def dropBytes? : Nat → List Char → Option (List Char)
  | 0, text => some text
  | _ + 1, [] => none
  | bytes + 1, c :: rest =>
    if c.utf8Size ≤ bytes + 1 then dropBytes? (bytes + 1 - c.utf8Size) rest else none

/-- The number of characters that end at or before a byte. -/
def charsWithin : Nat → List Char → Nat
  | _, [] => 0
  | bytes, c :: rest =>
    if c.utf8Size ≤ bytes then charsWithin (bytes - c.utf8Size) rest + 1 else 0

/-- The line that a byte lies in: the last one that does not start behind it. -/
def lineAt (text : List Char) (offset : Nat) : Nat × Line :=
  let before := (lines text).takeWhile (·.start ≤ offset)
  (before.length,before.getLast?.getD ⟨0,text⟩)

/-- The position of the character at a byte. -/
def locate (text : List Char) (offset : Nat) : Position :=
  let (number,line) := lineAt text offset
  ⟨number,charsWithin (offset - line.start) line.text + 1⟩

end Formula
