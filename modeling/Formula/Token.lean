import Formula.Expr.Basic
import Formula.Matched

/-! Tokens: what may stand at the head of a text. Letters and digits are those of ASCII. A reader gives
the value of a token and the number of characters it takes. -/
namespace Formula.Token

/-- One given character. -/
def char (expected : Char) : List Char → Option (Unit × Nat)
  | c :: _ => if c = expected then some ((),1) else none
  | [] => none

/-- The sign of one of the given operators. -/
def operator (among : List Operator) : List Char → Option (Operator × Nat)
  | c :: _ => (among.find? (·.symbol = c)).map (·,1)
  | [] => none

/-- The longest run of characters of a class, if there are any. -/
def run (good : Char → Bool) (text : List Char) : Option (List Char) :=
  let taken := text.takeWhile good
  if taken.isEmpty then none else some taken

/-- The text of a number. A point belongs to it only in front of a digit. -/
def numeral (text : List Char) : Option (List Char) := do
  let whole ← run Char.isDigit text
  match text.drop whole.length with
  | '.' :: tail =>
    match run Char.isDigit tail with
    | some fraction => return whole ++ '.' :: fraction
    | none => return whole
  | _ => return whole

/-- A number. There is none if its text cannot be converted. -/
def number (text : List Char) : Option (Binary64 × Nat) := do
  let taken ← numeral text
  let value ← Binary64.ofDecimal? taken
  return (value,taken.length)

/-- A piece of an identifier: a run of characters of a class, or one underscore. -/
def fragment (good : Char → Bool) (text : List Char) : Option (List Char) :=
  run good text <|> if text.head? = some '_' then some ['_'] else none

/-- Fewer than `rounds` fragments of letters and digits, one behind the other. There is no result if
there are more, or if one of them takes nothing. -/
def fragmentsWithin : (rounds : Nat) → List Char → Option (List (List Char))
  | 0, _ => none
  | rounds + 1, text =>
    match fragment Char.isAlphanum text with
    | none => some []
    | some piece =>
      let rest := text.drop piece.length
      if rest = text then none else (fragmentsWithin rounds rest).map (piece :: ·)

/-- All fragments up to the first character that is in none. As each takes a character, there are no more
of them than that. -/
def fragments (text : List Char) : Option (List (List Char)) :=
  fragmentsWithin (text.length + 1) text

/-- An identifier starts with a fragment of letters, and is named by all its fragments together. -/
def identifier (text : List Char) : Option (String × Nat) := do
  let head ← fragment Char.isAlpha text
  let tail ← fragments (text.drop head.length)
  return (normalize ((head :: tail).map String.ofList),(head :: tail).flatten.length)

end Formula.Token
