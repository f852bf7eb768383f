import Formula.Expr.Basic
import Formula.Number.Written
import Formula.Text.Quoted

/-! The outline of an expression: one field a line, four spaces a level, every position shown. -/
namespace Formula

/-- A line of text at a level of an outline. -/
def outlineLine (level : Nat) (text : String) : String :=
  "".pushn ' ' (4 * level) ++ text

/-- The outline of a position, as one field of a node. -/
def Position.outline (p : Position) (level : Nat) : List String :=
  [outlineLine level "Position \x7b",
   outlineLine (level + 1) ("line: " ++ toString p.line ++ ","),
   outlineLine (level + 1) ("column: " ++ toString p.column ++ ","),
   outlineLine level "\x7d,"]

namespace Expr

/-- The lines of an outline at a level; `mark` is what follows the last one. -/
def outlineLines (level : Nat) (mark : String) : Expr → List String
  | number value p =>
    outlineLine level "Number(" :: outlineLine (level + 1) (value.marked ++ ",")
      :: (p.outline (level + 1) ++ [outlineLine level (")" ++ mark)])
  | identifier name p =>
    outlineLine level "Identifier(" :: outlineLine (level + 1) (quoted name ++ ",")
      :: (p.outline (level + 1) ++ [outlineLine level (")" ++ mark)])
  | negate operand p =>
    outlineLine level "Negate(" :: (operand.outlineLines (level + 1) ","
      ++ p.outline (level + 1) ++ [outlineLine level (")" ++ mark)])
  | binary operator left right p =>
    outlineLine level "Binary(" :: outlineLine (level + 1) (operator.name ++ ",")
      :: (left.outlineLines (level + 1) "," ++ right.outlineLines (level + 1) ","
        ++ p.outline (level + 1) ++ [outlineLine level (")" ++ mark)])

def outline (e : Expr) : String := "\n".intercalate (e.outlineLines 0 "")

end Expr
end Formula
