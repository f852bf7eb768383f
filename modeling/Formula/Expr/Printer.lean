import Formula.Expr.Basic
import Formula.Number.Written

/-! The compact form of an expression: every operation in parentheses, the operator in front. -/
namespace Formula.Expr

def compact : Expr → String
  | number value _ => value.plain
  | identifier name _ => name
  | negate operand _ => "(- " ++ operand.compact ++ ")"
  | binary operator left right _ =>
    "(" ++ operator.symbol.toString ++ " " ++ left.compact ++ " " ++ right.compact ++ ")"

end Formula.Expr
