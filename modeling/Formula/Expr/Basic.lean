import Formula.Number.Binary64
import Formula.Text.Position

/-! Arithmetic expressions. Every node keeps the position at which it starts. -/
namespace Formula

inductive Operator where
  | add | sub | mul | div
  deriving DecidableEq, Repr

namespace Operator

def symbol : Operator → Char
  | add => '+'
  | sub => '-'
  | mul => '*'
  | div => '/'

def name : Operator → String
  | add => "Add"
  | sub => "Sub"
  | mul => "Mul"
  | div => "Div"

end Operator

inductive Expr where
  | number (value : Binary64) (position : Position)
  | identifier (name : String) (position : Position)
  | negate (operand : Expr) (position : Position)
  | binary (operator : Operator) (left right : Expr) (position : Position)
  deriving DecidableEq, Repr

namespace Expr

/-- The position that a node keeps. -/
def position : Expr → Position
  | number _ p => p
  | identifier _ p => p
  | negate _ p => p
  | binary _ _ _ p => p

/-- An operation on two operands. It starts where the left one does. -/
def operation (operator : Operator) (left right : Expr) : Expr :=
  .binary operator left right left.position

/-- The nodes of a tree in preorder. -/
def nodes : Expr → List Expr
  | e@(number ..) => [e]
  | e@(identifier ..) => [e]
  | e@(negate operand _) => e :: operand.nodes
  | e@(binary _ left right _) => e :: (left.nodes ++ right.nodes)

/-- Equality of trees, positions included, in which numbers are compared by value. -/
def equals : Expr → Expr → Bool
  | number x p, number y q => x.equals y && p = q
  | identifier x p, identifier y q => x = y && p = q
  | negate x p, negate y q => x.equals y && p = q
  | binary f a b p, binary g c d q => f = g && a.equals c && b.equals d && p = q
  | _, _ => false

end Expr
end Formula
