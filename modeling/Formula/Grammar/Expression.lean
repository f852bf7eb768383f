import Formula.Grammar.Rule
import Formula.Token

/-! The rules of arithmetic expressions:

    expression  ->  term (("+" | "-") term)*
    term        ->  factor (("*" | "/") factor)*
    factor      ->  "-" factor | number | identifier | "(" expression ")"

A minus sign in front of a factor and a pair of parentheses each open a level of nesting. -/
namespace Formula.Grammar

/-- Operands with operators between them, grouped to the left. -/
def leftAssociative (depth : Nat) (among : List Operator) (operand : Rule Expr) : Rule Expr := do
  let first ← operand
  Rule.repeated (fun left => do
    let (_,operator) ← Rule.token depth (Token.operator among)
    let right ← operand
    return .operation operator left right) first

def term (depth : Nat) (factor : Rule Expr) : Rule Expr :=
  leftAssociative depth [.mul, .div] factor

def expression (depth : Nat) (factor : Rule Expr) : Rule Expr :=
  leftAssociative depth [.add, .sub] (term depth factor)

/-- A minus sign and what it negates. -/
def negation (depth : Nat) (operand : Rule Expr) : Rule Expr := do
  let (position,_) ← Rule.token depth (Token.char '-')
  let operand ← operand
  return .negate operand position

def number (depth : Nat) : Rule Expr := do
  let (position,value) ← Rule.token depth Token.number
  return .number value position

def identifier (depth : Nat) : Rule Expr := do
  let (position,name) ← Rule.token depth Token.identifier
  return .identifier name position

/-- Parentheses leave no node of their own. -/
def parenthesized (depth : Nat) (inner : Rule Expr) : Rule Expr := do
  let _ ← Rule.token depth (Token.char '(')
  let value ← inner
  let _ ← Rule.token (depth + 1) (Token.char ')')
  return value

/-- A factor whose own factors, one level further in, are read by `deeper`. -/
def factorOver (depth : Nat) (operand inner : Rule Expr) : Rule Expr :=
  negation depth operand <|> number depth <|> identifier depth <|> parenthesized depth inner

/-- A factor at a depth of nesting below which `spare` more levels may be opened. -/
def factor : (spare depth : Nat) → Rule Expr
  | 0, depth => factorOver depth .tooDeep .tooDeep
  | spare + 1, depth =>
    factorOver depth (factor spare (depth + 1))
      (expression (depth + 1) (factor spare (depth + 1)))

/-- A whole expression that may open `levels` levels of nesting. -/
def program (levels : Nat) : Rule Expr := expression 0 (factor levels 0)

end Formula.Grammar
