import Mathlib.Tactic.Common
import Formula.Token
import Formula.Text.Blank

/-! Derivations of the grammar of arithmetic expressions, as data. A derivation knows the text it derives,
down to the blanks in front of each token, how deep it nests, and the tree it stands for. Nothing here
refers to the rules that read texts. -/
namespace Formula.Token

/-- What the name of an identifier may start with. -/
def isLetter (c : Char) : Bool := c.isAlpha || c = '_'

/-- What it may go on with. -/
def isWordChar (c : Char) : Bool := c.isAlphanum || c = '_'

end Formula.Token

namespace Formula.Grammar

/-- A run of blanks, perhaps empty. -/
@[ext] structure Gap where
  chars : List Char
  blank : ∀ c ∈ chars, isBlank c = true

/-- The text of a number: digits, and perhaps a point with more digits behind it. -/
@[ext] structure Numeral where
  whole : List Char
  fraction : List Char
  whole_ne_nil : whole ≠ []
  whole_digits : ∀ c ∈ whole, c.isDigit = true
  fraction_digits : ∀ c ∈ fraction, c.isDigit = true

/-- The text of an identifier. -/
@[ext] structure Word where
  head : Char
  tail : List Char
  head_letter : Token.isLetter head = true
  tail_word : ∀ c ∈ tail, Token.isWordChar c = true

namespace Numeral

def chars (numeral : Numeral) : List Char :=
  if numeral.fraction = [] then numeral.whole else numeral.whole ++ '.' :: numeral.fraction

def value (numeral : Numeral) : Binary64 := .ofDigits numeral.whole numeral.fraction

end Numeral

namespace Word

def chars (word : Word) : List Char := word.head :: word.tail

def name (word : Word) : String := String.ofList word.chars

end Word

/-- The two kinds of operations, by how tight they bind. -/
inductive Level where
  | term
  | expression
  deriving DecidableEq, Repr

/-- What the grammar has rules for: factors, and chains of operations of a level. -/
inductive Symbol where
  | factor
  | chain (level : Level)
  deriving DecidableEq, Repr

namespace Level

def operators : Level → List Operator
  | term => [.mul, .div]
  | expression => [.add, .sub]

/-- What stands between the operators of a level. -/
def operand : Level → Symbol
  | term => .factor
  | expression => .chain .term

end Level

/-- A tree without positions. -/
inductive Shape where
  | number (value : Binary64)
  | identifier (name : String)
  | negate (operand : Shape)
  | binary (operator : Operator) (left right : Shape)
  deriving DecidableEq, Repr

/-- The derivations of a symbol:

    factor  ->  "-" factor | number | identifier | "(" expression ")"
    chain   ->  operand (operator operand)*

A chain is told from its right end: one operand, or a shorter chain with one more operator and operand. -/
inductive Derivation : Symbol → Type where
  | number (gap : Gap) (numeral : Numeral) : Derivation .factor
  | identifier (gap : Gap) (word : Word) : Derivation .factor
  | negation (gap : Gap) (operand : Derivation .factor) : Derivation .factor
  | parentheses (gap : Gap) (inner : Derivation (.chain .expression)) (close : Gap) :
      Derivation .factor
  | single {level : Level} (operand : Derivation level.operand) : Derivation (.chain level)
  | more {level : Level} (left : Derivation (.chain level)) (gap : Gap) (operator : Operator)
      (member : operator ∈ level.operators) (right : Derivation level.operand) :
      Derivation (.chain level)

namespace Derivation

/-- The text that is derived. -/
def text : {s : Symbol} → Derivation s → List Char
  | _, number gap numeral => gap.chars ++ numeral.chars
  | _, identifier gap word => gap.chars ++ word.chars
  | _, negation gap operand => gap.chars ++ '-' :: operand.text
  | _, parentheses gap inner close =>
    gap.chars ++ '(' :: (inner.text ++ (close.chars ++ [')']))
  | _, single operand => operand.text
  | _, more left gap operator _ right => left.text ++ (gap.chars ++ operator.symbol :: right.text)

/-- The greatest number of signs and parentheses around one token. -/
def nesting : {s : Symbol} → Derivation s → Nat
  | _, number _ _ => 0
  | _, identifier _ _ => 0
  | _, negation _ operand => operand.nesting + 1
  | _, parentheses _ inner _ => inner.nesting + 1
  | _, single operand => operand.nesting
  | _, more left _ _ _ right => max left.nesting right.nesting

/-- The tree of a derivation, positions aside. Chains are grouped to the left, and parentheses leave no
node. -/
def shape : {s : Symbol} → Derivation s → Shape
  | _, number _ numeral => .number numeral.value
  | _, identifier _ word => .identifier word.name
  | _, negation _ operand => .negate operand.shape
  | _, parentheses _ inner _ => inner.shape
  | _, single operand => operand.shape
  | _, more left _ operator _ right => .binary operator left.shape right.shape

/-- The tree of a derivation whose text starts at a position. -/
def tree : {s : Symbol} → Derivation s → Position → Expr
  | _, number gap numeral, p => .number numeral.value (p.past gap.chars)
  | _, identifier gap word, p => .identifier word.name (p.past gap.chars)
  | _, negation gap operand, p =>
    .negate (operand.tree (p.past (gap.chars ++ ['-']))) (p.past gap.chars)
  | _, parentheses gap inner _, p => inner.tree (p.past (gap.chars ++ ['(']))
  | _, single operand, p => operand.tree p
  | _, more left gap operator _ right, p =>
    .operation operator (left.tree p)
      (right.tree (p.past (left.text ++ (gap.chars ++ [operator.symbol]))))

/-- Induction along a chain, from its first operand on. -/
@[elab_as_elim] theorem chain_induction {level : Level} {motive : Derivation (.chain level) → Prop}
    (single : ∀ operand, motive (.single operand))
    (more : ∀ left gap operator member right, motive left → motive (.more left gap operator member right)) :
    ∀ d, motive d
  | .single operand => single operand
  | .more left gap operator member right =>
    more left gap operator member right (chain_induction single more left)

end Derivation

/-- A whole text: an expression and the blanks behind it. -/
@[ext] structure Sentence where
  body : Derivation (.chain .expression)
  gap : Gap

namespace Sentence

def text (sentence : Sentence) : List Char := sentence.body.text ++ sentence.gap.chars

def nesting (sentence : Sentence) : Nat := sentence.body.nesting

def shape (sentence : Sentence) : Shape := sentence.body.shape

end Sentence
end Formula.Grammar

namespace Formula.Expr
open Grammar

/-- A tree with its positions left out. -/
def shape : Expr → Shape
  | number value _ => .number value
  | identifier name _ => .identifier name
  | negate operand _ => .negate operand.shape
  | binary operator left right _ => .binary operator left.shape right.shape

end Formula.Expr

namespace Formula.Grammar

@[simp] theorem Derivation.shape_tree {s : Symbol} (d : Derivation s) (p : Position) :
    (d.tree p).shape = d.shape := by
  induction d generalizing p with
  | number => rfl
  | identifier => rfl
  | negation gap operand ih => simp [tree, shape, Expr.shape, ih]
  | parentheses gap inner close ih => simp [tree, shape, ih]
  | single operand ih => simp [tree, shape, ih]
  | more left gap operator member right ihl ihr => simp [tree, shape, Expr.operation, Expr.shape, ihl, ihr]

end Formula.Grammar
