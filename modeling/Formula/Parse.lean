import Formula.Grammar.Expression
import Formula.Limit

/-! Reading an expression from a whole text, or saying where and why that fails. -/
namespace Formula

/-- Why a text is no expression. -/
inductive Cause where
  | emptyInput
  | endOfInput
  | badToken
  | nesting
  deriving DecidableEq, Repr

def Cause.message : Cause → String
  | emptyInput => "empty input"
  | endOfInput => "unexpected end of input"
  | badToken => "unexpected token"
  | nesting => "nesting too deep"

/-- A text is turned down for a cause, at a position in it. -/
structure Rejection where
  cause : Cause
  position : Position
  deriving DecidableEq, Repr

/-- The furthest place of a trail, or the start of the text if there is none. -/
def cursor (text : List Char) (trail : List Stand) : Place :=
  (trail.map Stand.place).foldl Place.furthest (Place.start text)

/-- What was looked for in vain at a place is missing there if nothing follows, else wrong. -/
def Rejection.unexpected (place : Place) : Rejection :=
  ⟨if place.rest.isEmpty then .endOfInput else .badToken,place.position⟩

/-- Read a text as one expression. Blanks may surround it. -/
def parseText (limit : Limit) (text : List Char) : Except Rejection Expr :=
  if text.all isBlank then .error ⟨.emptyInput,.first⟩
  else
    let reply := Grammar.program limit.levels (Place.start text)
    let reached := cursor text reply.trail
    match reply.outcome with
    | .hit tree rest =>
      let left := rest.skipWhile isBlank
      if left.rest.isEmpty then .ok tree else .error (.unexpected (reached.furthest left))
    | .tooDeep => .error ⟨.nesting,reached.position⟩
    | .miss => .error (.unexpected reached)
    | .stalled => .error (.unexpected reached)

def parse (limit : Limit) (source : String) : Except Rejection Expr :=
  parseText limit source.toList

end Formula
