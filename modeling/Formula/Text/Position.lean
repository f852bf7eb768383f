/-! Places in a text: lines and columns count from one, offsets count bytes of UTF-8. -/
namespace Formula

/-- The number of bytes that `text` takes in UTF-8. -/
def byteLength : List Char → Nat
  | [] => 0
  | c :: rest => c.utf8Size + byteLength rest

@[simp] theorem byteLength_nil : byteLength [] = 0 := rfl

@[simp] theorem byteLength_cons (c : Char) (text : List Char) :
    byteLength (c :: text) = c.utf8Size + byteLength text := rfl

@[simp] theorem byteLength_append (a b : List Char) :
    byteLength (a ++ b) = byteLength a + byteLength b := by
  induction a with
  | nil => simp
  | cons c rest ih => simp [ih, Nat.add_assoc]

/-- A line and a column. Zero stands for an unknown coordinate. -/
structure Position where
  line : Nat
  column : Nat
  deriving DecidableEq, Repr

namespace Position

/-- The first character of every text stands here. -/
def first : Position := ⟨1,1⟩

/-- Both coordinates are known. -/
def isKnown (p : Position) : Bool := p.line != 0 && p.column != 0

/-- The position behind `c`: a line feed starts a line, every other character takes a column. -/
def after (p : Position) (c : Char) : Position :=
  if c = '\n' then ⟨p.line + 1,1⟩ else ⟨p.line,p.column + 1⟩

/-- The position behind a run of characters. -/
def past (p : Position) (text : List Char) : Position := text.foldl after p

@[simp] theorem past_nil (p : Position) : p.past [] = p := rfl

@[simp] theorem past_cons (p : Position) (c : Char) (text : List Char) :
    p.past (c :: text) = (p.after c).past text := rfl

@[simp] theorem past_append (p : Position) (a b : List Char) :
    p.past (a ++ b) = (p.past a).past b := by simp [past]

end Position

/-- A place in a text, with everything that is still to be read from there. -/
structure Place where
  offset : Nat
  position : Position
  rest : List Char
  deriving DecidableEq, Repr

namespace Place

def start (text : List Char) : Place := ⟨0,.first,text⟩

/-- Move over the next `n` characters, or over all that is left. -/
def skip (p : Place) (n : Nat) : Place :=
  ⟨p.offset + byteLength (p.rest.take n),p.position.past (p.rest.take n),p.rest.drop n⟩

/-- Move over the longest run of characters with a property. -/
def skipWhile (p : Place) (good : Char → Bool) : Place :=
  p.skip (p.rest.takeWhile good).length

@[simp] theorem skip_zero (p : Place) : p.skip 0 = p := by simp [skip]

@[simp] theorem rest_skip (p : Place) (n : Nat) : (p.skip n).rest = p.rest.drop n := rfl

theorem skip_skip (p : Place) (m n : Nat) : (p.skip m).skip n = p.skip (m + n) := by
  simp [skip, List.take_add, Nat.add_assoc]

/-- Of two places, the further one; the second wins where both are the same. -/
def furthest (best next : Place) : Place :=
  if best.offset ≤ next.offset then next else best

end Place
end Formula
