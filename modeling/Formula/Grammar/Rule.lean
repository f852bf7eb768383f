import Formula.Text.Blank
import Formula.Text.Position

/-! Grammar rules. A rule reads from a place on, and leaves a trail of all the places at which it looked
for a token, whether or not it found one. -/
namespace Formula

/-- Where a token was looked for, and inside how many signs and parentheses. -/
structure Stand where
  place : Place
  depth : Nat
  deriving DecidableEq, Repr

inductive Outcome (α : Type) where
  /-- The rule applies and stops in front of `rest`. -/
  | hit (value : α) (rest : Place)
  /-- The rule does not apply here; another may. -/
  | miss
  /-- The text nests deeper than it may. No other rule is tried. -/
  | tooDeep
  /-- A repetition went on without reading anything. -/
  | stalled
  deriving DecidableEq, Repr

structure Reply (α : Type) where
  /-- The stands in the order they were taken. -/
  trail : List Stand
  outcome : Outcome α
  deriving DecidableEq, Repr

def Rule (α : Type) : Type := Place → Reply α

variable {α β : Type}

/-- The same reply at the end of a longer trail. -/
def Reply.behind (trail : List Stand) (reply : Reply α) : Reply α :=
  ⟨trail ++ reply.trail,reply.outcome⟩

/-- Go on from a hit; every other outcome stays as it is. -/
def Reply.andThen (reply : Reply α) (next : α → Place → Reply β) : Reply β :=
  match reply.outcome with
  | .hit value rest => (next value rest).behind reply.trail
  | .miss => ⟨reply.trail,.miss⟩
  | .tooDeep => ⟨reply.trail,.tooDeep⟩
  | .stalled => ⟨reply.trail,.stalled⟩

namespace Rule

/-- Applies everywhere and reads nothing. -/
def give (value : α) : Rule α := fun place => ⟨[],.hit value place⟩

/-- Applies nowhere, as the text nests too deep. -/
def tooDeep : Rule α := fun _ => ⟨[],.tooDeep⟩

/-- One rule behind another. -/
def andThen (rule : Rule α) (next : α → Rule β) : Rule β :=
  fun place => (rule place).andThen next

/-- The second rule where the first does not apply. -/
def orElse (rule other : Rule α) : Rule α := fun place =>
  match (rule place).outcome with
  | .miss => (other place).behind (rule place).trail
  | _ => rule place

instance : Monad Rule where
  pure := give
  bind := andThen

instance : OrElse (Rule α) where
  orElse rule other := rule.orElse (other ())

@[simp] theorem pure_apply (value : α) (place : Place) :
    (pure value : Rule α) place = ⟨[],.hit value place⟩ := rfl

@[simp] theorem bind_apply (rule : Rule α) (next : α → Rule β) (place : Place) :
    (rule >>= next) place = (rule place).andThen next := rfl

@[simp] theorem orElse_apply (rule other : Rule α) (place : Place) :
    (rule <|> other) place = rule.orElse other place := rfl

/-- A token: skip the blanks, stand there, and read. The value comes with the position of the token. -/
def token (depth : Nat) (read : List Char → Option (α × Nat)) : Rule (Position × α) := fun place =>
  let here := place.skipWhile isBlank
  ⟨[⟨here,depth⟩],
    match read here.rest with
    | some (value,length) => .hit (here.position,value) (here.skip length)
    | none => .miss⟩

/-- Apply `round` as often as it hits, each time to the value of the last. A round that misses is undone
and ends the repetition; one that hits without reading anything stalls it. -/
def iterate (round : α → Rule α) : Nat → α → Rule α
  | 0, _ => fun _ => ⟨[],.stalled⟩
  | rounds + 1, value => fun place =>
    let reply := round value place
    match reply.outcome with
    | .hit next rest =>
      if rest = place then ⟨reply.trail,.stalled⟩
      else (iterate round rounds next rest).behind reply.trail
    | .miss => ⟨reply.trail,.hit value place⟩
    | .tooDeep => ⟨reply.trail,.tooDeep⟩
    | .stalled => ⟨reply.trail,.stalled⟩

/-- Repeat `round`. As each round reads at least a character, it has no more rounds than that. -/
def repeated (round : α → Rule α) (value : α) : Rule α := fun place =>
  iterate round (place.rest.length + 1) value place

end Rule
end Formula
