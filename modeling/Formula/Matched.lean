/-! Fragments that a grammar rule has matched, and the one text that stands for each. -/
namespace Formula

inductive Matched where
  /-- One token. -/
  | token (text : String)
  /-- A run of tokens, in order. -/
  | sequence (texts : List String)
  /-- Anything else a rule may give. -/
  | unrecognized
  deriving DecidableEq, Repr

/-- A token stands for itself, a run for its tokens without anything between them. -/
def Matched.text : Matched → String
  | token text => text
  | sequence texts => String.join texts
  | unrecognized => ""

/-- Values that can be seen as matched fragments. -/
class Matchable (α : Type) where
  matched : α → Matched

export Matchable (matched)

instance : Matchable Matched := ⟨id⟩
instance : Matchable String := ⟨.token⟩
instance : Matchable Char := ⟨fun c => .token c.toString⟩
instance : Matchable (List String) := ⟨.sequence⟩
instance : Matchable (List Char) := ⟨fun chars => .sequence (chars.map Char.toString)⟩
instance : Matchable Unit := ⟨fun _ => .unrecognized⟩
instance : Matchable Bool := ⟨fun _ => .unrecognized⟩
instance : Matchable Nat := ⟨fun _ => .unrecognized⟩
instance : Matchable Int := ⟨fun _ => .unrecognized⟩
instance : Matchable Float := ⟨fun _ => .unrecognized⟩

/-- The text of whatever a rule has matched. -/
def normalize {α : Type} [Matchable α] (value : α) : String := (matched value).text

end Formula
