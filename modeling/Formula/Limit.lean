/-! How deep expressions may nest. -/
namespace Formula

/-- No limit lies above this one, whatever is asked for. -/
def nestingCeiling : Nat := 128

/-- The greatest number of signs and parentheses that may be open at one time. -/
structure Limit where
  levels : Nat
  levels_le : levels ≤ nestingCeiling
  deriving DecidableEq, Repr

namespace Limit

/-- The requested limit, lowered to the ceiling. -/
def ofRequest (levels : Nat) : Limit := ⟨min levels nestingCeiling,Nat.min_le_right _ _⟩

/-- The limit where none is asked for. -/
def standardLevels : Nat := 64

def standard : Limit := ofRequest standardLevels

instance : Inhabited Limit := ⟨standard⟩

/-- A limit as a record in one line. -/
def summary (limit : Limit) : String :=
  "ArithmeticParser \x7b max_depth: " ++ toString limit.levels ++ " \x7d"

end Limit
end Formula
