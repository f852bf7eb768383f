/-! How much two words look alike. Two words share a letter if it stands in both at about the same
place; the measure counts the shared letters, their order, and how the words begin. -/
namespace Formula.Similarity

/-- How far apart the places of a shared letter may be. -/
def reach (a b : List Char) : Nat := max a.length b.length / 2 - 1

/-- The first place of a letter in `b` that is near `place` and not in `used`. -/
def partner? (b : List Char) (reach place : Nat) (c : Char) (used : List Nat) : Option Nat :=
  (List.range b.length).find? fun j =>
    j ≤ place + reach && place ≤ j + reach && b[j]? = some c && !used.contains j

/-- The places in `b` of the letters of `a`, from `place` on, that the two words share. -/
def shared (b : List Char) (reach : Nat) : (place : Nat) → (used : List Nat) → List Char → List Nat
  | _, _, [] => []
  | place, used, c :: rest =>
    match partner? b reach place c used with
    | some j => j :: shared b reach (place + 1) (j :: used) rest
    | none => shared b reach (place + 1) used rest

/-- How often a place is followed by one in front of it. -/
def turns : List Nat → Nat
  | i :: j :: rest => (if j < i then 1 else 0) + turns (j :: rest)
  | _ => 0

def commonStart : List Char → List Char → Nat
  | a :: as, b :: bs => if a = b then commonStart as bs + 1 else 0
  | _, _ => 0

/-- The words are more than four fifths alike. With `m` shared letters of which `t` are out of order the
words are alike by `j = (m / |a| + m / |b| + (m - t) / m) / 3`, and each letter of a common start takes
away a tenth of what is missing. -/
def close (a b : List Char) : Bool :=
  if a.length ≤ 1 && b.length ≤ 1 then a = b
  else
    let places := shared b (reach a b) 0 [] a
    let m := places.length
    let t := turns places
    let p := commonStart a b
    -- `j = num / den`
    let num := m * m * b.length + m * m * a.length + (m - t) * a.length * b.length
    let den := 3 * m * a.length * b.length
    m ≠ 0 && 8 * den < 10 * num + p * (den - num)

end Formula.Similarity
