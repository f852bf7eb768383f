import Formula.Proofs.Halting

/-! The ways down a tree. A level of nesting allows one sign, or one operand to the right for each kind of
operation, so the limit bounds every way down but for its steps to the left. -/
namespace Formula

/-- A step from a node to the one below it. -/
inductive Descent where
  /-- Into what a sign negates. -/
  | operand
  | left
  | right
  deriving DecidableEq, Repr

/-- The ways from the root of a tree to its leaves. -/
def Expr.ways : Expr → List (List Descent)
  | number _ _ => [[]]
  | identifier _ _ => [[]]
  | negate operand _ => operand.ways.map (.operand :: ·)
  | binary _ left right _ => left.ways.map (.left :: ·) ++ right.ways.map (.right :: ·)

/-- A way goes on by some step at each node. -/
lemma Descent.length_eq (way : List Descent) :
    way.length = way.count .operand + way.count .left + way.count .right := by
  induction way with
  | nil => rfl
  | cons step way ih => cases step <;> simp [ih] <;> omega

namespace Grammar

/-- The number of steps to the right that a symbol allows on one level of nesting: one for each kind of
operation that is not in parentheses. -/
def Symbol.rank : Symbol → Nat
  | .factor => 0
  | .chain .term => 1
  | .chain .expression => 2

lemma Level.rank_chain (level : Level) : (Symbol.chain level).rank = level.operand.rank + 1 := by
  cases level <;> rfl

/-- A sign takes up the level that it opens, and with it two steps to the right. -/
theorem Derivation.ways_tree {s : Symbol} (d : Derivation s) (p : Position) {way : List Descent}
    (h : way ∈ (d.tree p).ways) : way.count .operand ≤ d.nesting ∧
      2*way.count .operand + way.count .right ≤ 2*d.nesting + s.rank := by
  induction d generalizing p way with
  | number gap numeral =>
    obtain rfl : way = [] := List.mem_singleton.mp h
    simp
  | identifier gap word =>
    obtain rfl : way = [] := List.mem_singleton.mp h
    simp
  | negation gap operand ih =>
    obtain ⟨rest,hrest,rfl⟩ := List.mem_map.mp h
    obtain ⟨hsigns,hboth⟩ := ih _ hrest
    simp (disch := decide) only [List.count_cons_self,List.count_cons_of_ne,nesting,Symbol.rank] at hboth ⊢
    omega
  | parentheses gap inner close ih =>
    obtain ⟨hsigns,hboth⟩ := ih _ h
    simp only [nesting,Symbol.rank] at hboth ⊢
    omega
  | @single level operand ih =>
    obtain ⟨hsigns,hboth⟩ := ih _ h
    simp only [nesting,level.rank_chain]
    omega
  | @more level left gap operator member right ihl ihr =>
    simp only [nesting,level.rank_chain]
    rcases List.mem_append.mp h with h | h
    · obtain ⟨rest,hrest,rfl⟩ := List.mem_map.mp h
      obtain ⟨hsigns,hboth⟩ := ihl _ hrest
      rw [level.rank_chain] at hboth
      simp (disch := decide) only [List.count_cons_of_ne]
      omega
    · obtain ⟨rest,hrest,rfl⟩ := List.mem_map.mp h
      obtain ⟨hsigns,hboth⟩ := ihr _ hrest
      simp (disch := decide) only [List.count_cons_self,List.count_cons_of_ne]
      omega

lemma Level.add_mem_operators : .add ∈ Level.expression.operators := by decide

/-- One and one and so on, as many additions as are asked for. -/
def Derivation.ones : Nat → Derivation (.chain .expression)
  | 0 => .single (.single (.number .none .one))
  | n+1 => .more (ones n) .none .add Level.add_mem_operators (.single (.number .none .one))

lemma Derivation.nesting_ones (n : Nat) : (ones n).nesting = 0 := by
  induction n with
  | zero => rfl
  | succ n ih => simp [ones,nesting,ih]

/-- The first summand lies below all the others. -/
lemma Derivation.ways_ones (n : Nat) (p : Position) :
    List.replicate n .left ∈ ((ones n).tree p).ways := by
  induction n generalizing p with
  | zero => exact List.mem_singleton_self []
  | succ n ih =>
    refine List.mem_append_left _ ?_
    exact List.mem_map.mpr ⟨_,ih p,rfl⟩

end Grammar
open Grammar

/-- On every way down a tree that is read under a limit, there are no more signs than the limit has levels, and
no more steps to the right than two for each of them and two outside. As no limit has more than 128 levels, a
way is long by its steps to the left alone, and those can be any number. -/
theorem ways_of_parsed (limit : Limit) :
    (∀ source tree, parse limit source = .ok tree → ∀ way ∈ tree.ways,
      way.count .operand ≤ limit.levels ∧ way.count .right ≤ 2*(limit.levels+1) ∧
      way.length ≤ way.count .left + 386) ∧
    ∀ n, ∃ source tree way, parse limit source = .ok tree ∧ way ∈ tree.ways ∧ way.count .left = n := by
  constructor
  · intro source tree h way hway
    obtain ⟨sentence,-,hnesting,rfl⟩ := sentence_of_parseText h
    obtain ⟨hsigns,hboth⟩ := sentence.body.ways_tree .first hway
    have hlevels : limit.levels ≤ 128 := limit.levels_le
    have hlength := Descent.length_eq way
    rw [Sentence.nesting] at hnesting
    simp only [Symbol.rank] at hboth
    refine ⟨?_,?_,?_⟩
    · omega
    · omega
    · omega
  · intro n
    have hnesting : Sentence.nesting ⟨.ones n,.none⟩ ≤ limit.levels := by
      rw [Sentence.nesting,Derivation.nesting_ones]
      omega
    refine ⟨String.ofList (Sentence.text ⟨.ones n,.none⟩),_,_,?_,Derivation.ways_ones n .first,?_⟩
    · rw [parse,String.toList_ofList]
      exact parseText_of_sentence _ hnesting
    · exact List.count_replicate_self

/-- With no level to open, there are two steps to the right on the way to the last operand, and on none more. -/
theorem ways_of_parsed_without_levels : ∃ tree, parse (.ofRequest 0) "1-2+3*4" = .ok tree ∧
    [.right,.right] ∈ tree.ways ∧ ∀ way ∈ tree.ways, way.count .right ≤ 2 := by
  have hparse : parse (.ofRequest 0) "1-2+3*4" = .ok (.binary .add
      (.binary .sub (.number (.ofDigits ['1'] []) ⟨1,1⟩) (.number (.ofDigits ['2'] []) ⟨1,3⟩) ⟨1,1⟩)
      (.binary .mul (.number (.ofDigits ['3'] []) ⟨1,5⟩) (.number (.ofDigits ['4'] []) ⟨1,7⟩) ⟨1,5⟩) ⟨1,1⟩) := by
    decide +kernel
  refine ⟨_,hparse,by decide,?_⟩
  intro way hway
  exact ((ways_of_parsed (.ofRequest 0)).1 _ _ hparse way hway).2.1

end Formula
