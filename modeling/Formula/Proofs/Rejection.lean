import Formula.Proofs.Halting

/-! Where texts are turned down: at their first token that no sentence goes on with. The verdict hangs on
this token and what stands in front of it, and on nothing behind it, except that the point behind a number
is judged by the character that follows. -/
namespace Formula.Grammar
open Token

/-- No token at the end of this text could go on behind it. -/
def Detached (text : List Char) : Prop := Breaks text.reverse

lemma detached_concat (w : List Char) {c : Char} (hc : isWordChar c = false ∧ c ≠ '.') :
    Detached (w ++ [c]) := by
  simpa [Detached] using hc

lemma detached_operator (w : List Char) (gap : Gap) (o : Operator) :
    Detached (w ++ (gap.chars ++ [o.symbol])) := by
  rw [← List.append_assoc]
  exact detached_concat _ (breaks_cons.mp (breaks_operator o []))

lemma detached_char {c : Char} (hc : isWordChar c = false ∧ c ≠ '.') (w : List Char) (gap : Gap) :
    Detached (w ++ (gap.chars ++ [c])) := by
  rw [← List.append_assoc]
  exact detached_concat _ hc

lemma Awaits.detached {limit k : Nat} {s : Symbol} {w : List Char} (h : Awaits limit s k w) : Detached w := by
  induction h with
  | start => simp [Detached]
  | first around ih => exact ih
  | next around left within gap member ih =>
    rw [← List.append_assoc]
    exact detached_operator _ gap _
  | negated around room gap ih => exact detached_char (by decide) _ gap
  | enclosed around room gap ih => exact detached_char (by decide) _ gap

/-- The last token of a derivation is a number without a point. -/
def Derivation.LastWhole : {s : Symbol} → Derivation s → Prop
  | _, number _ numeral => numeral.fraction = []
  | _, identifier _ _ => False
  | _, negation _ operand => operand.LastWhole
  | _, parentheses _ _ _ => False
  | _, single operand => operand.LastWhole
  | _, more _ _ _ _ right => right.LastWhole

/-- A point goes on only with a whole number, and only in front of a digit. -/
lemma Derivation.ends_point {s : Symbol} (d : Derivation s) (rest : List Char) :
    d.Ends ('.' :: rest) ↔ (d.LastWhole → StartsWithout Char.isDigit rest) := by
  induction d with
  | number gap numeral =>
    constructor
    · intro h hw
      exact h.2 hw rest rfl
    · intro h
      refine ⟨startsWithout_cons.mpr (by decide),?_⟩
      rintro hw tail ⟨⟩
      exact h hw
  | identifier gap word => exact ⟨fun _ h => h.elim,fun _ => startsWithout_cons.mpr (by decide)⟩
  | negation gap operand ih => exact ih
  | parentheses gap inner close => exact ⟨fun _ h => h.elim,fun _ => trivial⟩
  | single operand ih => exact ih
  | more left gap operator member right ihl ihr => exact ihr

/-- Whether any other character goes on with a token is seen from the character alone. -/
lemma Derivation.ends_of_head {s : Symbol} (d : Derivation s) {c : Char} {rest : List Char} (hc : c ≠ '.')
    (h : d.Ends (c :: rest)) (other : List Char) : d.Ends (c :: other) := by
  induction d with
  | number gap numeral =>
    refine ⟨startsWithout_cons.mpr (startsWithout_cons.mp h.1),?_⟩
    rintro - tail ⟨⟩
    exact absurd rfl hc
  | identifier gap word => exact startsWithout_cons.mpr (startsWithout_cons.mp h)
  | negation gap operand ih => exact ih h
  | parentheses gap inner close => trivial
  | single operand ih => exact ih h
  | more left gap operator member right ihl ihr => exact ihr h

lemma Detached.startsWithout {w : List Char} (h : Detached w) : StartsWithout isWordChar w.reverse :=
  fun c hc => (h c hc).1

lemma Obstacle.head_solid {limit : Nat} {before rest : List Char} {c : Char} {deep : Bool}
    (h : Obstacle limit before (c :: rest) deep) : isBlank c = false := by
  cases h with
  | operand around gap solid wrong => exact startsWithout_cons.mp solid
  | operator around d within gap solid ends stops unclosed leftover => exact startsWithout_cons.mp solid
  | nesting around gap opens =>
    simp only [opensLevel,Bool.or_eq_true,decide_eq_true_eq] at opens
    rcases opens with rfl | rfl <;> decide

/-- What stands in front of an obstacle can be completed to a text that is read. -/
lemma Obstacle.accepted {limit : Limit} {before rest : List Char} {deep : Bool}
    (h : Obstacle limit.levels before rest deep) :
    ∃ (more : List Char) (tree : Expr), parseText limit (before ++ more) = .ok tree := by
  obtain ⟨tail,sentence,ht,hn⟩ := h.viable
  refine ⟨tail,sentence.body.tree .first,?_⟩
  rw [← ht]
  exact parseText_of_sentence sentence hn

lemma not_all_blank {before rest : List Char} {c : Char} (hc : isBlank c = false) :
    (before ++ c :: rest).all isBlank = false :=
  List.all_eq_false.mpr ⟨c,by simp,by simp [hc]⟩

section Causes

variable {limit : Limit} {text : List Char} {p : Position}

lemma obstacle_of_char (deep : Bool)
    (h : parseText limit text = .error ⟨if deep then .nesting else .badToken,p⟩) :
    ∃ (before : List Char) (c : Char) (rest : List Char), text = before ++ c :: rest ∧
      p = Position.first.past before ∧ Obstacle limit.levels before (c :: rest) deep := by
  rcases parseText_error_cases h with ⟨-,he⟩ | ⟨-,he⟩ | ⟨before,c,rest,deep',ht,hobs,he⟩
  · cases deep <;> cases he
  · cases deep <;> cases he
  · have hdeep : deep = deep' := by cases deep <;> cases deep' <;> cases he <;> rfl
    subst hdeep
    cases he
    exact ⟨before,c,rest,ht,rfl,hobs⟩

end Causes
end Formula.Grammar

namespace Formula
open Grammar

lemma parse_ofList (limit : Limit) (text : List Char) :
    parse limit (String.ofList text) = parseText limit text := by
  rw [parse,String.toList_ofList]

end Formula
