import Formula.Proofs.Rejection

/-! What the limit changes: nothing, unless a sign or a parenthesis stands inside as many of them as the
limit allows. Then the first of these is where the text is turned down. -/
namespace Formula.Grammar
open Token

/-- The grammar comes to this character as to a sign or a parenthesis inside so many others. How deep
anything complete in front of it nests does not matter. -/
def OpensAt (levels : Nat) (before : List Char) (c : Char) : Prop :=
  opensLevel c = true ∧ ∃ (limit : Nat) (w : List Char) (gap : Gap),
    Awaits limit .factor levels w ∧ before = w ++ gap.chars

/-- An obstacle of nesting is the character it stands at, whatever follows. -/
lemma Obstacle.replace {limit : Nat} {before rest : List Char} {c : Char}
    (h : Obstacle limit before (c :: rest) true) (other : List Char) :
    Obstacle limit before (c :: other) true := by
  cases h with
  | nesting around gap opens => exact .nesting around gap opens

lemma Obstacle.append {limit : Nat} {before rest : List Char} (h : Obstacle limit before rest true)
    (more : List Char) : Obstacle limit before (rest ++ more) true := by
  obtain ⟨c,tail,rfl⟩ := h.exists_head
  exact h.replace (tail ++ more)

lemma Obstacle.opensAt {limit : Nat} {before rest : List Char} {c : Char}
    (h : Obstacle limit before (c :: rest) true) : OpensAt limit before c := by
  cases h with
  | nesting around gap opens => exact ⟨opens,limit,_,gap,around,rfl⟩

/-- Where a derivation would nest too deep, one of its signs or parentheses is in the way. -/
theorem Derivation.overflow {limit k : Nat} {s : Symbol} {w : List Char} (d : Derivation s)
    (around : Awaits limit s k w) (h : limit < k + d.nesting) :
    ∃ front rest : List Char, d.text = front ++ rest ∧ Obstacle limit (w ++ front) rest true := by
  have hle := around.le
  induction d generalizing k w with
  | number gap numeral =>
    simp only [nesting] at h
    omega
  | identifier gap word =>
    simp only [nesting] at h
    omega
  | negation gap operand ih =>
    simp only [nesting] at h
    by_cases room : k < limit
    · obtain ⟨front,rest,ht,hobs⟩ := ih (around.negated room gap) (by omega) room
      exact ⟨gap.chars ++ '-' :: front,rest,by simp [text,ht],by simpa using hobs⟩
    · obtain rfl : k = limit := by omega
      exact ⟨gap.chars,'-' :: operand.text,rfl,.nesting around gap (by decide)⟩
  | parentheses gap inner close ih =>
    simp only [nesting] at h
    by_cases room : k < limit
    · obtain ⟨front,rest,ht,hobs⟩ := ih (around.enclosed room gap) (by omega) room
      exact ⟨gap.chars ++ '(' :: front,rest ++ (close.chars ++ [')']),by simp [text,ht],
        by simpa using hobs.append (close.chars ++ [')'])⟩
    · obtain rfl : k = limit := by omega
      exact ⟨gap.chars,'(' :: (inner.text ++ (close.chars ++ [')'])),rfl,.nesting around gap (by decide)⟩
  | single operand ih => exact ih around.first h hle
  | more left gap operator member right ihl ihr =>
    simp only [nesting] at h
    by_cases within : k + left.nesting ≤ limit
    · obtain ⟨front,rest,ht,hobs⟩ := ihr (around.next left within gap member) (by omega) hle
      exact ⟨left.text ++ (gap.chars ++ operator.symbol :: front),rest,by simp [text,ht],by simpa using hobs⟩
    · obtain ⟨front,rest,ht,hobs⟩ := ihl around (by omega) hle
      exact ⟨front,rest ++ (gap.chars ++ operator.symbol :: right.text),by simp [text,ht],hobs.append _⟩

/-- What is come to under one limit is come to under any other that it is not too deep for, or there is an
obstacle of nesting on the way. -/
theorem Awaits.restrict {limit limit' k : Nat} {s : Symbol} {w : List Char} (h : Awaits limit' s k w)
    (hk : k ≤ limit) :
    Awaits limit s k w ∨ ∃ front rest : List Char, w = front ++ rest ∧ Obstacle limit front rest true := by
  induction h with
  | start => exact Or.inl .start
  | first around ih => exact (ih hk).imp_left .first
  | @next level k w around left within gap operator member ih =>
    rcases ih hk with hw | ⟨front,rest,rfl,hobs⟩
    · by_cases hleft : k + left.nesting ≤ limit
      · exact Or.inl (hw.next left hleft gap member)
      · obtain ⟨front,rest,ht,hobs⟩ := left.overflow hw (by omega)
        exact Or.inr ⟨w ++ front,rest ++ (gap.chars ++ [operator.symbol]),by simp [ht],hobs.append _⟩
    · exact Or.inr ⟨front,_,List.append_assoc front rest _,hobs.append _⟩
  | negated around room gap ih =>
    rcases ih (by omega) with hw | ⟨front,rest,rfl,hobs⟩
    · exact Or.inl (hw.negated hk gap)
    · exact Or.inr ⟨front,_,List.append_assoc front rest _,hobs.append _⟩
  | enclosed around room gap ih =>
    rcases ih (by omega) with hw | ⟨front,rest,rfl,hobs⟩
    · exact Or.inl (hw.enclosed hk gap)
    · exact Or.inr ⟨front,_,List.append_assoc front rest _,hobs.append _⟩

/-- A sign or a parenthesis inside as many as there may be is an obstacle, if there is none in front of it. -/
lemma OpensAt.obstacle {limit : Nat} {before : List Char} {c : Char} (h : OpensAt limit before c)
    (rest : List Char) :
    ∃ front back : List Char, before ++ c :: rest = front ++ back ∧ front.length ≤ before.length ∧
      Obstacle limit front back true := by
  obtain ⟨opens,limit',w,gap,around,rfl⟩ := h
  rcases around.restrict (Nat.le_refl limit) with hw | ⟨front,back,rfl,hobs⟩
  · exact ⟨w ++ gap.chars,c :: rest,rfl,Nat.le_refl _,.nesting hw gap opens⟩
  · refine ⟨front,back ++ (gap.chars ++ c :: rest),by simp,?_,hobs.append _⟩
    simp only [List.length_append]
    omega

lemma parseText_of_nesting {limit : Limit} {before rest : List Char}
    (h : Obstacle limit.levels before rest true) :
    parseText limit (before ++ rest) = .error ⟨.nesting,Position.first.past before⟩ := by
  have hb : (before ++ rest).all isBlank = false := by
    obtain ⟨c,tail,rfl⟩ := h.exists_head
    exact not_all_blank h.head_solid
  exact parseText_of_obstacle hb h

/-- A greater limit changes nothing where the smaller one is kept. -/
lemma parseText_of_le {d e : Limit} (hde : d.levels ≤ e.levels) {text : List Char}
    (h : ∀ p, parseText d text ≠ .error ⟨.nesting,p⟩) : parseText e text = parseText d text := by
  rcases parseText_cases d text with
    ⟨sentence,rfl,hn,hok⟩ | ⟨hb,herr⟩ | ⟨before,rest,deep,rfl,hb,hobs,herr⟩
  · rw [hok]
    exact parseText_of_sentence sentence (Nat.le_trans hn hde)
  · rw [herr]
    simp only [parseText,hb,if_true]
  · cases deep with
    | true => exact absurd herr (h _)
    | false =>
      rw [herr]
      exact parseText_of_obstacle hb (hobs.mono hde)

end Formula.Grammar

namespace Formula
open Grammar

/-- Limits that a text keeps all read it alike. A text that does not keep the limit is turned down at its
first sign or parenthesis inside as many as there may be, and nothing behind that counts. -/
theorem parse_nesting_limit (d e : Limit) (hde : d.levels ≤ e.levels) (source : String) :
    ((∀ p, parse d source ≠ .error ⟨.nesting,p⟩) → parse e source = parse d source) ∧
    ∀ p, parse d source = .error ⟨.nesting,p⟩ →
      ∃ (before : List Char) (c : Char) (rest : List Char), source.toList = before ++ c :: rest ∧
        p = Position.first.past before ∧ OpensAt d.levels before c ∧
        (∀ (before' : List Char) (c' : Char) (rest' : List Char), source.toList = before' ++ c' :: rest' →
          OpensAt d.levels before' c' → before.length ≤ before'.length) ∧
        (∃ (more : List Char) (tree : Expr), parse d (String.ofList (before ++ more)) = .ok tree) ∧
        ∀ other : List Char,
          parse d (String.ofList (before ++ c :: other)) = .error ⟨.nesting,p⟩ := by
  simp only [parse_ofList]
  simp only [parse]
  refine ⟨parseText_of_le hde,?_⟩
  intro p h
  obtain ⟨before,c,rest,ht,rfl,hobs⟩ := obstacle_of_char true h
  refine ⟨before,c,rest,ht,rfl,hobs.opensAt,?_,hobs.accepted,?_⟩
  · intro before' c' rest' ht' hopens
    obtain ⟨front,back,he,hlen,hfront⟩ := hopens.obstacle rest'
    have hp := parseText_of_nesting hfront
    rw [← he,← ht',h] at hp
    injection hp with hp
    injection hp with _ hp
    have hsplit : before ++ c :: rest = front ++ back := by rw [← ht,ht',he]
    rw [Position.past_inj hsplit hp]
    exact hlen
  · intro other
    exact parseText_of_nesting (hobs.replace other)

/-- One level is enough for an open parenthesis, and too little for one behind a sign. -/
theorem parse_nesting_limit_one :
    parse .standard "(1 +" = parse (.ofRequest 1) "(1 +" ∧
    ∃ (before : List Char) (c : Char) (rest : List Char), "1+-(2)".toList = before ++ c :: rest ∧
      ⟨1,4⟩ = Position.first.past before ∧ OpensAt 1 before c ∧
      (∀ (before' : List Char) (c' : Char) (rest' : List Char), "1+-(2)".toList = before' ++ c' :: rest' →
        OpensAt 1 before' c' → before.length ≤ before'.length) ∧
      (∃ (more : List Char) (tree : Expr), parse (.ofRequest 1) (String.ofList (before ++ more)) = .ok tree) ∧
      ∀ other : List Char,
        parse (.ofRequest 1) (String.ofList (before ++ c :: other)) = .error ⟨.nesting,⟨1,4⟩⟩ := by
  have hle : (Limit.ofRequest 1).levels ≤ Limit.standard.levels := by decide
  constructor
  · have hend : parse (.ofRequest 1) "(1 +" = .error ⟨.endOfInput,⟨1,5⟩⟩ := by decide +kernel
    exact (parse_nesting_limit _ _ hle "(1 +").1 (by simp [hend])
  · exact (parse_nesting_limit _ _ hle "1+-(2)").2 ⟨1,4⟩ (by decide +kernel)

end Formula
