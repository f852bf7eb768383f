import Formula.Proofs.Tokens

/-! What the grammar looks for behind a text that has been read so far, and the obstacles that can stand
there. Every text is a sentence or has an obstacle, and what stands in front of an obstacle can always be
completed to a sentence. -/
namespace Formula.Grammar
open Token

/-- Behind this text a derivation of the symbol is looked for, inside so many open signs and parentheses.
All that is complete so far keeps to the limit. -/
inductive Awaits (limit : Nat) : Symbol → Nat → List Char → Prop where
  | start : Awaits limit (.chain .expression) 0 []
  | first {level : Level} {k : Nat} {w : List Char} (around : Awaits limit (.chain level) k w) :
      Awaits limit level.operand k w
  | next {level : Level} {k : Nat} {w : List Char} (around : Awaits limit (.chain level) k w)
      (left : Derivation (.chain level)) (within : k + left.nesting ≤ limit) (gap : Gap)
      {operator : Operator} (member : operator ∈ level.operators) :
      Awaits limit level.operand k (w ++ (left.text ++ (gap.chars ++ [operator.symbol])))
  | negated {k : Nat} {w : List Char} (around : Awaits limit .factor k w) (room : k < limit) (gap : Gap) :
      Awaits limit .factor (k+1) (w ++ (gap.chars ++ ['-']))
  | enclosed {k : Nat} {w : List Char} (around : Awaits limit .factor k w) (room : k < limit) (gap : Gap) :
      Awaits limit (.chain .expression) (k+1) (w ++ (gap.chars ++ ['(']))

/-- A factor can start with this character. -/
def opensFactor (c : Char) : Bool := c = '-' || c = '(' || c.isDigit || isLetter c

/-- A factor with this first character opens a level of nesting. -/
def opensLevel (c : Char) : Bool := c = '-' || c = '('

/-- Reading comes this far in a text and no further. The last index tells whether it is the limit that
stands in the way. -/
inductive Obstacle (limit : Nat) : List Char → List Char → Bool → Prop where
  /-- No factor starts where one is looked for. -/
  | operand {k : Nat} {w rest : List Char} (around : Awaits limit .factor k w) (gap : Gap)
      (solid : StartsWithout isBlank rest) (wrong : StartsWithout opensFactor rest) :
      Obstacle limit (w ++ gap.chars) rest false
  /-- A complete expression neither goes on nor ends. -/
  | operator {k : Nat} {w rest : List Char} (around : Awaits limit (.chain .expression) k w)
      (d : Derivation (.chain .expression)) (within : k + d.nesting ≤ limit) (gap : Gap)
      (solid : StartsWithout isBlank rest) (ends : d.Ends (gap.chars ++ rest))
      (stops : (Symbol.chain .expression).Stops rest) (unclosed : k ≠ 0 → rest.head? ≠ some ')')
      (leftover : k = 0 → rest ≠ []) :
      Obstacle limit (w ++ (d.text ++ gap.chars)) rest false
  /-- A sign or a parenthesis stands inside as many of them as there may be. -/
  | nesting {w rest : List Char} {c : Char} (around : Awaits limit .factor limit w) (gap : Gap)
      (opens : opensLevel c = true) : Obstacle limit (w ++ gap.chars) (c :: rest) true

/-- The blanks that are none. -/
def Gap.none : Gap := ⟨[],by simp⟩

@[simp] theorem Gap.chars_none : Gap.none.chars = [] := rfl

/-- A numeral to complete texts with. -/
def Numeral.one : Numeral := ⟨['1'],[],by simp,by simp,by simp⟩

namespace Awaits

variable {limit k : Nat} {s : Symbol} {w : List Char}

lemma le (h : Awaits limit s k w) : k ≤ limit := by
  induction h with
  | start => omega
  | first around ih => exact ih
  | next around left within gap member ih => exact ih
  | negated around room gap ih => exact room
  | enclosed around room gap ih => exact room

lemma mono {limit' : Nat} (hl : limit ≤ limit') (h : Awaits limit s k w) : Awaits limit' s k w := by
  induction h with
  | start => exact .start
  | first around ih => exact .first ih
  | next around left within gap member ih => exact .next ih left (by omega) gap member
  | negated around room gap ih => exact .negated ih (by omega) gap
  | enclosed around room gap ih => exact .enclosed ih (by omega) gap

/-- An expression is looked for at the start of a text or behind a parenthesis. -/
lemma expression_cases (h : Awaits limit (.chain .expression) k w) :
    (k = 0 ∧ w = []) ∨ ∃ (j : Nat) (v : List Char) (gap : Gap),
      k = j+1 ∧ w = v ++ (gap.chars ++ ['(']) ∧ j < limit ∧ Awaits limit .factor j v := by
  generalize hs : Symbol.chain .expression = s at h
  cases h with
  | start => exact Or.inl ⟨rfl,rfl⟩
  | @first level => cases level <;> simp [Level.operand] at hs
  | @next level => cases level <;> simp [Level.operand] at hs
  | negated => simp at hs
  | @enclosed j v around room gap => exact Or.inr ⟨j,v,gap,rfl,rfl,room,around⟩

/-- Whatever is looked for, the text can be completed with it: parentheses are closed, and nothing else
has to follow. -/
theorem complete (h : Awaits limit s k w) (d : Derivation s) (hd : k + d.nesting ≤ limit) :
    ∃ (tail : List Char) (sentence : Sentence),
      sentence.text = w ++ (d.text ++ tail) ∧ sentence.nesting ≤ limit := by
  induction h with
  | start => exact ⟨[],⟨d,.none⟩,by simp [Sentence.text],by simpa [Sentence.nesting] using hd⟩
  | first around ih =>
    obtain ⟨tail,sentence,ht,hn⟩ := ih (.single d) hd
    exact ⟨tail,sentence,ht,hn⟩
  | @next level k w around left within gap operator member ih =>
    obtain ⟨tail,sentence,ht,hn⟩ := ih (.more left gap operator member d)
      (by simp only [Derivation.nesting]; omega)
    exact ⟨tail,sentence,by simp [ht,Derivation.text],hn⟩
  | negated around room gap ih =>
    obtain ⟨tail,sentence,ht,hn⟩ := ih (.negation gap d) (by simp only [Derivation.nesting]; omega)
    exact ⟨tail,sentence,by simp [ht,Derivation.text],hn⟩
  | enclosed around room gap ih =>
    obtain ⟨tail,sentence,ht,hn⟩ := ih (.parentheses gap d .none) (by simp only [Derivation.nesting]; omega)
    exact ⟨')' :: tail,sentence,by simp [ht,Derivation.text],hn⟩

end Awaits

namespace Obstacle

variable {limit : Nat} {before rest : List Char} {deep : Bool}

/-- A syntactic obstacle is one under every greater limit. -/
lemma mono {limit' : Nat} (hl : limit ≤ limit') (h : Obstacle limit before rest false) :
    Obstacle limit' before rest false := by
  cases h with
  | operand around gap solid wrong => exact .operand (around.mono hl) gap solid wrong
  | operator around d within gap solid ends stops unclosed leftover =>
    exact .operator (around.mono hl) d (by omega) gap solid ends stops unclosed leftover

lemma exists_head (h : Obstacle limit before rest true) :
    ∃ (c : Char) (tail : List Char), rest = c :: tail := by
  cases h with
  | nesting around gap opens => exact ⟨_,_,rfl⟩

/-- The text in front of an obstacle can be completed to a sentence. -/
theorem viable (h : Obstacle limit before rest deep) :
    ∃ (tail : List Char) (sentence : Sentence),
      sentence.text = before ++ tail ∧ sentence.nesting ≤ limit := by
  have one (w : List Char) (gap : Gap) {k : Nat} (h : Awaits limit .factor k w) :
      ∃ (tail : List Char) (sentence : Sentence),
        sentence.text = w ++ gap.chars ++ tail ∧ sentence.nesting ≤ limit := by
    obtain ⟨tail,sentence,ht,hn⟩ := h.complete (.number gap .one) (by simpa [Derivation.nesting] using h.le)
    exact ⟨'1' :: tail,sentence,by simp [ht,Derivation.text,Numeral.chars,Numeral.one],hn⟩
  cases h with
  | operand around gap solid wrong => exact one _ gap around
  | operator around d within gap solid ends stops unclosed leftover =>
    rcases around.expression_cases with ⟨rfl,rfl⟩ | ⟨j,v,opening,rfl,rfl,hj,hv⟩
    · exact ⟨[],⟨d,gap⟩,by simp [Sentence.text],by simpa [Sentence.nesting] using within⟩
    · obtain ⟨tail,sentence,ht,hn⟩ := hv.complete (.parentheses opening d gap)
        (by simp only [Derivation.nesting]; omega)
      exact ⟨')' :: tail,sentence,by simp [ht,Derivation.text],hn⟩
  | nesting around gap opens => exact one _ gap around

end Obstacle

section Totality

variable {limit : Nat}

def Obstructed (limit : Nat) (text : List Char) : Prop :=
  ∃ (before rest : List Char) (deep : Bool), text = before ++ rest ∧ Obstacle limit before rest deep

/-- Where the symbol is awaited in front of at most `n` characters, there is an obstacle further on, or a
derivation whose last token and whose last operation are complete. -/
def Resolves (limit : Nat) (s : Symbol) (n : Nat) : Prop :=
  ∀ (k : Nat) (w text : List Char), Awaits limit s k w → text.length ≤ n →
    Obstructed limit (w ++ text) ∨
      ∃ (d : Derivation s) (gap : Gap) (rest : List Char), text = d.text ++ (gap.chars ++ rest) ∧
        StartsWithout isBlank rest ∧ k + d.nesting ≤ limit ∧ d.Ends (gap.chars ++ rest) ∧ s.Stops rest

/-- A chain goes on with one operand after the other until no operator of its level follows. -/
lemma extend_chain {level : Level} {n k : Nat} {w : List Char} (hop : Resolves limit level.operand n)
    (around : Awaits limit (.chain level) k w) (m : Nat) (left : Derivation (.chain level)) (gap : Gap)
    (rest : List Char) (hm : rest.length ≤ m) (hn : rest.length ≤ n) (solid : StartsWithout isBlank rest)
    (within : k + left.nesting ≤ limit) (ends : left.Ends (gap.chars ++ rest))
    (stops : level.operand.Stops rest) :
    Obstructed limit (w ++ (left.text ++ (gap.chars ++ rest))) ∨
      ∃ (d : Derivation (.chain level)) (gap' : Gap) (rest' : List Char),
        left.text ++ (gap.chars ++ rest) = d.text ++ (gap'.chars ++ rest') ∧
        StartsWithout isBlank rest' ∧ k + d.nesting ≤ limit ∧ d.Ends (gap'.chars ++ rest') ∧
        (Symbol.chain level).Stops rest' := by
  induction m generalizing left gap rest with
  | zero =>
    obtain rfl := List.length_eq_zero_iff.mp (Nat.le_zero.mp hm)
    refine Or.inr ⟨left,gap,[],rfl,solid,within,ends,Symbol.stops_chain.mpr ⟨?_,stops⟩⟩
    simp
  | succ m ih =>
    by_cases ho : ∃ o ∈ level.operators, rest.head? = some o.symbol
    · obtain ⟨o,member,hhead⟩ := ho
      obtain ⟨tail,rfl⟩ := List.head?_eq_some_iff.mp hhead
      simp only [List.length_cons] at hm hn
      rcases hop k _ tail (around.next left within gap member) (by omega) with hobs | hright
      · exact Or.inl (by simpa using hobs)
      · obtain ⟨right,gap',rest',rfl,solid',within',ends',stops'⟩ := hright
        simp only [List.length_append] at hm hn
        have h := ih (.more left gap o member right) gap' rest' (by omega) (by omega) solid'
          (by simp only [Derivation.nesting]; omega) ends' stops'
        simpa [Derivation.text] using h
    · refine Or.inr ⟨left,gap,rest,rfl,solid,within,ends,Symbol.stops_chain.mpr ⟨?_,stops⟩⟩
      intro o member hhead
      exact ho ⟨o,member,hhead⟩

lemma resolves_chain (level : Level) {n : Nat} (hop : Resolves limit level.operand n) :
    Resolves limit (.chain level) n := by
  intro k w text around hn
  rcases hop k w text around.first hn with hobs | hfirst
  · exact Or.inl hobs
  · obtain ⟨d,gap,rest,rfl,solid,within,ends,stops⟩ := hfirst
    simp only [List.length_append] at hn
    exact extend_chain hop around rest.length (.single d) gap rest (Nat.le_refl _) (by omega) solid within ends stops

/-- A factor that is complete, with the blanks behind it. -/
lemma resolved_factor {k : Nat} {text : List Char} (d : Derivation .factor) (rest : List Char)
    (ht : text = d.text ++ rest) (within : k + d.nesting ≤ limit) (ends : d.Ends rest) :
    ∃ (d : Derivation .factor) (gap : Gap) (rest : List Char), text = d.text ++ (gap.chars ++ rest) ∧
      StartsWithout isBlank rest ∧ k + d.nesting ≤ limit ∧ d.Ends (gap.chars ++ rest) ∧
      Symbol.factor.Stops rest := by
  obtain ⟨gap,rest,rfl,solid⟩ := exists_gap rest
  exact ⟨d,gap,rest,ht,solid,within,ends,by simp [Symbol.Stops,Symbol.operators]⟩

/-- Behind a minus sign, and behind a parenthesis, the rest of a factor is shorter. -/
theorem resolves_factor (n : Nat) : Resolves limit .factor n := by
  induction n with
  | zero =>
    intro k w text around hn
    obtain rfl := List.length_eq_zero_iff.mp (Nat.le_zero.mp hn)
    exact Or.inl ⟨w ++ [],[],false,by simp,.operand around .none (by simp) (by simp)⟩
  | succ n ih =>
    intro k w text around hn
    obtain ⟨gap,text,rfl,solid⟩ := exists_gap text
    by_cases hf : StartsWithout opensFactor text
    · exact Or.inl ⟨w ++ gap.chars,text,false,by simp,.operand around gap solid hf⟩
    obtain ⟨c,tail,rfl,hc⟩ := exists_cons_of_not_startsWithout hf
    simp only [List.length_append,List.length_cons] at hn
    by_cases hfull : opensLevel c = true ∧ k = limit
    · obtain ⟨hopen,rfl⟩ := hfull
      exact Or.inl ⟨w ++ gap.chars,c :: tail,true,by simp,.nesting around gap hopen⟩
    have hle := around.le
    have room (hopen : opensLevel c = true) : k < limit := by
      have hne : k ≠ limit := fun h => hfull ⟨hopen,h⟩
      omega
    simp only [opensFactor,Bool.or_eq_true,decide_eq_true_eq] at hc
    rcases hc with ((rfl | rfl) | hd) | hl
    · rcases ih (k+1) _ tail (around.negated (room rfl) gap) (by omega) with hobs | hr
      · exact Or.inl (by simpa using hobs)
      · obtain ⟨d,gap',rest,rfl,solid',within,ends,stops⟩ := hr
        exact Or.inr ⟨.negation gap d,gap',rest,by simp [Derivation.text],solid',
          by simp only [Derivation.nesting]; omega,ends,stops⟩
    · have inner := around.enclosed (room rfl) gap
      rcases resolves_chain .expression (resolves_chain .term ih) (k+1) _ tail inner (by omega)
        with hobs | hr
      · exact Or.inl (by simpa using hobs)
      · obtain ⟨d,close,rest,rfl,solid',within,ends,stops⟩ := hr
        by_cases hclose : rest.head? = some ')'
        · obtain ⟨rest,rfl⟩ := List.head?_eq_some_iff.mp hclose
          exact Or.inr (resolved_factor (.parentheses gap d close) rest (by simp [Derivation.text])
            (by simp only [Derivation.nesting]; omega) trivial)
        · refine Or.inl ⟨_,rest,false,?_,.operator inner d within close solid' ends stops (fun _ => hclose)
            (by simp)⟩
          simp
    · obtain ⟨numeral,rest,ht,ends⟩ := exists_numeral tail hd
      exact Or.inr (resolved_factor (.number gap numeral) rest (by simp [Derivation.text,ht])
        (by simpa [Derivation.nesting] using hle) ends)
    · obtain ⟨word,rest,ht,ends⟩ := exists_word tail hl
      exact Or.inr (resolved_factor (.identifier gap word) rest (by simp [Derivation.text,ht])
        (by simpa [Derivation.nesting] using hle) ends)

lemma resolves_expression (n : Nat) : Resolves limit (.chain .expression) n :=
  resolves_chain .expression (resolves_chain .term (resolves_factor n))

/-- Every text is a sentence that keeps to the limit, or has an obstacle. -/
theorem sentence_or_obstructed (limit : Nat) (text : List Char) :
    (∃ sentence : Sentence, sentence.text = text ∧ sentence.nesting ≤ limit) ∨ Obstructed limit text := by
  rcases resolves_expression text.length 0 [] text .start (Nat.le_refl _) with hobs | h
  · exact Or.inr hobs
  · obtain ⟨d,gap,rest,rfl,solid,within,ends,stops⟩ := h
    cases rest with
    | nil => exact Or.inl ⟨⟨d,gap⟩,by simp [Sentence.text],by simpa [Sentence.nesting] using within⟩
    | cons c rest =>
      exact Or.inr ⟨_,c :: rest,false,by simp,
        .operator .start d within gap solid ends stops (by simp) (by simp)⟩

end Totality
end Formula.Grammar
