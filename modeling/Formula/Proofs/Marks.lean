import Formula.Proofs.Layout

/-! Marks: the numbers and words of a text, and the minus signs where an operand is due. Whether a mark stands
at a place is told from the text alone, whether or not the text is an expression. -/
namespace Formula
open Grammar Token

/-- What a node that is no operation comes from. -/
inductive Mark where
  | number (numeral : Numeral)
  | identifier (word : Word)
  | minus

/-- An operand may follow this character. -/
def leadsOperand (c : Char) : Bool := c = '(' || c = '+' || c = '-' || c = '*' || c = '/'

/-- Behind this text an operand is due: its last character that is no blank is an operator or opens a
parenthesis, if there is one. -/
def Due (text : List Char) : Prop := ∀ c ∈ (solids text).getLast?, leadsOperand c = true

namespace Mark

def chars : Mark → List Char
  | number numeral => numeral.chars
  | identifier word => word.chars
  | minus => ['-']

/-- Between two texts, the mark is a whole token, or a minus sign where an operand is due. -/
def Stands : Mark → (before rest : List Char) → Prop
  | number numeral, before, rest => Detached before ∧ numeral.Ends rest
  | identifier word, before, rest => StartsWithout isWordChar before.reverse ∧ word.Ends rest
  | minus, before, _ => Due before

/-- The mark stands at the head of a text that is behind another one. -/
def Heads (mark : Mark) (before text : List Char) : Prop :=
  ∃ rest, text = mark.chars ++ rest ∧ mark.Stands before rest

def kind : Mark → FactorKind
  | number _ => .number
  | identifier _ => .identifier
  | minus => .negation

end Mark

section Marks

variable {mark other : Mark} {before text : List Char} {c : Char}

lemma ofChar_blank (h : isBlank c = true) : FactorKind.ofChar c = none := by
  simp only [isBlank,Bool.or_eq_true,decide_eq_true_eq] at h
  rcases h with ((rfl | rfl) | rfl) | rfl <;> decide

lemma Mark.exists_cons (mark : Mark) : ∃ c tail, mark.chars = c :: tail := by
  cases mark with
  | number numeral => exact List.exists_cons_of_ne_nil numeral.lexeme.ne_nil
  | identifier word => exact ⟨word.head,word.tail,rfl⟩
  | minus => exact ⟨'-',[],rfl⟩

/-- A mark shows its kind with its first character. -/
lemma Mark.Heads.kind_eq (h : mark.Heads before (c :: text)) : FactorKind.ofChar c = some mark.kind := by
  obtain ⟨rest,ht,-⟩ := h
  cases mark with
  | number numeral =>
    obtain ⟨d,tail,hd,hdigit⟩ := numeral.exists_digit
    rw [chars,hd] at ht
    cases ht
    exact ofChar_digit hdigit
  | identifier word =>
    obtain ⟨rfl,-⟩ := List.cons.inj ht
    exact ofChar_letter word.head_letter
  | minus =>
    obtain ⟨rfl,-⟩ := List.cons.inj ht
    rfl

/-- At most one mark stands at a place. -/
lemma Mark.Heads.unique (h : mark.Heads before (c :: text)) (h' : other.Heads before (c :: text)) :
    mark = other := by
  have hk : some mark.kind = some other.kind := h.kind_eq.symm.trans h'.kind_eq
  obtain ⟨rest,ht,hs⟩ := h
  obtain ⟨rest',ht',hs'⟩ := h'
  rw [ht] at ht'
  cases mark with
  | number numeral =>
    cases other with
    | number numeral' =>
      have hn := numeral.numeral_append hs.2
      rw [← chars,ht',chars,numeral'.numeral_append hs'.2] at hn
      rw [Numeral.chars_injective (Option.some.inj hn)]
    | identifier | minus => cases hk
  | identifier word =>
    cases other with
    | identifier word' =>
      obtain ⟨hw,-⟩ := run_unique ht' word.chars_word hs.2 word'.chars_word hs'.2
      rw [Word.ext (List.cons.inj hw).1 (List.cons.inj hw).2]
    | number | minus => cases hk
  | minus =>
    cases other with
    | minus => rfl
    | number | identifier => cases hk

/-- No mark starts with a character that starts no factor, or only parentheses. -/
lemma not_heads (h : FactorKind.ofChar c = none ∨ FactorKind.ofChar c = some .parentheses) (mark : Mark) :
    ¬mark.Heads before (c :: text) := by
  intro hm
  rw [hm.kind_eq] at h
  cases mark <;> simp [Mark.kind] at h

lemma isWordChar_cases (h : isWordChar c = true) : c.isDigit = true ∨ isLetter c = true := by
  simp only [isWordChar,Char.isAlphanum,Bool.or_eq_true] at h
  simp only [isLetter,Bool.or_eq_true]
  tauto

/-- No mark starts with a digit inside a token. -/
lemma not_heads_digit {p : Char} (hp : isWordChar p = true ∨ p = '.') (hc : c.isDigit = true) (mark : Mark) :
    ¬mark.Heads (before ++ [p]) (c :: text) := by
  intro hm
  have hk := hm.kind_eq
  rw [ofChar_digit hc] at hk
  cases mark with
  | number numeral =>
    obtain ⟨rest,-,hw,-⟩ := hm
    simp only [Detached,List.reverse_append,List.reverse_singleton,List.singleton_append,breaks_cons] at hw
    rcases hp with hp | rfl
    · simp [hp] at hw
    · exact hw.2 rfl
  | identifier | minus => cases hk

/-- No mark starts with a letter inside a word. -/
lemma not_heads_letter {p : Char} (hp : isWordChar p = true) (hc : isLetter c = true) (mark : Mark) :
    ¬mark.Heads (before ++ [p]) (c :: text) := by
  intro hm
  have hk := hm.kind_eq
  rw [ofChar_letter hc] at hk
  cases mark with
  | identifier word =>
    obtain ⟨rest,-,hw,-⟩ := hm
    simp [hp] at hw
  | number | minus => cases hk

/-- No mark starts with an operator where no operand is due. -/
lemma not_heads_operator (h : ¬Due before) (o : Operator) (mark : Mark) :
    ¬mark.Heads before (o.symbol :: text) := by
  intro hm
  have hk := hm.kind_eq
  cases mark with
  | number | identifier =>
    rw [Mark.kind] at hk
    cases o <;> exact absurd hk (by decide)
  | minus =>
    obtain ⟨rest,-,hs⟩ := hm
    exact h hs

end Marks

section Dues

lemma due_nil : Due [] := by simp [Due,solids]

lemma solids_singleton {c : Char} (hb : isBlank c = false) : solids [c] = [c] := by simp [solids,hb]

lemma due_gap {w : List Char} (h : Due w) (gap : Gap) : Due (w ++ gap.chars) := by
  simpa [Due] using h

lemma due_char {c : Char} (hc : leadsOperand c = true) (hb : isBlank c = false) (w : List Char) (gap : Gap) :
    Due (w ++ (gap.chars ++ [c])) := by
  simp [Due,solids_singleton hb,hc]

lemma due_operator (w : List Char) (gap : Gap) (o : Operator) : Due (w ++ (gap.chars ++ [o.symbol])) := by
  apply due_char
  · cases o <;> decide
  · exact startsWithout_cons.mp (solid_operator o [])

lemma breaks_of_leadsOperand {c : Char} (h : leadsOperand c = true) : isWordChar c = false ∧ c ≠ '.' := by
  simp only [leadsOperand,Bool.or_eq_true,decide_eq_true_eq] at h
  rcases h with (((rfl | rfl) | rfl) | rfl) | rfl <;> decide

/-- Where an operand is due, no token goes on. -/
lemma Due.detached {w : List Char} (h : Due w) : Detached w := by
  rcases List.eq_nil_or_concat w with rfl | ⟨w,c,rfl⟩
  · simp [Detached]
  · rw [List.concat_eq_append] at h ⊢
    apply detached_concat
    cases hb : isBlank c with
    | true => exact isWordChar_of_isBlank hb
    | false => exact breaks_of_leadsOperand (h c (by simp [solids_singleton hb]))

/-- No operand follows a character of a token. -/
lemma not_leadsOperand {c : Char} (h : isWordChar c = true ∨ c = '.') : leadsOperand c = false := by
  by_contra hc
  obtain ⟨hw,hp⟩ := breaks_of_leadsOperand (eq_true_of_ne_false hc)
  rcases h with h | h
  · simp [h] at hw
  · exact hp h

lemma getLast?_solids (a : List Char) {b : List Char} {c : Char} (h : (solids b).getLast? = some c) :
    (solids (a ++ b)).getLast? = some c := by
  simp [h]

lemma exists_last {text : List Char} (hne : text ≠ []) (hb : ∀ c ∈ text, isBlank c = false)
    (hl : ∀ c ∈ text, leadsOperand c = false) :
    ∃ c, (solids text).getLast? = some c ∧ leadsOperand c = false := by
  rw [solids_eq_self hb]
  exact ⟨_,List.getLast?_eq_some_getLast hne,hl _ (List.getLast_mem hne)⟩

/-- The last character of a derivation belongs to a token or closes a parenthesis. -/
lemma Grammar.Derivation.exists_last {s : Symbol} (d : Derivation s) :
    ∃ c, (solids d.text).getLast? = some c ∧ leadsOperand c = false := by
  induction d with
  | number gap numeral =>
    have hn : ∀ c ∈ numeral.chars, leadsOperand c = false := fun c hc =>
      not_leadsOperand ((numeral.chars_digits c hc).imp_left isWordChar_of_isDigit)
    obtain ⟨c,hc,hl⟩ := Formula.exists_last numeral.lexeme.ne_nil numeral.chars_solid hn
    exact ⟨c,by simpa [text] using hc,hl⟩
  | identifier gap word =>
    obtain ⟨c,hc,hl⟩ := Formula.exists_last word.lexeme.ne_nil word.lexeme.solid
      fun c hc => not_leadsOperand (Or.inl (word.chars_word c hc))
    exact ⟨c,by simpa [text] using hc,hl⟩
  | negation gap operand ih =>
    obtain ⟨c,hc,hl⟩ := ih
    exact ⟨c,by simpa [text] using getLast?_solids (gap.chars ++ ['-']) hc,hl⟩
  | parentheses gap inner close ih =>
    have hc : (solids [')']).getLast? = some ')' := by decide
    refine ⟨')',?_,by decide⟩
    simpa [text] using getLast?_solids (gap.chars ++ '(' :: (inner.text ++ close.chars)) hc
  | single operand ih => exact ih
  | more left gap operator member right ihl ihr =>
    obtain ⟨c,hc,hl⟩ := ihr
    exact ⟨c,by simpa [text] using getLast?_solids (left.text ++ (gap.chars ++ [operator.symbol])) hc,hl⟩

/-- Behind an operand no other one is due. -/
lemma not_due {s : Symbol} (d : Derivation s) (w : List Char) (gap : Gap) :
    ¬Due (w ++ (d.text ++ gap.chars)) := by
  intro h
  obtain ⟨c,hc,hl⟩ := d.exists_last
  have := h c (by simp [hc])
  simp [hl] at this

end Dues
end Formula
