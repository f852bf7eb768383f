import Formula.Proofs.Tokens

/-! The grammar is unambiguous: a text has at most one derivation. Operands are told apart one after the
other from the left, so chains are compared by the links behind their first operands. -/
namespace Formula.Grammar
open Token

/-- The text behind a derivation goes on neither with its last token nor with another operation. -/
def Derivation.Complete {s : Symbol} (d : Derivation s) (rest : List Char) : Prop :=
  d.Ends rest ∧ ∃ (gap : Gap) (tail : List Char),
    rest = gap.chars ++ tail ∧ StartsWithout isBlank tail ∧ s.Stops tail

/-- No other derivation of the symbol can be complete at the head of the same text. -/
def Derivation.Unique {s : Symbol} (d : Derivation s) : Prop :=
  ∀ (e : Derivation s) (u v : List Char), d.text ++ u = e.text ++ v → d.Complete u → e.Complete v →
    d = e ∧ u = v

/-- Blanks in front of what is no blank are determined by the text. -/
lemma gap_unique {gap gap' : Gap} {c c' : Char} {u v : List Char} (hc : isBlank c = false)
    (hc' : isBlank c' = false) (h : gap.chars ++ c :: u = gap'.chars ++ c' :: v) :
    gap = gap' ∧ c = c' ∧ u = v := by
  obtain ⟨hg,hr⟩ := run_unique h gap.blank (startsWithout_cons.mpr hc) gap'.blank (startsWithout_cons.mpr hc')
  exact ⟨Gap.ext hg,List.cons.inj hr⟩

section Chains

variable {level : Level}

/-- An operator and the operand behind it. -/
structure Link (level : Level) where
  gap : Gap
  operator : Operator
  member : operator ∈ level.operators
  right : Derivation level.operand

def linksText : List (Link level) → List Char
  | [] => []
  | link :: more => link.gap.chars ++ link.operator.symbol :: (link.right.text ++ linksText more)

/-- A chain with more links at its end. -/
def Derivation.extend (left : Derivation (.chain level)) : List (Link level) → Derivation (.chain level)
  | [] => left
  | link :: links => (more left link.gap link.operator link.member link.right).extend links

lemma Derivation.extend_concat (left : Derivation (.chain level)) (links : List (Link level)) (link : Link level) :
    left.extend (links ++ [link]) =
      .more (left.extend links) link.gap link.operator link.member link.right := by
  induction links generalizing left with
  | nil => rfl
  | cons first more ih => exact ih _

lemma Derivation.text_extend (left : Derivation (.chain level)) (links : List (Link level)) :
    (left.extend links).text = left.text ++ linksText links := by
  induction links generalizing left with
  | nil => simp [extend,linksText]
  | cons link more ih => simp [extend,ih,linksText,text]

/-- Every chain is its first operand with links behind it. -/
lemma Derivation.exists_links (d : Derivation (.chain level)) :
    ∃ (first : Derivation level.operand) (links : List (Link level)), d = (single first).extend links := by
  induction d using chain_induction with
  | single first => exact ⟨first,[],rfl⟩
  | more left gap operator member right ih =>
    obtain ⟨first,links,rfl⟩ := ih
    exact ⟨first,links ++ [⟨gap,operator,member,right⟩],by rw [extend_concat]⟩

lemma Derivation.nesting_extend {n : Nat} {left : Derivation (.chain level)} {links : List (Link level)}
    (h : (left.extend links).nesting ≤ n) : left.nesting ≤ n ∧ ∀ link ∈ links, link.right.nesting ≤ n := by
  induction links generalizing left with
  | nil => exact ⟨h,by simp⟩
  | cons link more ih =>
    obtain ⟨hl,hm⟩ := ih h
    simp only [nesting,Nat.max_le] at hl
    refine ⟨hl.1,?_⟩
    rintro x (_ | ⟨_,hx⟩)
    · exact hl.2
    · exact hm x hx

/-- The last operand of a chain is complete, and so is the chain. -/
def Settled (first : Derivation level.operand) : List (Link level) → List Char → Prop
  | [], rest => (Derivation.single first).Complete rest
  | link :: more, rest => Settled link.right more rest

lemma settled_of_complete {left : Derivation (.chain level)} {first : Derivation level.operand}
    {links : List (Link level)} {rest : List Char} (hl : ∀ u, left.Ends u → first.Ends u)
    (h : (left.extend links).Complete rest) : Settled first links rest := by
  induction links generalizing left first with
  | nil => exact ⟨hl rest h.1,h.2⟩
  | cons link more ih => exact ih (fun u hu => hu) h

/-- Each operand of a settled chain is complete in front of the links behind it. -/
lemma complete_of_settled {first : Derivation level.operand} {links : List (Link level)} {rest : List Char}
    (h : Settled first links rest) : first.Complete (linksText links ++ rest) := by
  cases links with
  | nil =>
    obtain ⟨he,gap,tail,hr,hs,hstop⟩ := h
    exact ⟨he,gap,tail,hr,hs,(Symbol.stops_chain.mp hstop).2⟩
  | cons link more =>
    have hb := breaks_append link.gap
      (breaks_operator link.operator (link.right.text ++ (linksText more ++ rest)))
    exact ⟨first.ends_of_breaks (by simpa [linksText] using hb),link.gap,
      link.operator.symbol :: (link.right.text ++ (linksText more ++ rest)),by simp [linksText],
      solid_operator _ _,level.stops_operand link.member _⟩

/-- No link can be made out of what stands behind a complete chain. -/
lemma not_link_of_complete {first : Derivation level.operand} {rest : List Char}
    (h : (Derivation.single first).Complete rest) (link : Link level) (u : List Char) :
    rest ≠ link.gap.chars ++ link.operator.symbol :: u := by
  rintro rfl
  obtain ⟨-,gap,tail,hr,hs,hstop⟩ := h
  obtain ⟨-,rfl⟩ := run_unique hr link.gap.blank (solid_operator _ _) gap.blank hs
  exact (Symbol.stops_chain.mp hstop).1 link.operator link.member rfl

lemma symbol_injective {o p : Operator} (h : o.symbol = p.symbol) : o = p := by
  cases o <;> cases p <;> simp_all [Operator.symbol]

lemma links_unique {first first' : Derivation level.operand} {links links' : List (Link level)}
    {u v : List Char} (hfirst : first.Unique) (hlinks : ∀ link ∈ links, link.right.Unique)
    (h : first.text ++ (linksText links ++ u) = first'.text ++ (linksText links' ++ v))
    (hu : Settled first links u) (hv : Settled first' links' v) :
    first = first' ∧ links = links' ∧ u = v := by
  induction links generalizing first first' links' with
  | nil =>
    obtain ⟨rfl,ht⟩ := hfirst first' _ _ h (complete_of_settled hu) (complete_of_settled hv)
    cases links' with
    | nil => exact ⟨rfl,rfl,ht⟩
    | cons link more => exact absurd (by simpa [linksText] using ht) (not_link_of_complete hu link _)
  | cons link more ih =>
    obtain ⟨rfl,ht⟩ := hfirst first' _ _ h (complete_of_settled hu) (complete_of_settled hv)
    cases links' with
    | nil => exact absurd (by simpa [linksText] using ht.symm) (not_link_of_complete hv link _)
    | cons link' more' =>
      obtain ⟨gap,operator,member,right⟩ := link
      obtain ⟨gap',operator',member',right'⟩ := link'
      simp only [linksText,List.append_assoc,List.cons_append] at ht
      obtain ⟨rfl,ho,hr⟩ := gap_unique (startsWithout_cons.mp (solid_operator _ []))
        (startsWithout_cons.mp (solid_operator _ [])) ht
      obtain rfl := symbol_injective ho
      have hsu : Settled right more u := hu
      have hsv : Settled right' more' v := hv
      obtain ⟨rfl,rfl,rfl⟩ := ih (hlinks ⟨gap,operator,member,right⟩ (by simp))
        (fun x hx => hlinks x (by simp [hx])) hr hsu hsv
      exact ⟨rfl,rfl,rfl⟩

lemma unique_chain (level : Level) {n : Nat} (hop : ∀ d : Derivation level.operand, d.nesting ≤ n → d.Unique)
    (d : Derivation (.chain level)) (hd : d.nesting ≤ n) : d.Unique := by
  intro e u v h hu hv
  obtain ⟨first,links,rfl⟩ := d.exists_links
  obtain ⟨first',links',rfl⟩ := e.exists_links
  obtain ⟨hf,hl⟩ := Derivation.nesting_extend hd
  simp only [Derivation.text_extend,Derivation.text,List.append_assoc] at h
  obtain ⟨rfl,rfl,rfl⟩ := links_unique (hop first hf) (fun link hm => hop link.right (hl link hm)) h
    (settled_of_complete (fun _ hu => hu) hu) (settled_of_complete (fun _ hu => hu) hv)
  exact ⟨rfl,rfl⟩

end Chains

section Factors

/-- The four kinds of factors. -/
inductive FactorKind where
  | number
  | identifier
  | negation
  | parentheses
  deriving DecidableEq, Repr

/-- The kind of factor that a character starts. -/
def FactorKind.ofChar (c : Char) : Option FactorKind :=
  if c = '-' then some negation
  else if c = '(' then some parentheses
  else if c.isDigit then some number
  else if isLetter c then some identifier
  else none

def Derivation.kind : Derivation .factor → FactorKind
  | number _ _ => .number
  | identifier _ _ => .identifier
  | negation _ _ => .negation
  | parentheses _ _ _ => .parentheses

lemma ofChar_digit {c : Char} (h : c.isDigit = true) : FactorKind.ofChar c = some .number := by
  have hm : c ≠ '-' := by
    rintro rfl
    exact absurd h (by decide)
  have hp : c ≠ '(' := by
    rintro rfl
    exact absurd h (by decide)
  simp [FactorKind.ofChar,hm,hp,h]

lemma ofChar_letter {c : Char} (h : isLetter c = true) : FactorKind.ofChar c = some .identifier := by
  have hm : c ≠ '-' := by
    rintro rfl
    exact absurd h (by decide)
  have hp : c ≠ '(' := by
    rintro rfl
    exact absurd h (by decide)
  simp [FactorKind.ofChar,hm,hp,isDigit_of_isLetter h,h]

/-- A factor shows its kind with its first character. -/
lemma Derivation.exists_head (d : Derivation .factor) : ∃ (gap : Gap) (c : Char) (tail : List Char),
    d.text = gap.chars ++ c :: tail ∧ isBlank c = false ∧ FactorKind.ofChar c = some d.kind := by
  cases d with
  | number gap numeral =>
    obtain ⟨c,tail,hc,hd⟩ := numeral.exists_digit
    exact ⟨gap,c,tail,by simp [text,hc],isBlank_of_isWordChar (isWordChar_of_isDigit hd),ofChar_digit hd⟩
  | identifier gap word =>
    have hl := word.head_letter
    exact ⟨gap,word.head,word.tail,rfl,isBlank_of_isWordChar (isWordChar_of_isLetter hl),ofChar_letter hl⟩
  | negation gap operand => exact ⟨gap,'-',_,rfl,by decide,rfl⟩
  | parentheses gap inner close => exact ⟨gap,'(',_,rfl,by decide,rfl⟩

lemma kind_unique {d e : Derivation .factor} {u v : List Char} (h : d.text ++ u = e.text ++ v) :
    d.kind = e.kind := by
  obtain ⟨gap,c,tail,ht,hb,hk⟩ := d.exists_head
  obtain ⟨gap',c',tail',ht',hb',hk'⟩ := e.exists_head
  rw [ht,ht',List.append_assoc,List.append_assoc,List.cons_append,List.cons_append] at h
  obtain ⟨-,rfl,-⟩ := gap_unique hb hb' h
  exact Option.some.inj (hk.symm.trans hk')

lemma unique_number (gap : Gap) (numeral : Numeral) : (Derivation.number gap numeral).Unique := by
  intro e u v h hu hv
  have hk := kind_unique h
  cases e with
  | identifier | negation | parentheses => simp [Derivation.kind] at hk
  | number gap' numeral' =>
    simp only [Derivation.text,List.append_assoc] at h
    obtain ⟨hg,hr⟩ := run_unique h gap.blank (numeral.solid u) gap'.blank (numeral'.solid v)
    have hn := numeral.numeral_append hu.1
    rw [hr,numeral'.numeral_append hv.1] at hn
    obtain rfl : numeral' = numeral := Numeral.chars_injective (Option.some.inj hn)
    exact ⟨by rw [Gap.ext hg],List.append_cancel_left hr⟩

lemma unique_identifier (gap : Gap) (word : Word) : (Derivation.identifier gap word).Unique := by
  intro e u v h hu hv
  have hk := kind_unique h
  cases e with
  | number | negation | parentheses => simp [Derivation.kind] at hk
  | identifier gap' word' =>
    simp only [Derivation.text,List.append_assoc] at h
    obtain ⟨hg,hr⟩ := run_unique h gap.blank (word.solid u) gap'.blank (word'.solid v)
    obtain ⟨hw,rfl⟩ := run_unique hr word.chars_word hu.1 word'.chars_word hv.1
    obtain rfl : word = word' := Word.ext (List.cons.inj hw).1 (List.cons.inj hw).2
    exact ⟨by rw [Gap.ext hg],rfl⟩

lemma unique_negation (gap : Gap) {d : Derivation .factor} (hd : d.Unique) :
    (Derivation.negation gap d).Unique := by
  intro e u v h hu hv
  have hk := kind_unique h
  cases e with
  | number | identifier | parentheses => simp [Derivation.kind] at hk
  | negation gap' operand =>
    simp only [Derivation.text,List.append_assoc,List.cons_append] at h
    obtain ⟨rfl,-,hr⟩ := gap_unique (by decide) (by decide) h
    obtain ⟨rfl,rfl⟩ := hd operand u v hr hu hv
    exact ⟨rfl,rfl⟩

lemma complete_in_parentheses (d : Derivation (.chain .expression)) (close : Gap) (rest : List Char) :
    d.Complete (close.chars ++ ')' :: rest) := by
  refine ⟨d.ends_of_breaks (breaks_append close (breaks_cons.mpr (by decide))),close,')' :: rest,rfl,
    startsWithout_cons.mpr (by decide),Symbol.stops_of_head ?_⟩
  intro o
  cases o <;> decide

lemma unique_parentheses (gap close : Gap) {d : Derivation (.chain .expression)} (hd : d.Unique) :
    (Derivation.parentheses gap d close).Unique := by
  intro e u v h hu hv
  have hk := kind_unique h
  cases e with
  | number | identifier | negation => simp [Derivation.kind] at hk
  | parentheses gap' inner close' =>
    simp only [Derivation.text,List.append_assoc,List.cons_append,List.nil_append] at h
    obtain ⟨rfl,-,hr⟩ := gap_unique (by decide) (by decide) h
    obtain ⟨rfl,ht⟩ := hd inner _ _ hr (complete_in_parentheses d close u)
      (complete_in_parentheses inner close' v)
    obtain ⟨rfl,-,rfl⟩ := gap_unique (by decide) (by decide) ht
    exact ⟨rfl,rfl⟩

/-- Levels of nesting are taken off one by one. -/
lemma unique_factor (n : Nat) (d : Derivation .factor) (hd : d.nesting ≤ n) : d.Unique := by
  induction n generalizing d with
  | zero =>
    cases d with
    | number gap numeral => exact unique_number gap numeral
    | identifier gap word => exact unique_identifier gap word
    | negation gap operand => simp [Derivation.nesting] at hd
    | parentheses gap inner close => simp [Derivation.nesting] at hd
  | succ n ih =>
    cases d with
    | number gap numeral => exact unique_number gap numeral
    | identifier gap word => exact unique_identifier gap word
    | negation gap operand =>
      simp only [Derivation.nesting,Nat.add_le_add_iff_right] at hd
      exact unique_negation gap (ih operand hd)
    | parentheses gap inner close =>
      simp only [Derivation.nesting,Nat.add_le_add_iff_right] at hd
      exact unique_parentheses gap close
        (unique_chain .expression (unique_chain .term ih) inner hd)

end Factors

/-- Two sentences with the same text are the same. -/
theorem Sentence.text_injective {a b : Sentence} (h : a.text = b.text) : a = b := by
  have hterm := unique_chain .term (unique_factor a.nesting)
  have hunique := unique_chain .expression hterm a.body (Nat.le_refl _)
  have complete (s : Sentence) : s.body.Complete s.gap.chars :=
    ⟨s.body.ends_of_breaks (by simpa using breaks_append s.gap breaks_nil),s.gap,[],by simp,by simp,
      by simp [Symbol.Stops]⟩
  obtain ⟨hb,hg⟩ := hunique b.body a.gap.chars b.gap.chars h (complete a) (complete b)
  exact Sentence.ext hb (Gap.ext hg)

end Formula.Grammar
