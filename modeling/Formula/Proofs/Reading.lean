import Formula.Proofs.Places

/-! Rules follow derivations: where the text of a derivation stands, the rule of its symbol reads exactly
this text, gives the tree of the derivation, and looks no further than at the next token. -/
namespace Formula

namespace Reply

variable {α β : Type}

@[simp] theorem trail_behind (trail : List Stand) (reply : Reply α) :
    (reply.behind trail).trail = trail ++ reply.trail := rfl

@[simp] theorem outcome_behind (trail : List Stand) (reply : Reply α) :
    (reply.behind trail).outcome = reply.outcome := rfl

lemma behind_mk (a trail : List Stand) (outcome : Outcome α) :
    (⟨trail,outcome⟩ : Reply α).behind a = ⟨a ++ trail,outcome⟩ := rfl

@[simp] theorem behind_behind (a b : List Stand) (reply : Reply α) :
    (reply.behind b).behind a = reply.behind (a ++ b) := by
  simp [behind]

@[simp] theorem andThen_hit (trail : List Stand) (value : α) (rest : Place) (next : α → Rule β) :
    (⟨trail,.hit value rest⟩ : Reply α).andThen next = (next value rest).behind trail := rfl

@[simp] theorem andThen_miss (trail : List Stand) (next : α → Rule β) :
    (⟨trail,.miss⟩ : Reply α).andThen next = ⟨trail,.miss⟩ := rfl

@[simp] theorem andThen_tooDeep (trail : List Stand) (next : α → Rule β) :
    (⟨trail,.tooDeep⟩ : Reply α).andThen next = ⟨trail,.tooDeep⟩ := rfl

end Reply

namespace Grammar
open Place

section Tokens

variable {α : Type} {depth : Nat} {read : List Char → Option (α × Nat)} {a rest : List Char} {gap : Gap}

lemma token_hit {value : α} {token : List Char} (hs : StartsWithout isBlank (token ++ rest))
    (hr : read (token ++ rest) = some (value,token.length)) :
    Rule.token depth read (behind a (gap.chars ++ (token ++ rest))) =
      ⟨[⟨behind (a ++ gap.chars) (token ++ rest),depth⟩],
        .hit (Position.first.past (a ++ gap.chars),value) (behind (a ++ (gap.chars ++ token)) rest)⟩ := by
  simp only [Rule.token,skipWhile_behind gap.blank hs,rest_behind,hr,position_behind,skip_behind,
    List.append_assoc]

lemma token_miss (depth : Nat) (a : List Char) (gap : Gap) (hs : StartsWithout isBlank rest) (hr : read rest = none) :
    Rule.token depth read (behind a (gap.chars ++ rest)) =
      ⟨[⟨behind (a ++ gap.chars) rest,depth⟩],.miss⟩ := by
  simp only [Rule.token,skipWhile_behind gap.blank hs,rest_behind,hr]

lemma token_char (depth : Nat) {c : Char} (hc : isBlank c = false) (a : List Char) (gap : Gap)
    (rest : List Char) :
    Rule.token depth (Token.char c) (behind a (gap.chars ++ c :: rest)) =
      ⟨[⟨behind (a ++ gap.chars) (c :: rest),depth⟩],
        .hit (Position.first.past (a ++ gap.chars),()) (behind (a ++ (gap.chars ++ [c])) rest)⟩ := by
  have hs : StartsWithout isBlank ([c] ++ rest) := startsWithout_cons.mpr hc
  have hr : Token.char c ([c] ++ rest) = some ((),[c].length) := by simp [Token.char]
  exact token_hit hs hr

lemma token_operator (depth : Nat) {level : Level} {o : Operator} (h : o ∈ level.operators)
    (a : List Char) (gap : Gap) (rest : List Char) :
    Rule.token depth (Token.operator level.operators) (behind a (gap.chars ++ o.symbol :: rest)) =
      ⟨[⟨behind (a ++ gap.chars) (o.symbol :: rest),depth⟩],
        .hit (Position.first.past (a ++ gap.chars),o) (behind (a ++ (gap.chars ++ [o.symbol])) rest)⟩ := by
  have hs : StartsWithout isBlank ([o.symbol] ++ rest) := solid_operator o rest
  have hr : Token.operator level.operators ([o.symbol] ++ rest) = some (o,[o.symbol].length) :=
    operator_cons h rest
  exact token_hit hs hr

end Tokens

section Factors

variable (depth : Nat) (operand inner : Rule Expr) {a rest : List Char} {gap : Gap}

lemma negation_miss (hs : StartsWithout isBlank rest) (h : rest.head? ≠ some '-') :
    negation depth operand (behind a (gap.chars ++ rest)) =
      ⟨[⟨behind (a ++ gap.chars) rest,depth⟩],.miss⟩ := by
  simp [negation,token_miss depth a gap hs (char_eq_none h)]

lemma number_miss (hs : StartsWithout isBlank rest) (h : StartsWithout Char.isDigit rest) :
    number depth (behind a (gap.chars ++ rest)) =
      ⟨[⟨behind (a ++ gap.chars) rest,depth⟩],.miss⟩ := by
  simp [number,token_miss depth a gap hs (number_eq_none h)]

lemma identifier_miss (hs : StartsWithout isBlank rest) (h : StartsWithout Token.isLetter rest) :
    identifier depth (behind a (gap.chars ++ rest)) =
      ⟨[⟨behind (a ++ gap.chars) rest,depth⟩],.miss⟩ := by
  simp [identifier,token_miss depth a gap hs (identifier_eq_none h)]

lemma parenthesized_miss (hs : StartsWithout isBlank rest) (h : rest.head? ≠ some '(') :
    parenthesized depth inner (behind a (gap.chars ++ rest)) =
      ⟨[⟨behind (a ++ gap.chars) rest,depth⟩],.miss⟩ := by
  simp [parenthesized,token_miss depth a gap hs (char_eq_none h)]

/-- No factor starts here. -/
lemma factorOver_miss (hs : StartsWithout isBlank rest) (hn : rest.head? ≠ some '-')
    (hd : StartsWithout Char.isDigit rest) (hl : StartsWithout Token.isLetter rest)
    (hp : rest.head? ≠ some '(') :
    factorOver depth operand inner (behind a (gap.chars ++ rest)) =
      ⟨List.replicate 4 ⟨behind (a ++ gap.chars) rest,depth⟩,.miss⟩ := by
  simp [factorOver,Rule.orElse,negation_miss depth operand hs hn,number_miss depth hs hd,
    identifier_miss depth hs hl,parenthesized_miss depth inner hs hp,Reply.behind,List.replicate]

lemma factorOver_number {numeral : Numeral} (a : List Char) (gap : Gap) (h : numeral.Ends rest) :
    factorOver depth operand inner (behind a (gap.chars ++ (numeral.chars ++ rest))) =
      ⟨List.replicate 2 ⟨behind (a ++ gap.chars) (numeral.chars ++ rest),depth⟩,
        .hit (.number numeral.value (Position.first.past (a ++ gap.chars)))
          (behind (a ++ (gap.chars ++ numeral.chars)) rest)⟩ := by
  obtain ⟨c,tail,hc,hd⟩ := numeral.exists_digit
  have hs := numeral.solid rest
  have hn : (numeral.chars ++ rest).head? ≠ some '-' := by
    rw [hc]
    rintro ⟨⟩
    exact absurd hd (by decide)
  simp [factorOver,Rule.orElse,negation_miss depth operand hs hn,number,
    token_hit hs (numeral.number_append h),Reply.behind,List.replicate]

lemma factorOver_identifier {word : Word} (a : List Char) (gap : Gap) (h : word.Ends rest) :
    factorOver depth operand inner (behind a (gap.chars ++ (word.chars ++ rest))) =
      ⟨List.replicate 3 ⟨behind (a ++ gap.chars) (word.chars ++ rest),depth⟩,
        .hit (.identifier word.name (Position.first.past (a ++ gap.chars)))
          (behind (a ++ (gap.chars ++ word.chars)) rest)⟩ := by
  have hl := word.head_letter
  have hs := word.solid rest
  have hn : (word.chars ++ rest).head? ≠ some '-' := by
    intro he
    simp only [Word.chars,List.cons_append,List.head?_cons,Option.some.injEq] at he
    rw [he] at hl
    exact absurd hl (by decide)
  have hd : StartsWithout Char.isDigit (word.chars ++ rest) :=
    startsWithout_cons.mpr (Token.isDigit_of_isLetter hl)
  simp [factorOver,Rule.orElse,negation_miss depth operand hs hn,number_miss depth hs hd,identifier,
    token_hit hs (word.identifier_append h),Reply.behind,List.replicate]

/-- A minus sign, and then whatever is negated. -/
lemma negation_minus (a : List Char) (gap : Gap) (rest : List Char) :
    negation depth operand (behind a (gap.chars ++ '-' :: rest)) =
      ((operand (behind (a ++ (gap.chars ++ ['-'])) rest)).andThen fun value =>
        (pure (.negate value (Position.first.past (a ++ gap.chars))) : Rule Expr)).behind
        [⟨behind (a ++ gap.chars) ('-' :: rest),depth⟩] := by
  have ht := token_char depth (show isBlank '-' = false by decide) a gap rest
  simp only [negation,Rule.bind_apply,ht,Reply.andThen_hit]

/-- If a negation has more to say than that it misses, nothing else is tried. -/
lemma factorOver_of_negation {depth : Nat} {operand : Rule Expr} {place : Place} {reply : Reply Expr}
    (h : negation depth operand place = reply)
    (hm : reply.outcome ≠ .miss) : factorOver depth operand inner place = reply := by
  rw [factorOver,Rule.orElse_apply,Rule.orElse,h]
  split
  · contradiction
  · rfl

/-- Behind a minus sign without anything to negate, the other factors miss too. -/
lemma factorOver_negation_miss {depth : Nat} {operand : Rule Expr} {trail : List Stand}
    (h : negation depth operand (behind a (gap.chars ++ '-' :: rest)) = ⟨trail,.miss⟩) :
    factorOver depth operand inner (behind a (gap.chars ++ '-' :: rest)) =
      ⟨trail ++ List.replicate 3 ⟨behind (a ++ gap.chars) ('-' :: rest),depth⟩,.miss⟩ := by
  have hs : StartsWithout isBlank ('-' :: rest) := startsWithout_cons.mpr (by decide)
  have hd : StartsWithout Char.isDigit ('-' :: rest) := startsWithout_cons.mpr (by decide)
  have hl : StartsWithout Token.isLetter ('-' :: rest) := startsWithout_cons.mpr (by decide)
  have hp : ('-' :: rest).head? ≠ some '(' := by simp
  simp [factorOver,Rule.orElse,h,number_miss depth hs hd,identifier_miss depth hs hl,
    parenthesized_miss depth inner hs hp,Reply.behind,List.replicate]

/-- What follows the inside of parentheses. -/
def closing (depth : Nat) (value : Expr) : Rule Expr := do
  let _ ← Rule.token (depth+1) (Token.char ')')
  return value

/-- An opening parenthesis is tried last, and then comes whatever stands inside. -/
lemma factorOver_open (a : List Char) (gap : Gap) (rest : List Char) :
    factorOver depth operand inner (behind a (gap.chars ++ '(' :: rest)) =
      ((inner (behind (a ++ (gap.chars ++ ['('])) rest)).andThen (closing depth)).behind
        (List.replicate 4 ⟨behind (a ++ gap.chars) ('(' :: rest),depth⟩) := by
  have hs : StartsWithout isBlank ('(' :: rest) := startsWithout_cons.mpr (by decide)
  have hd : StartsWithout Char.isDigit ('(' :: rest) := startsWithout_cons.mpr (by decide)
  have hl : StartsWithout Token.isLetter ('(' :: rest) := startsWithout_cons.mpr (by decide)
  have hn : ('(' :: rest).head? ≠ some '-' := by simp
  have ht := token_char depth (show isBlank '(' = false by decide) a gap rest
  have hp : parenthesized depth inner (behind a (gap.chars ++ '(' :: rest)) =
      ((inner (behind (a ++ (gap.chars ++ ['('])) rest)).andThen (closing depth)).behind
        [⟨behind (a ++ gap.chars) ('(' :: rest),depth⟩] := by
    simp only [parenthesized,Rule.bind_apply,ht,Reply.andThen_hit]
    rfl
  simp only [factorOver,Rule.orElse_apply,Rule.orElse,negation_miss depth operand hs hn,
    number_miss depth hs hd,identifier_miss depth hs hl,hp,Reply.behind_behind]
  rfl

end Factors

section Chains

variable (depth : Nat) {level : Level} (operand : Rule Expr) {a rest : List Char} {gap : Gap}

/-- One round of a chain: an operator and one more operand. -/
def round (depth : Nat) (among : List Operator) (operand : Rule Expr) (left : Expr) : Rule Expr := do
  let (_,operator) ← Rule.token depth (Token.operator among)
  let right ← operand
  return .operation operator left right

lemma leftAssociative_eq (among : List Operator) (place : Place) :
    leftAssociative depth among operand place =
      (operand place).andThen (Rule.repeated (round depth among operand)) := rfl

lemma round_miss (left : Expr) (a : List Char) (gap : Gap) (hs : StartsWithout isBlank rest)
    (h : ∀ o ∈ level.operators, rest.head? ≠ some o.symbol) :
    round depth level.operators operand left (behind a (gap.chars ++ rest)) =
      ⟨[⟨behind (a ++ gap.chars) rest,depth⟩],.miss⟩ := by
  simp [round,token_miss depth a gap hs (operator_eq_none h)]

lemma round_operator (left : Expr) {o : Operator} (h : o ∈ level.operators) (a : List Char) (gap : Gap)
    (rest : List Char) :
    round depth level.operators operand left (behind a (gap.chars ++ o.symbol :: rest)) =
      ((operand (behind (a ++ (gap.chars ++ [o.symbol])) rest)).andThen fun right =>
        (pure (.operation o left right) : Rule Expr)).behind
        [⟨behind (a ++ gap.chars) (o.symbol :: rest),depth⟩] := by
  have ht := token_operator depth h a gap rest
  simp only [round,Rule.bind_apply,ht,Reply.andThen_hit]

variable {step : Expr → Rule Expr} {rounds : Nat} {value next : Expr} {place after : Place}
  {trail : List Stand}

lemma iterate_hit (h : step value place = ⟨trail,.hit next after⟩) (hread : after ≠ place) :
    Rule.iterate step (rounds+1) value place = (Rule.iterate step rounds next after).behind trail := by
  simp [Rule.iterate,h,hread]

lemma iterate_miss (h : step value place = ⟨trail,.miss⟩) :
    Rule.iterate step (rounds+1) value place = ⟨trail,.hit value place⟩ := by
  simp [Rule.iterate,h]

lemma iterate_tooDeep (h : step value place = ⟨trail,.tooDeep⟩) :
    Rule.iterate step (rounds+1) value place = ⟨trail,.tooDeep⟩ := by
  simp [Rule.iterate,h]

end Chains

/-- Wherever the text of a derivation stands, the rule reads it and no more. -/
def Follows {s : Symbol} (rule : Rule Expr) (d : Derivation s) : Prop :=
  ∀ (before : List Char) (gap : Gap) (rest : List Char), StartsWithout isBlank rest →
    d.Ends (gap.chars ++ rest) → s.Stops rest →
    ∃ trail, rule (behind before (d.text ++ (gap.chars ++ rest))) =
        ⟨trail,.hit (d.tree (Position.first.past before))
          (behind (before ++ d.text) (gap.chars ++ rest))⟩ ∧
      Within (behind (before ++ (d.text ++ gap.chars)) rest) trail

/-- A rule for chains comes to the end of any chain whose operands are followed, with rounds to spare. -/
theorem leftAssociative_behind (depth : Nat) {level : Level} {operand : Rule Expr} {n : Nat}
    (hop : ∀ d : Derivation level.operand, d.nesting ≤ n → Follows operand d)
    (d : Derivation (.chain level)) (hd : d.nesting ≤ n) (before : List Char) (gap : Gap)
    (rest : List Char) (hs : StartsWithout isBlank rest) (he : d.Ends (gap.chars ++ rest))
    (hstop : level.operand.Stops rest) :
    ∃ trail rounds, (gap.chars ++ rest).length < rounds ∧
      Within (behind (before ++ (d.text ++ gap.chars)) rest) trail ∧
      leftAssociative depth level.operators operand (behind before (d.text ++ (gap.chars ++ rest))) =
        (Rule.iterate (round depth level.operators operand) rounds (d.tree (Position.first.past before))
          (behind (before ++ d.text) (gap.chars ++ rest))).behind trail := by
  induction d using Derivation.chain_induction generalizing gap rest with
  | single first =>
    obtain ⟨trail,hr,hw⟩ := hop first hd before gap rest hs he hstop
    refine ⟨trail,(gap.chars ++ rest).length+1,by omega,hw,?_⟩
    simp only [Derivation.text,Derivation.tree]
    rw [leftAssociative_eq,hr,Reply.andThen_hit]
    rfl
  | more left inner operator member right ih =>
    simp only [Derivation.nesting,Nat.max_le] at hd
    obtain ⟨trail,rounds,hn,hw,hl⟩ := ih hd.1 inner (operator.symbol :: (right.text ++ (gap.chars ++ rest)))
      (solid_operator operator _) (left.ends_of_breaks (breaks_append inner (breaks_operator operator _)))
      (level.stops_operand member _)
    obtain ⟨trail',hr,hw'⟩ := hop right hd.2 (before ++ (left.text ++ (inner.chars ++ [operator.symbol])))
      gap rest hs he hstop
    have hround := round_operator depth operand (left.tree (Position.first.past before)) member
      (before ++ left.text) inner (right.text ++ (gap.chars ++ rest))
    simp only [List.append_assoc,List.cons_append,List.nil_append] at hround hr hw hw'
    rw [hr,Reply.andThen_hit] at hround
    obtain ⟨rounds,rfl⟩ : ∃ m, rounds = m+1 := ⟨rounds-1,by omega⟩
    simp only [List.length_append,List.length_cons] at hn
    have hfar : UpTo (behind (before ++ (left.text ++ (inner.chars ++ operator.symbol ::
        (right.text ++ gap.chars)))) rest) (behind (before ++ (left.text ++ inner.chars))
        (operator.symbol :: (right.text ++ (gap.chars ++ rest)))) := by
      simpa using upTo_behind (before ++ (left.text ++ inner.chars))
        (operator.symbol :: (right.text ++ gap.chars)) rest
    refine ⟨trail ++ (⟨behind (before ++ (left.text ++ inner.chars))
      (operator.symbol :: (right.text ++ (gap.chars ++ rest))),depth⟩ :: trail'),rounds,?_,?_,?_⟩
    · simp only [List.length_append]
      omega
    · simp only [Derivation.text,List.append_assoc,List.cons_append,within_append,within_cons]
      exact ⟨hw.mono hfar,hfar,hw'⟩
    · have hread := behind_ne (before ++ left.text) (b := inner.chars ++ operator.symbol :: right.text)
        (gap.chars ++ rest) (by simp)
      simp only [Derivation.text,Derivation.tree,List.append_assoc,List.cons_append] at hread ⊢
      rw [hl,iterate_hit hround hread,Reply.behind_behind]
      simp

/-- In front of what is no operator of its own, a rule for chains stops, and has looked at it. -/
theorem leftAssociative_reads (depth : Nat) {level : Level} {operand : Rule Expr} {n : Nat}
    (hop : ∀ d : Derivation level.operand, d.nesting ≤ n → Follows operand d)
    (d : Derivation (.chain level)) (hd : d.nesting ≤ n) (before : List Char) (gap : Gap)
    (rest : List Char) (hs : StartsWithout isBlank rest) (he : d.Ends (gap.chars ++ rest))
    (hstop : (Symbol.chain level).Stops rest) :
    ∃ trail, leftAssociative depth level.operators operand
        (behind before (d.text ++ (gap.chars ++ rest))) =
        ⟨trail,.hit (d.tree (Position.first.past before))
          (behind (before ++ d.text) (gap.chars ++ rest))⟩ ∧
      Peaks (behind (before ++ (d.text ++ gap.chars)) rest) trail := by
  obtain ⟨hown,hinner⟩ := Symbol.stops_chain.mp hstop
  obtain ⟨trail,rounds,hn,hw,hr⟩ :=
    leftAssociative_behind depth hop d hd before gap rest hs he hinner
  obtain ⟨rounds,rfl⟩ : ∃ m, rounds = m+1 := ⟨rounds-1,by omega⟩
  have hm := round_miss depth operand (d.tree (Position.first.past before)) (before ++ d.text) gap hs hown
  rw [iterate_miss hm] at hr
  refine ⟨_,hr,Peaks.append_left ?_ hw⟩
  simp only [List.append_assoc]
  exact peaks_replicate 0 _ _

/-- The rule that reads a symbol at a depth below which `spare` more levels may be opened. -/
def ruleOf (spare depth : Nat) : Symbol → Rule Expr
  | .factor => factor spare depth
  | .chain .term => term depth (factor spare depth)
  | .chain .expression => expression depth (factor spare depth)

lemma ruleOf_chain (spare depth : Nat) (level : Level) :
    ruleOf spare depth (.chain level) =
      leftAssociative depth level.operators (ruleOf spare depth level.operand) := by
  cases level <;> rfl

lemma factor_succ (spare depth : Nat) :
    factor (spare+1) depth = factorOver depth (factor spare (depth+1))
      (ruleOf spare (depth+1) (.chain .expression)) := rfl

lemma follows_chain {spare depth n : Nat} (level : Level)
    (hop : ∀ d : Derivation level.operand, d.nesting ≤ n → Follows (ruleOf spare depth level.operand) d)
    (d : Derivation (.chain level)) (hd : d.nesting ≤ n) :
    Follows (ruleOf spare depth (.chain level)) d := by
  intro before gap rest hs he hstop
  rw [ruleOf_chain]
  obtain ⟨trail,hr,hp⟩ := leftAssociative_reads depth hop d hd before gap rest hs he hstop
  exact ⟨trail,hr,hp.1⟩

lemma follows_expression {spare depth n : Nat}
    (hf : ∀ d : Derivation .factor, d.nesting ≤ n → Follows (factor spare depth) d)
    (d : Derivation (.chain .expression)) (hd : d.nesting ≤ n) :
    Follows (expression depth (factor spare depth)) d :=
  follows_chain .expression (follows_chain .term hf) d hd

section Factors

variable (depth : Nat) {operand inside : Rule Expr} (gap : Gap)

lemma follows_number (numeral : Numeral) :
    Follows (factorOver depth operand inside) (.number gap numeral) := by
  intro before space rest hs he hstop
  have h := factorOver_number depth operand inside before gap he
  have hfar : UpTo (behind (before ++ (gap.chars ++ (numeral.chars ++ space.chars))) rest)
      (behind (before ++ gap.chars) (numeral.chars ++ (space.chars ++ rest))) := by
    simpa using upTo_behind (before ++ gap.chars) (numeral.chars ++ space.chars) rest
  refine ⟨_,by simpa [Derivation.text,Derivation.tree] using h,?_⟩
  simp [Derivation.text,hfar]

lemma follows_identifier (word : Word) :
    Follows (factorOver depth operand inside) (.identifier gap word) := by
  intro before space rest hs he hstop
  have h := factorOver_identifier depth operand inside before gap he
  have hfar : UpTo (behind (before ++ (gap.chars ++ (word.chars ++ space.chars))) rest)
      (behind (before ++ gap.chars) (word.chars ++ (space.chars ++ rest))) := by
    simpa using upTo_behind (before ++ gap.chars) (word.chars ++ space.chars) rest
  refine ⟨_,by simpa [Derivation.text,Derivation.tree] using h,?_⟩
  simp [Derivation.text,hfar]

lemma follows_negation {d : Derivation .factor} (h : Follows operand d) :
    Follows (factorOver depth operand inside) (.negation gap d) := by
  intro before space rest hs he hstop
  obtain ⟨trail,hr,hw⟩ := h (before ++ (gap.chars ++ ['-'])) space rest hs he hstop
  have hminus := negation_minus depth operand before gap (d.text ++ (space.chars ++ rest))
  rw [hr,Reply.andThen_hit,Rule.pure_apply,Reply.behind_behind] at hminus
  have hfar : UpTo (behind (before ++ (gap.chars ++ '-' :: (d.text ++ space.chars))) rest)
      (behind (before ++ gap.chars) ('-' :: (d.text ++ (space.chars ++ rest)))) := by
    simpa using upTo_behind (before ++ gap.chars) ('-' :: (d.text ++ space.chars)) rest
  simp only [Derivation.text,Derivation.tree,List.append_assoc,List.cons_append,List.nil_append,
    Position.past_append] at hminus hw ⊢
  refine ⟨_,factorOver_of_negation inside hminus (by simp),?_⟩
  simp [hfar,hw]

lemma follows_parentheses {inner : Derivation (.chain .expression)} (close : Gap) (h : Follows inside inner) :
    Follows (factorOver depth operand inside) (.parentheses gap inner close) := by
  intro before space rest hs he hstop
  have hclose : StartsWithout isBlank (')' :: (space.chars ++ rest)) := startsWithout_cons.mpr (by decide)
  obtain ⟨trail,hr,hw⟩ := h (before ++ (gap.chars ++ ['('])) close (')' :: (space.chars ++ rest)) hclose
    (inner.ends_of_breaks (breaks_append close (breaks_cons.mpr (by decide))))
    (Symbol.stops_of_head (by intro o; cases o <;> decide))
  have ht := token_char (depth+1) (startsWithout_cons.mp hclose) (before ++ (gap.chars ++ '(' :: inner.text))
    close (space.chars ++ rest)
  have hopen := factorOver_open depth operand inside before gap
    (inner.text ++ (close.chars ++ ')' :: (space.chars ++ rest)))
  simp only [List.append_assoc,List.cons_append,List.nil_append] at hr hw ht hopen
  rw [hr,Reply.andThen_hit,closing,Rule.bind_apply,ht,Reply.andThen_hit,Rule.pure_apply] at hopen
  simp only [Derivation.text,Derivation.tree,List.append_assoc,List.cons_append,List.nil_append]
  simp only [Reply.behind_behind,Position.past_append] at hopen ⊢
  have hend : UpTo (behind (before ++ (gap.chars ++ '(' :: (inner.text ++ (close.chars ++ ')' :: space.chars))))
      rest) (behind (before ++ (gap.chars ++ '(' :: (inner.text ++ close.chars)))
      (')' :: (space.chars ++ rest))) := by
    simpa using upTo_behind (before ++ (gap.chars ++ '(' :: (inner.text ++ close.chars)))
      (')' :: space.chars) rest
  have hstart : UpTo (behind (before ++ (gap.chars ++ '(' :: (inner.text ++ (close.chars ++ ')' :: space.chars))))
      rest) (behind (before ++ gap.chars) ('(' :: (inner.text ++ (close.chars ++ ')' ::
      (space.chars ++ rest))))) := by
    simpa using upTo_behind (before ++ gap.chars) ('(' :: (inner.text ++ (close.chars ++ ')' :: space.chars)))
      rest
  refine ⟨_,hopen,?_⟩
  simp [hstart,hend,hw.mono hend]

end Factors

/-- A rule with levels to spare follows every derivation that does not need more of them. -/
theorem factor_follows (spare depth : Nat) (d : Derivation .factor) (hd : d.nesting ≤ spare) :
    Follows (factor spare depth) d := by
  induction spare generalizing depth d with
  | zero =>
    cases d with
    | number gap numeral => exact follows_number depth gap numeral
    | identifier gap word => exact follows_identifier depth gap word
    | negation gap operand => simp [Derivation.nesting] at hd
    | parentheses gap inner close => simp [Derivation.nesting] at hd
  | succ spare ih =>
    cases d with
    | number gap numeral => exact follows_number depth gap numeral
    | identifier gap word => exact follows_identifier depth gap word
    | negation gap operand =>
      simp only [Derivation.nesting,Nat.add_le_add_iff_right] at hd
      exact follows_negation depth gap (ih (depth+1) operand hd)
    | parentheses gap inner close =>
      simp only [Derivation.nesting,Nat.add_le_add_iff_right] at hd
      exact follows_parentheses depth gap close (follows_expression (ih (depth+1)) inner hd)

/-- The same for the rule of any symbol. -/
theorem ruleOf_follows (spare depth : Nat) {s : Symbol} (d : Derivation s) (hd : d.nesting ≤ spare) :
    Follows (ruleOf spare depth s) d := by
  have hterm := follows_chain .term (factor_follows spare depth)
  match s, d with
  | .factor, d => exact factor_follows spare depth d hd
  | .chain .term, d => exact hterm d hd
  | .chain .expression, d => exact follows_chain .expression hterm d hd

/-- A rule for chains that follows a chain has looked at what comes behind it. -/
theorem ruleOf_reads (spare depth : Nat) {level : Level} (d : Derivation (.chain level))
    (hd : d.nesting ≤ spare) (before : List Char) (gap : Gap) {rest : List Char}
    (hs : StartsWithout isBlank rest) (he : d.Ends (gap.chars ++ rest))
    (hstop : (Symbol.chain level).Stops rest) :
    ∃ trail, ruleOf spare depth (.chain level) (behind before (d.text ++ (gap.chars ++ rest))) =
        ⟨trail,.hit (d.tree (Position.first.past before))
          (behind (before ++ d.text) (gap.chars ++ rest))⟩ ∧
      Peaks (behind (before ++ (d.text ++ gap.chars)) rest) trail := by
  rw [ruleOf_chain]
  exact leftAssociative_reads depth (ruleOf_follows spare depth) d hd before gap rest hs he hstop

end Grammar
end Formula
