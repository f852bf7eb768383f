import Formula.Proofs.Prospect
import Formula.Proofs.Progress

/-! Rules stop at obstacles. Whatever encloses the place of an obstacle, all rules that are under way come
to their end without reading on, and the furthest place of the trail is the place of the obstacle. -/
namespace Formula.Grammar
open Place

/-- How a rule for a symbol ends at an obstacle: it misses, or it has undone a round, so that one of its
operators stands unread in front of the obstacle, or the text is too deep. -/
inductive Stuck (s : Symbol) (far : Place) : Bool → Outcome Expr → Prop where
  | miss : Stuck s far false .miss
  | undone {value : Expr} {a rest : List Char} {gap : Gap} {o : Operator} (member : o ∈ s.operators)
      (upTo : UpTo far (behind (a ++ gap.chars) (o.symbol :: rest))) :
      Stuck s far false (.hit value (behind a (gap.chars ++ o.symbol :: rest)))
  | tooDeep : Stuck s far true .tooDeep

/-- A rule for a symbol has come to an obstacle, and no further. -/
structure Halts (s : Symbol) (far : Place) (deep : Bool) (reply : Reply Expr) : Prop where
  stuck : Stuck s far deep reply.outcome
  peaks : Peaks far reply.trail

section Outward

variable {far : Place} {deep : Bool} {spare depth n : Nat} {level : Level} {rest : List Char}

/-- A chain whose operand has undone a round does not go on behind it. -/
lemma iterate_undone (operand : Rule Expr) (rounds : Nat) (value : Expr) {a : List Char} {gap : Gap} {o : Operator}
    (member : o ∈ level.operand.operators)
    (upTo : UpTo far (behind (a ++ gap.chars) (o.symbol :: rest))) :
    ∃ trail, Within far trail ∧
      Rule.iterate (round depth level.operators operand) (rounds+1) value
        (behind a (gap.chars ++ o.symbol :: rest)) =
        ⟨trail,.hit value (behind a (gap.chars ++ o.symbol :: rest))⟩ := by
  have hm := round_miss depth operand value a gap (solid_operator o rest)
    (level.not_own_of_operand member rest)
  exact ⟨_,by simpa using upTo,iterate_miss hm⟩

/-- The first operand of a chain comes to an obstacle. -/
lemma halts_first {place : Place}
    (h : Halts level.operand far deep (ruleOf spare depth level.operand place)) :
    Halts (.chain level) far deep (ruleOf spare depth (.chain level) place) := by
  rw [ruleOf_chain,leftAssociative_eq]
  obtain ⟨hstuck,hpeaks⟩ := h
  generalize ruleOf spare depth level.operand place = reply at hstuck hpeaks
  obtain ⟨trail,outcome⟩ := reply
  cases hstuck with
  | miss => exact ⟨.miss,hpeaks⟩
  | tooDeep => exact ⟨.tooDeep,hpeaks⟩
  | undone member upTo =>
    obtain ⟨more,hw,hr⟩ := iterate_undone (ruleOf spare depth level.operand) _ _ member upTo
    rw [Reply.andThen_hit,Rule.repeated,hr]
    exact ⟨.undone (Symbol.mem_operators_chain.mpr (Or.inr member)) upTo,hpeaks.append_right hw⟩

/-- A later operand of a chain comes to an obstacle. -/
lemma halts_next {w : List Char} (left : Derivation (.chain level)) (hn : left.nesting ≤ spare) {gap : Gap}
    {o : Operator} (member : o ∈ level.operators)
    (hfar : UpTo far (behind (w ++ (left.text ++ (gap.chars ++ [o.symbol]))) rest))
    (h : Halts level.operand far deep
      (ruleOf spare depth level.operand (behind (w ++ (left.text ++ (gap.chars ++ [o.symbol]))) rest))) :
    Halts (.chain level) far deep
      (ruleOf spare depth (.chain level) (behind w (left.text ++ (gap.chars ++ o.symbol :: rest)))) := by
  rw [ruleOf_chain]
  obtain ⟨trail,rounds,hlen,hw,hr⟩ := leftAssociative_behind depth (ruleOf_follows spare depth) left hn w gap
    (o.symbol :: rest) (solid_operator o rest) (left.ends_of_breaks (breaks_append gap (breaks_operator o rest)))
    (level.stops_operand member rest)
  have hround := round_operator depth (ruleOf spare depth level.operand) (left.tree (Position.first.past w)) member
    (w ++ left.text) gap rest
  have hsign : UpTo far (behind (w ++ (left.text ++ gap.chars)) (o.symbol :: rest)) := by
    refine hfar.trans ?_
    simpa using upTo_behind (w ++ (left.text ++ gap.chars)) [o.symbol] rest
  obtain ⟨hstuck,hpeaks⟩ := h
  simp only [List.append_assoc] at hround
  generalize ruleOf spare depth level.operand (behind (w ++ (left.text ++ (gap.chars ++ [o.symbol]))) rest) =
    reply at hstuck hpeaks hround
  obtain ⟨inner,outcome⟩ := reply
  obtain ⟨rounds,rfl⟩ : ∃ m, rounds = m+2 := by
    simp only [List.length_append,List.length_cons] at hlen
    exact ⟨rounds-2,by omega⟩
  have hpre : Within far (trail ++ [⟨behind (w ++ (left.text ++ gap.chars)) (o.symbol :: rest),depth⟩]) := by
    simp [hw.mono hsign,hsign]
  have hundone : UpTo far (behind (w ++ left.text ++ gap.chars) (o.symbol :: rest)) := by
    simpa using hsign
  have howned : o ∈ (Symbol.chain level).operators := Symbol.mem_operators_chain.mpr (Or.inl member)
  rw [hr]
  cases hstuck with
  | miss =>
    rw [Reply.andThen_miss,Reply.behind_mk] at hround
    rw [iterate_miss hround,Reply.behind_mk,← List.append_assoc]
    exact ⟨.undone howned hundone,hpeaks.append_left hpre⟩
  | tooDeep =>
    rw [Reply.andThen_tooDeep,Reply.behind_mk] at hround
    rw [iterate_tooDeep hround,Reply.behind_mk,← List.append_assoc]
    exact ⟨.tooDeep,hpeaks.append_left hpre⟩
  | undone inner_member upTo =>
    rw [Reply.andThen_hit,Rule.pure_apply,Reply.behind_behind,Reply.behind_mk,List.append_nil] at hround
    obtain ⟨more,hmore,hlast⟩ := iterate_undone (ruleOf spare depth level.operand) rounds _ inner_member upTo
    have hadvance := round_advances level.operators (Nat.le_add_right depth spare)
      (ruleOf_advances spare depth level.operand) (left.tree (Position.first.past w))
    have hread := ((hadvance _).hits _ _ (congrArg Reply.outcome hround)).ne
    rw [iterate_hit hround hread,hlast,Reply.behind_behind,Reply.behind_mk,← List.append_assoc trail]
    exact ⟨.undone (Symbol.mem_operators_chain.mpr (Or.inr inner_member)) upTo,
      (hpeaks.append_left hpre).append_right hmore⟩

lemma halts_negated {w : List Char} {gap : Gap}
    (hfar : UpTo far (behind (w ++ (gap.chars ++ ['-'])) rest))
    (h : Halts .factor far deep (factor spare (depth+1) (behind (w ++ (gap.chars ++ ['-'])) rest))) :
    Halts .factor far deep (factor (spare+1) depth (behind w (gap.chars ++ '-' :: rest))) := by
  have hminus := negation_minus depth (factor spare (depth+1)) w gap rest
  have hsign : UpTo far (behind (w ++ gap.chars) ('-' :: rest)) := by
    refine hfar.trans ?_
    simpa using upTo_behind (w ++ gap.chars) ['-'] rest
  obtain ⟨hstuck,hpeaks⟩ := h
  generalize factor spare (depth+1) (behind (w ++ (gap.chars ++ ['-'])) rest) = reply
    at hstuck hpeaks hminus
  obtain ⟨inner,outcome⟩ := reply
  rw [factor]
  cases hstuck with
  | miss =>
    rw [Reply.andThen_miss,Reply.behind_mk] at hminus
    rw [factorOver_negation_miss _ hminus]
    exact ⟨.miss,(hpeaks.append_left (by simpa using hsign)).append_right (by simp [hsign])⟩
  | tooDeep =>
    rw [Reply.andThen_tooDeep,Reply.behind_mk] at hminus
    rw [factorOver_of_negation _ hminus (by simp)]
    exact ⟨.tooDeep,hpeaks.append_left (by simpa using hsign)⟩
  | undone member => simp [Symbol.operators] at member

lemma halts_enclosed {w : List Char} {gap : Gap}
    (hfar : UpTo far (behind (w ++ (gap.chars ++ ['('])) rest))
    (h : Halts (.chain .expression) far deep
      (ruleOf spare (depth+1) (.chain .expression) (behind (w ++ (gap.chars ++ ['('])) rest))) :
    Halts .factor far deep (factor (spare+1) depth (behind w (gap.chars ++ '(' :: rest))) := by
  have hopen := factorOver_open depth (factor spare (depth+1))
    (ruleOf spare (depth+1) (.chain .expression)) w gap rest
  have hsign : UpTo far (behind (w ++ gap.chars) ('(' :: rest)) := by
    refine hfar.trans ?_
    simpa using upTo_behind (w ++ gap.chars) ['('] rest
  have hpre : Within far (List.replicate 4 ⟨behind (w ++ gap.chars) ('(' :: rest),depth⟩) := by
    simp [hsign]
  obtain ⟨hstuck,hpeaks⟩ := h
  rw [factor_succ,hopen]
  generalize ruleOf spare (depth+1) (.chain .expression) (behind (w ++ (gap.chars ++ ['('])) rest) = reply
    at hstuck hpeaks
  obtain ⟨inner,outcome⟩ := reply
  cases hstuck with
  | miss => exact ⟨.miss,hpeaks.append_left hpre⟩
  | tooDeep => exact ⟨.tooDeep,hpeaks.append_left hpre⟩
  | @undone value a tail close o member upTo =>
    have hm := token_miss (depth+1) a close (solid_operator o tail) (char_eq_none (head_operator_ne o tail))
    rw [Reply.andThen_hit,closing,Rule.bind_apply,hm,Reply.andThen_miss]
    exact ⟨.miss,(hpeaks.append_right (by simpa using upTo)).append_left hpre⟩

end Outward

/-- An obstacle inside a text is an obstacle for the whole text. -/
theorem halts_outward {limit k : Nat} {s : Symbol} {w rest : List Char} {far : Place} {deep : Bool}
    (around : Awaits limit s k w) (hfar : UpTo far (behind w rest))
    (h : Halts s far deep (ruleOf (limit-k) k s (behind w rest))) :
    Halts (.chain .expression) far deep (program limit (start (w ++ rest))) := by
  induction around generalizing rest with
  | start => exact h
  | first around ih => exact ih hfar (halts_first h)
  | @next level k w around left within gap o member ih =>
    have hback : UpTo far (behind w (left.text ++ (gap.chars ++ o.symbol :: rest))) := by
      refine hfar.trans ?_
      simpa using upTo_behind w (left.text ++ (gap.chars ++ [o.symbol])) rest
    simpa using ih hback (halts_next left (by omega) member hfar h)
  | @negated k w around room gap ih =>
    have hback : UpTo far (behind w (gap.chars ++ '-' :: rest)) := by
      refine hfar.trans ?_
      simpa using upTo_behind w (gap.chars ++ ['-']) rest
    obtain ⟨spare,hspare⟩ : ∃ m, limit-k = m+1 := ⟨limit-k-1,by omega⟩
    obtain rfl : limit-(k+1) = spare := by omega
    rw [hspare] at ih
    simpa using ih hback (halts_negated hfar h)
  | @enclosed k w around room gap ih =>
    have hback : UpTo far (behind w (gap.chars ++ '(' :: rest)) := by
      refine hfar.trans ?_
      simpa using upTo_behind w (gap.chars ++ ['(']) rest
    obtain ⟨spare,hspare⟩ : ∃ m, limit-k = m+1 := ⟨limit-k-1,by omega⟩
    obtain rfl : limit-(k+1) = spare := by omega
    rw [hspare] at ih
    simpa using ih hback (halts_enclosed hfar h)

lemma factor_eq (spare depth : Nat) :
    ∃ operand inner, factor spare depth = factorOver depth operand inner := by
  cases spare <;> exact ⟨_,_,rfl⟩

lemma factor_halts_operand (spare depth : Nat) (w : List Char) (gap : Gap) {rest : List Char}
    (solid : StartsWithout isBlank rest) (wrong : StartsWithout opensFactor rest) :
    Halts .factor (behind (w ++ gap.chars) rest) false (factor spare depth (behind w (gap.chars ++ rest))) := by
  have hd : StartsWithout Char.isDigit rest := by
    intro c hc
    have := wrong c hc
    simp_all [opensFactor]
  have hl : StartsWithout Token.isLetter rest := by
    intro c hc
    have := wrong c hc
    simp_all [opensFactor]
  have hn : rest.head? ≠ some '-' := fun h => absurd (wrong '-' h) (by decide)
  have hp : rest.head? ≠ some '(' := fun h => absurd (wrong '(' h) (by decide)
  obtain ⟨operand,inner,hf⟩ := factor_eq spare depth
  rw [hf,factorOver_miss depth operand inner solid hn hd hl hp]
  exact ⟨.miss,peaks_replicate 3 _ _⟩

lemma factor_halts_nesting (depth : Nat) (w : List Char) (gap : Gap) {c : Char} {rest : List Char}
    (opens : opensLevel c = true) :
    Halts .factor (behind (w ++ gap.chars) (c :: rest)) true
      (factor 0 depth (behind w (gap.chars ++ c :: rest))) := by
  simp only [opensLevel,Bool.or_eq_true,decide_eq_true_eq] at opens
  rw [factor]
  rcases opens with rfl | rfl
  · have hminus := negation_minus depth Rule.tooDeep w gap rest
    rw [factorOver_of_negation _ hminus (by simp [Rule.tooDeep])]
    exact ⟨.tooDeep,peaks_replicate 0 _ _⟩
  · rw [factorOver_open]
    exact ⟨.tooDeep,(peaks_replicate 3 _ _).append_right (within_nil _)⟩

/-- A parenthesis that is not closed behind a complete expression. -/
lemma factor_halts_unclosed {spare depth : Nat} (w : List Char) (opening : Gap)
    (d : Derivation (.chain .expression)) (hd : d.nesting ≤ spare) (gap : Gap) {rest : List Char}
    (solid : StartsWithout isBlank rest) (ends : d.Ends (gap.chars ++ rest))
    (stops : (Symbol.chain .expression).Stops rest) (unclosed : rest.head? ≠ some ')') :
    Halts .factor (behind (w ++ (opening.chars ++ '(' :: (d.text ++ gap.chars))) rest) false
      (factor (spare+1) depth (behind w (opening.chars ++ '(' :: (d.text ++ (gap.chars ++ rest))))) := by
  obtain ⟨trail,hr,hp⟩ := ruleOf_reads spare (depth+1) d hd (w ++ (opening.chars ++ ['('])) gap solid ends stops
  have hopen := factorOver_open depth (factor spare (depth+1))
    (ruleOf spare (depth+1) (.chain .expression)) w opening (d.text ++ (gap.chars ++ rest))
  have hm := token_miss (depth+1) (w ++ (opening.chars ++ '(' :: d.text)) gap solid (char_eq_none unclosed)
  rw [hr,Reply.andThen_hit,closing,Rule.bind_apply] at hopen
  simp only [List.append_assoc,List.cons_append,List.nil_append] at hopen hm hp
  rw [hm,Reply.andThen_miss,Reply.behind_behind,Reply.behind_mk] at hopen
  have hstart : UpTo (behind (w ++ (opening.chars ++ '(' :: (d.text ++ gap.chars))) rest)
      (behind (w ++ opening.chars) ('(' :: (d.text ++ (gap.chars ++ rest)))) := by
    simpa using upTo_behind (w ++ opening.chars) ('(' :: (d.text ++ gap.chars)) rest
  rw [factor_succ,hopen]
  exact ⟨.miss,(hp.append_left (by simp [hstart])).append_right (by simp [UpTo.refl])⟩

/-- A whole text is turned down at the place where its rules have come to an obstacle. -/
lemma parseText_of_halts {limit : Limit} {before rest : List Char} {deep : Bool}
    (hb : (before ++ rest).all isBlank = false)
    (h : Halts (.chain .expression) (behind before rest) deep
      (program limit.levels (start (before ++ rest)))) :
    parseText limit (before ++ rest) =
      .error (if deep then ⟨.nesting,Position.first.past before⟩ else .unexpected (behind before rest)) := by
  obtain ⟨hstuck,hpeaks⟩ := h
  have hc := cursor_eq hpeaks
  simp only [parseText,hb,Bool.false_eq_true,if_false]
  generalize program limit.levels (start (before ++ rest)) = reply at hstuck hpeaks hc
  obtain ⟨trail,outcome⟩ := reply
  simp only at hc
  rw [hc]
  cases hstuck with
  | miss => rfl
  | tooDeep => rfl
  | @undone value a tail gap o member upTo =>
    simp only [skipWhile_behind gap.blank (solid_operator o tail),rest_behind,List.isEmpty_cons,
      Bool.false_eq_true,if_false]
    rw [furthest_eq_left upTo]

/-- What is left behind a whole expression is turned down too. -/
lemma parseText_of_leftover {limit : Limit} (d : Derivation (.chain .expression))
    (hd : d.nesting ≤ limit.levels) (gap : Gap) {rest : List Char}
    (hb : (d.text ++ (gap.chars ++ rest)).all isBlank = false)
    (solid : StartsWithout isBlank rest) (ends : d.Ends (gap.chars ++ rest))
    (stops : (Symbol.chain .expression).Stops rest) :
    parseText limit (d.text ++ (gap.chars ++ rest)) =
      if rest.isEmpty then .ok (d.tree .first)
      else .error (.unexpected (behind (d.text ++ gap.chars) rest)) := by
  obtain ⟨trail,hr,hp⟩ := ruleOf_reads limit.levels 0 d hd [] gap solid ends stops
  have hprogram : program limit.levels (start (d.text ++ (gap.chars ++ rest))) =
      ⟨trail,.hit (d.tree .first) (behind d.text (gap.chars ++ rest))⟩ := hr
  have hc := cursor_eq (by simpa using hp)
  simp only [List.append_assoc] at hc
  simp only [parseText,hb,Bool.false_eq_true,if_false,hprogram,hc,skipWhile_behind gap.blank solid,rest_behind]
  rw [furthest_eq_left (UpTo.refl _)]

/-- The text is turned down where its obstacle stands. -/
theorem parseText_of_obstacle {limit : Limit} {before rest : List Char} {deep : Bool}
    (hb : (before ++ rest).all isBlank = false) (h : Obstacle limit.levels before rest deep) :
    parseText limit (before ++ rest) =
      .error (if deep then ⟨.nesting,Position.first.past before⟩ else .unexpected (behind before rest)) := by
  cases h with
  | @operand k w rest around gap solid wrong =>
    apply parseText_of_halts hb
    rw [List.append_assoc]
    exact halts_outward around (upTo_behind w gap.chars rest) (factor_halts_operand _ k w gap solid wrong)
  | @nesting w rest c around gap opens =>
    apply parseText_of_halts hb
    rw [List.append_assoc]
    refine halts_outward around (upTo_behind w gap.chars _) ?_
    rw [Nat.sub_self]
    exact factor_halts_nesting _ w gap opens
  | @operator k w rest around d within gap solid ends stops unclosed leftover =>
    rcases around.expression_cases with ⟨rfl,rfl⟩ | ⟨j,v,opening,rfl,rfl,hj,hv⟩
    · simp only [List.nil_append,List.append_assoc] at hb ⊢
      rw [parseText_of_leftover d (by omega) gap hb solid ends stops]
      simp [leftover rfl]
    · apply parseText_of_halts hb
      obtain ⟨spare,hspare⟩ : ∃ m, limit.levels-j = m+1 := ⟨limit.levels-j-1,by omega⟩
      have hfar := upTo_behind v (opening.chars ++ '(' :: (d.text ++ gap.chars)) rest
      simp only [List.append_assoc,List.cons_append,List.nil_append] at hfar ⊢
      refine halts_outward hv hfar ?_
      rw [hspare]
      exact factor_halts_unclosed v opening d (by omega) gap solid ends stops (unclosed (by omega))

/-- A sentence that keeps to the limit is read as its tree. -/
theorem parseText_of_sentence {limit : Limit} (sentence : Sentence) (h : sentence.nesting ≤ limit.levels) :
    parseText limit sentence.text = .ok (sentence.body.tree .first) := by
  have hb : (sentence.body.text ++ (sentence.gap.chars ++ [])).all isBlank = false := by
    obtain ⟨c,hc,hs⟩ := sentence.body.exists_solid
    exact List.all_eq_false.mpr ⟨c,List.mem_append_left _ hc,by simp [hs]⟩
  have hr := parseText_of_leftover sentence.body h sentence.gap hb (startsWithout_nil isBlank)
    (sentence.body.ends_of_breaks (breaks_append _ breaks_nil)) (by simp [Symbol.Stops])
  simpa [Sentence.text] using hr

/-- All that can come of a text: it is a sentence, or it is blank, or it has an obstacle. -/
theorem parseText_cases (limit : Limit) (text : List Char) :
    (∃ sentence : Sentence, text = sentence.text ∧ sentence.nesting ≤ limit.levels ∧
      parseText limit text = .ok (sentence.body.tree .first)) ∨
    (text.all isBlank = true ∧ parseText limit text = .error ⟨.emptyInput,.first⟩) ∨
    ∃ (before rest : List Char) (deep : Bool), text = before ++ rest ∧ text.all isBlank = false ∧
      Obstacle limit.levels before rest deep ∧ parseText limit text =
        .error (if deep then ⟨.nesting,Position.first.past before⟩ else .unexpected (behind before rest)) := by
  rcases sentence_or_obstructed limit.levels text with ⟨sentence,rfl,hn⟩ | ⟨before,rest,deep,rfl,hobs⟩
  · exact Or.inl ⟨sentence,rfl,hn,parseText_of_sentence sentence hn⟩
  · cases hb : (before ++ rest).all isBlank with
    | true => exact Or.inr (Or.inl ⟨rfl,by simp only [parseText,hb,if_true]⟩)
    | false => exact Or.inr (Or.inr ⟨before,rest,deep,rfl,rfl,hobs,parseText_of_obstacle hb hobs⟩)

/-- A text that is read is a sentence, and is read as its tree. -/
theorem sentence_of_parseText {limit : Limit} {text : List Char} {tree : Expr}
    (h : parseText limit text = .ok tree) : ∃ sentence : Sentence, text = sentence.text ∧
      sentence.nesting ≤ limit.levels ∧ tree = sentence.body.tree .first := by
  rcases parseText_cases limit text with
    ⟨sentence,ht,hn,hok⟩ | ⟨-,herr⟩ | ⟨before,rest,deep,-,-,-,herr⟩
  · rw [hok] at h
    cases h
    exact ⟨sentence,ht,hn,rfl⟩
  · rw [herr] at h
    cases h
  · rw [herr] at h
    cases h

/-- A text is turned down because it is blank, because it could go on where it ends, or for the character
that stands in the way. -/
theorem parseText_error_cases {limit : Limit} {text : List Char} {rejection : Rejection}
    (h : parseText limit text = .error rejection) :
    (text.all isBlank = true ∧ rejection = ⟨.emptyInput,.first⟩) ∨
    (Obstacle limit.levels text [] false ∧ rejection = ⟨.endOfInput,Position.first.past text⟩) ∨
    ∃ (before : List Char) (c : Char) (rest : List Char) (deep : Bool), text = before ++ c :: rest ∧
      Obstacle limit.levels before (c :: rest) deep ∧
      rejection = ⟨if deep then .nesting else .badToken,Position.first.past before⟩ := by
  rcases parseText_cases limit text with
    ⟨sentence,-,-,hok⟩ | ⟨hb,herr⟩ | ⟨before,rest,deep,rfl,-,hobs,herr⟩
  · rw [hok] at h
    cases h
  · rw [herr] at h
    cases h
    exact Or.inl ⟨hb,rfl⟩
  · rw [herr] at h
    cases h
    refine Or.inr ?_
    cases deep with
    | true =>
      obtain ⟨c,tail,rfl⟩ := hobs.exists_head
      exact Or.inr ⟨before,c,tail,true,rfl,hobs,rfl⟩
    | false =>
      cases rest with
      | nil =>
        rw [List.append_nil]
        exact Or.inl ⟨hobs,rfl⟩
      | cons c tail => exact Or.inr ⟨before,c,tail,false,rfl,hobs,rfl⟩

end Formula.Grammar
