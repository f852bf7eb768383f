import Formula.Proofs.Reading

/-! Every rule reads on. A rule that applies stops at least a character behind the place where it was
called, so no repetition stalls; and what it looks for never lies deeper than the limit allows. -/
namespace Formula

namespace Place

/-- At least `least` characters lie between the two places. -/
def Onward (least : Nat) (place later : Place) : Prop :=
  ∃ n, least ≤ n ∧ n ≤ place.rest.length ∧ later = place.skip n

@[refl] lemma Onward.refl (place : Place) : Onward 0 place place :=
  ⟨0,by simp⟩

lemma Onward.mono {a b : Nat} {place later : Place} (h : Onward a place later) (hb : b ≤ a) :
    Onward b place later := by
  obtain ⟨n,ha,hn,rfl⟩ := h
  exact ⟨n,by omega,hn,rfl⟩

lemma Onward.trans {a b : Nat} {p q r : Place} (h : Onward a p q) (h' : Onward b q r) :
    Onward (a+b) p r := by
  obtain ⟨n,ha,hn,rfl⟩ := h
  obtain ⟨m,hb,hm,rfl⟩ := h'
  rw [rest_skip,List.length_drop] at hm
  exact ⟨n+m,by omega,by omega,skip_skip p n m⟩

lemma Onward.length_le {least : Nat} {place later : Place} (h : Onward least place later) :
    least + later.rest.length ≤ place.rest.length := by
  obtain ⟨n,hl,hn,rfl⟩ := h
  rw [rest_skip,List.length_drop]
  omega

lemma Onward.ne {place later : Place} (h : Onward 1 place later) : later ≠ place := by
  rintro rfl
  have := h.length_le
  omega

lemma onward_skipWhile (place : Place) (good : Char → Bool) : Onward 0 place (place.skipWhile good) :=
  ⟨_,Nat.zero_le _,(List.takeWhile_prefix good).length_le,rfl⟩

/-- What lies between two places is a part of the text, from one character on. -/
lemma Onward.exists_read {least : Nat} {place later : Place} (h : Onward least place later) :
    ∃ read : List Char, least ≤ read.length ∧ place.rest = read ++ later.rest ∧
      later.offset = place.offset + byteLength read ∧ later.position = place.position.past read := by
  obtain ⟨n,hl,hn,rfl⟩ := h
  refine ⟨place.rest.take n,?_,(List.take_append_drop n place.rest).symm,rfl,rfl⟩
  rw [List.length_take]
  omega

lemma startsWithout_skipWhile (place : Place) (good : Char → Bool) :
    StartsWithout good (place.skipWhile good).rest := by
  obtain ⟨a,b,h,ha,hb⟩ := exists_run good place.rest
  rw [skipWhile,rest_skip,h,takeWhile_append_eq ha hb,List.drop_left]
  exact hb

end Place

open Place

variable {α β : Type}

/-- A reply to a call at a place, under a limit on the depth: the stands lie further on, in front of
something else than a blank and no deeper than the limit, a hit has read at least `least` characters, and
no repetition has stalled. -/
structure Reply.Advances (least limit : Nat) (place : Place) (reply : Reply α) : Prop where
  stands : ∀ stand ∈ reply.trail, Onward 0 place stand.place ∧
    StartsWithout isBlank stand.place.rest ∧ stand.depth ≤ limit
  hits : ∀ value rest, reply.outcome = .hit value rest → Onward least place rest
  settled : reply.outcome ≠ .stalled

namespace Reply.Advances

variable {a b limit : Nat} {place rest : Place} {reply : Reply α} {next : Reply β}

lemma mono (h : reply.Advances a limit place) (hb : b ≤ a) : reply.Advances b limit place :=
  ⟨h.stands,fun value rest hr => (h.hits value rest hr).mono hb,h.settled⟩

/-- A reply that goes on behind a hit. -/
lemma behind {value : α} (h : reply.Advances a limit place) (hr : reply.outcome = .hit value rest)
    (hn : next.Advances b limit rest) : (next.behind reply.trail).Advances (a+b) limit place := by
  have hrest := h.hits value rest hr
  refine ⟨?_,fun value last hl => hrest.trans (hn.hits value last hl),hn.settled⟩
  intro stand hs
  rcases List.mem_append.mp hs with hs | hs
  · exact h.stands stand hs
  · obtain ⟨hplace,hsolid,hdepth⟩ := hn.stands stand hs
    exact ⟨(hrest.trans hplace).mono (by omega),hsolid,hdepth⟩

end Reply.Advances

namespace Rule

/-- All replies of the rule advance. -/
def Advances (least limit : Nat) (rule : Rule α) : Prop := ∀ place, (rule place).Advances least limit place

variable {a b limit depth : Nat}

lemma Advances.mono {rule : Rule α} (h : rule.Advances a limit) (hb : b ≤ a) : rule.Advances b limit :=
  fun place => (h place).mono hb

lemma advances_pure (limit : Nat) (value : α) : (pure value : Rule α).Advances 0 limit := by
  intro place
  refine ⟨by simp,?_,by simp⟩
  rintro _ _ ⟨⟩
  rfl

lemma advances_tooDeep (least limit : Nat) : (tooDeep : Rule α).Advances least limit :=
  fun _ => ⟨by simp [tooDeep],by simp [tooDeep],by simp [tooDeep]⟩

/-- Behind each other, rules read the sum of what they read at least. -/
lemma Advances.bind {rule : Rule α} {next : α → Rule β} (h : rule.Advances a limit)
    (hn : ∀ value, (next value).Advances b limit) : (rule >>= next).Advances (a+b) limit := by
  intro place
  have hp := h place
  simp only [bind_apply,Reply.andThen]
  split
  · next value rest hr => exact hp.behind hr (hn value rest)
  · exact ⟨hp.stands,by simp,by simp⟩
  · exact ⟨hp.stands,by simp,by simp⟩
  · next hr => exact absurd hr hp.settled

lemma Advances.orElse {rule other : Rule α} (h : rule.Advances a limit) (ho : other.Advances a limit) :
    (rule <|> other).Advances a limit := by
  intro place
  have hp := h place
  have hq := ho place
  rw [orElse_apply,Rule.orElse]
  split
  · refine ⟨?_,hq.hits,hq.settled⟩
    intro stand hs
    exact (List.mem_append.mp hs).elim (hp.stands stand) (hq.stands stand)
  · exact hp

/-- If every round reads a character, a repetition has rounds enough, and ends with a miss. -/
lemma iterate_advances {round : α → Rule α} (h : ∀ value, (round value).Advances 1 limit) {rounds : Nat}
    (value : α) {place : Place} (hp : place.rest.length < rounds) :
    (iterate round rounds value place).Advances 0 limit place := by
  induction rounds generalizing value place with
  | zero => omega
  | succ rounds ih =>
    have hr := h value place
    simp only [iterate]
    split
    · next next rest hhit =>
      have hrest := hr.hits next rest hhit
      have hlength := hrest.length_le
      -- The round has left its place, so it is not taken for a stalled one.
      rw [if_neg hrest.ne]
      exact (hr.behind hhit (ih next (by omega))).mono (by omega)
    · refine ⟨hr.stands,?_,by simp⟩
      rintro _ _ ⟨⟩
      rfl
    · exact ⟨hr.stands,by simp,by simp⟩
    · next hs => exact absurd hs hr.settled

lemma Advances.repeated {round : α → Rule α} (h : ∀ value, (round value).Advances 1 limit) (value : α) :
    (Rule.repeated round value).Advances 0 limit :=
  fun _ => iterate_advances h value (Nat.lt_succ_self _)

end Rule

/-- A reader that finds something takes at least a character, and no more than there are. -/
def Token.Takes (read : List Char → Option (α × Nat)) : Prop :=
  ∀ text value n, read text = some (value,n) → 0 < n ∧ n ≤ text.length

lemma Rule.advances_token {limit depth : Nat} {read : List Char → Option (α × Nat)} (h : Token.Takes read)
    (hd : depth ≤ limit) : (Rule.token depth read).Advances 1 limit := by
  intro place
  have hhere := place.onward_skipWhile isBlank
  refine ⟨?_,?_,?_⟩
  · intro stand hs
    obtain rfl := List.mem_singleton.mp hs
    exact ⟨hhere,place.startsWithout_skipWhile isBlank,hd⟩
  · intro value rest hr
    simp only [Rule.token] at hr
    split at hr
    · next found n hread =>
      obtain ⟨hpos,hle⟩ := h _ _ _ hread
      cases hr
      exact (hhere.trans (b := 1) ⟨n,hpos,hle,rfl⟩).mono (by omega)
    · cases hr
  · simp only [Rule.token]
    split <;> simp

namespace Grammar
open Token

lemma takes_char (c : Char) : Takes (Token.char c) := by
  intro text value n h
  cases text with
  | nil => cases h
  | cons d text =>
    simp only [Token.char] at h
    split at h
    · cases h
      simp
    · cases h

lemma takes_operator (among : List Operator) : Takes (Token.operator among) := by
  intro text value n h
  cases text with
  | nil => cases h
  | cons d text =>
    simp only [Token.operator,Option.map_eq_some_iff,Prod.mk.injEq] at h
    obtain ⟨o,-,-,rfl⟩ := h
    simp

lemma takes_number : Takes Token.number := by
  intro text value n h
  obtain ⟨numeral,rest,rfl,-,-,rfl⟩ := exists_of_number h
  obtain ⟨c,tail,hc,-⟩ := numeral.exists_digit
  simp [hc]

lemma takes_identifier : Takes Token.identifier := by
  intro text value n h
  obtain ⟨word,rest,rfl,-,-,rfl⟩ := exists_of_identifier h
  simp [Word.chars]

section Rules

variable {depth limit : Nat} {operand inner : Rule Expr}

lemma round_advances (among : List Operator) (hd : depth ≤ limit) (hop : operand.Advances 1 limit)
    (left : Expr) : (round depth among operand left).Advances 1 limit := by
  have h : (round depth among operand left).Advances (1+(1+0)) limit := by
    refine (Rule.advances_token (takes_operator among) hd).bind ?_
    rintro ⟨position,operator⟩
    exact hop.bind fun right => Rule.advances_pure limit _
  exact h.mono (by omega)

lemma leftAssociative_advances (among : List Operator) (hd : depth ≤ limit) (hop : operand.Advances 1 limit) :
    (leftAssociative depth among operand).Advances 1 limit :=
  hop.bind (Rule.Advances.repeated (round_advances among hd hop))

lemma negation_advances (hd : depth ≤ limit) (hop : operand.Advances 0 limit) :
    (negation depth operand).Advances 1 limit := by
  refine (Rule.advances_token (takes_char '-') hd).bind (b := 0) ?_
  rintro ⟨position,sign⟩
  exact hop.bind fun value => Rule.advances_pure limit _

lemma number_advances (hd : depth ≤ limit) : (number depth).Advances 1 limit := by
  refine (Rule.advances_token takes_number hd).bind (b := 0) ?_
  rintro ⟨position,value⟩
  exact Rule.advances_pure limit _

lemma identifier_advances (hd : depth ≤ limit) : (identifier depth).Advances 1 limit := by
  refine (Rule.advances_token takes_identifier hd).bind (b := 0) ?_
  rintro ⟨position,name⟩
  exact Rule.advances_pure limit _

/-- The closing parenthesis is looked for one level further in, and only behind what could be read there. -/
lemma parenthesized_advances (hd : depth ≤ limit) (hin : inner.Advances 0 limit)
    (hclose : depth < limit ∨ inner = .tooDeep) : (parenthesized depth inner).Advances 1 limit := by
  refine (Rule.advances_token (takes_char '(') hd).bind (b := 0) fun _ => ?_
  rcases hclose with hclose | rfl
  · refine hin.bind (b := 0) fun value => ?_
    have h := (Rule.advances_token (takes_char ')') hclose).bind fun _ => Rule.advances_pure limit value
    exact h.mono (by omega)
  · exact Rule.advances_tooDeep 0 limit

lemma factorOver_advances (hd : depth ≤ limit) (hop : operand.Advances 0 limit) (hin : inner.Advances 0 limit)
    (hclose : depth < limit ∨ inner = .tooDeep) : (factorOver depth operand inner).Advances 1 limit :=
  (negation_advances hd hop).orElse ((number_advances hd).orElse ((identifier_advances hd).orElse
    (parenthesized_advances hd hin hclose)))

end Rules

lemma advances_expression {spare depth limit : Nat} (hd : depth ≤ limit)
    (h : (factor spare depth).Advances 1 limit) : (expression depth (factor spare depth)).Advances 1 limit :=
  leftAssociative_advances _ hd (leftAssociative_advances _ hd h)

/-- A factor reads on, and opens no more levels than it has to spare. -/
theorem factor_advances (spare depth : Nat) : (factor spare depth).Advances 1 (depth+spare) := by
  induction spare generalizing depth with
  | zero =>
    have hdeep : (Rule.tooDeep : Rule Expr).Advances 0 (depth+0) := Rule.advances_tooDeep 0 _
    exact factorOver_advances (Nat.le_refl _) hdeep hdeep (Or.inr rfl)
  | succ spare ih =>
    have hfactor := ih (depth+1)
    rw [Nat.add_right_comm] at hfactor
    exact factorOver_advances (by omega) (hfactor.mono (by omega))
      ((advances_expression (by omega) hfactor).mono (by omega)) (Or.inl (by omega))

theorem ruleOf_advances (spare depth : Nat) (s : Symbol) : (ruleOf spare depth s).Advances 1 (depth+spare) := by
  have hfactor := factor_advances spare depth
  match s with
  | .factor => exact hfactor
  | .chain .term => exact leftAssociative_advances _ (by omega) hfactor
  | .chain .expression => exact advances_expression (by omega) hfactor

end Grammar

namespace Rule

/-- Before anything else, the rule looks behind the blanks for a token of the given depth. -/
def Starts (depth : Nat) (rule : Rule α) : Prop :=
  ∀ place, ∃ later, (rule place).trail = ⟨place.skipWhile isBlank,depth⟩ :: later

variable {depth : Nat}

lemma starts_token (depth : Nat) (read : List Char → Option (α × Nat)) : (token depth read).Starts depth :=
  fun _ => ⟨[],rfl⟩

lemma Starts.bind {rule : Rule α} (h : rule.Starts depth) (next : α → Rule β) : (rule >>= next).Starts depth := by
  intro place
  obtain ⟨later,hl⟩ := h place
  simp only [bind_apply,Reply.andThen]
  split
  · next value rest hr => exact ⟨later ++ (next value rest).trail,by simp [hl]⟩
  · exact ⟨later,hl⟩
  · exact ⟨later,hl⟩
  · exact ⟨later,hl⟩

lemma Starts.orElse {rule : Rule α} (h : rule.Starts depth) (other : Rule α) : (rule <|> other).Starts depth := by
  intro place
  obtain ⟨later,hl⟩ := h place
  rw [orElse_apply,Rule.orElse]
  split
  · exact ⟨later ++ (other place).trail,by simp [hl]⟩
  · exact ⟨later,hl⟩

end Rule

namespace Grammar
open Token

/-- The parts of expressions that the grammar has rules for. -/
inductive Part where
  | expression | term | factor | negation | number | identifier | parenthesized
  deriving DecidableEq, Repr

/-- What is read one level further in, if the limit leaves a level. -/
def deeper (levels depth : Nat) (s : Symbol) : Rule Expr :=
  if depth < levels then ruleOf (levels-(depth+1)) (depth+1) s else .tooDeep

/-- The rule for a part, as it is called at a depth under a limit. -/
def Part.rule (levels depth : Nat) : Part → Rule Expr
  | .expression => Grammar.expression depth (Grammar.factor (levels-depth) depth)
  | .term => Grammar.term depth (Grammar.factor (levels-depth) depth)
  | .factor => Grammar.factor (levels-depth) depth
  | .negation => Grammar.negation depth (deeper levels depth .factor)
  | .number => Grammar.number depth
  | .identifier => Grammar.identifier depth
  | .parenthesized => Grammar.parenthesized depth (deeper levels depth (.chain .expression))

/-- A factor is one of its four kinds, called at the same depth. -/
lemma rule_factor (levels depth : Nat) : Part.factor.rule levels depth =
    (Part.negation.rule levels depth <|> Part.number.rule levels depth <|>
      Part.identifier.rule levels depth <|> Part.parenthesized.rule levels depth) := by
  by_cases h : depth < levels
  · obtain ⟨spare,rfl⟩ : ∃ spare, levels = depth+1+spare := ⟨levels-(depth+1),by omega⟩
    have hdepth : depth+1+spare-depth = spare+1 := by omega
    have hdeeper (s : Symbol) : deeper (depth+1+spare) depth s = ruleOf spare (depth+1) s := by
      rw [deeper,if_pos h,Nat.add_sub_cancel_left]
    simp only [Part.rule,hdepth,hdeeper]
    rfl
  · have hdepth : levels-depth = 0 := by omega
    simp only [Part.rule,deeper,h,if_false,hdepth]
    rfl

lemma deeper_advances (levels depth : Nat) (s : Symbol) :
    (deeper levels depth s).Advances 0 (max depth levels) := by
  unfold deeper
  split
  · next h =>
    have hrule := ruleOf_advances (levels-(depth+1)) (depth+1) s
    rw [Nat.add_sub_cancel' h] at hrule
    rw [Nat.max_eq_right (Nat.le_of_lt h)]
    exact hrule.mono (by omega)
  · exact Rule.advances_tooDeep 0 _

/-- Whatever its depth, the rule of every part reads on and keeps to the limit. -/
theorem Part.advances (part : Part) (levels depth : Nat) :
    (part.rule levels depth).Advances 1 (max depth levels) := by
  have hd := Nat.le_max_left depth levels
  have hfactor := factor_advances (levels-depth) depth
  rw [show depth+(levels-depth) = max depth levels by omega] at hfactor
  cases part with
  | expression => exact advances_expression hd hfactor
  | term => exact leftAssociative_advances _ hd hfactor
  | factor => exact hfactor
  | negation => exact negation_advances hd (deeper_advances levels depth .factor)
  | number => exact number_advances hd
  | identifier => exact identifier_advances hd
  | parenthesized =>
    refine parenthesized_advances hd (deeper_advances levels depth _) ?_
    by_cases h : depth < levels
    · exact Or.inl (by omega)
    · exact Or.inr (if_neg h)

theorem Part.starts (part : Part) (levels depth : Nat) : (part.rule levels depth).Starts depth := by
  have hfactor : (Part.factor.rule levels depth).Starts depth := by
    rw [rule_factor]
    exact ((Rule.starts_token depth _).bind _).orElse _
  cases part with
  | expression => exact (hfactor.bind _).bind _
  | term => exact hfactor.bind _
  | factor => exact hfactor
  | negation | number | identifier | parenthesized => exact (Rule.starts_token depth _).bind _

/-- Every rule that applies has read something, whatever the depth it is called at; no repetition stalls,
and no number that was found fails to be converted. As a call at a depth starts with a stand of this depth,
the stands show that no call is deeper than the limit, and a short word is enough to count the levels. -/
theorem rules_read_on (limit : Limit) :
    (∀ (part : Part) (depth : Nat) (place : Place),
      (∀ tree rest, (part.rule limit.levels depth place).outcome = .hit tree rest →
        ∃ read : List Char, read ≠ [] ∧ place.rest = read ++ rest.rest ∧
          rest.offset = place.offset + byteLength read ∧ rest.position = place.position.past read) ∧
      (part.rule limit.levels depth place).outcome ≠ .stalled ∧
      (∃ later, (part.rule limit.levels depth place).trail = ⟨place.skipWhile isBlank,depth⟩ :: later) ∧
      ∀ stand ∈ (part.rule limit.levels depth place).trail, stand.depth ≤ max depth limit.levels) ∧
    (∀ (place : Place), ∀ stand ∈ (program limit.levels place).trail,
      stand.depth < limit.levels+1 ∧ stand.depth+1 < UInt16.size) ∧
    (Takes Token.number ∧ Takes Token.identifier ∧ ∀ level : Level, Takes (Token.operator level.operators)) ∧
    ∀ text : List Char, (∃ pieces, Token.fragments text = some pieces) ∧
      ∀ taken, Token.numeral text = some taken → ∃ value, Binary64.ofDecimal? taken = some value := by
  refine ⟨?_,?_,⟨takes_number,takes_identifier,fun level => takes_operator _⟩,?_⟩
  · intro part depth place
    have h := part.advances limit.levels depth place
    refine ⟨?_,h.settled,part.starts limit.levels depth place,fun stand hs => (h.stands stand hs).2.2⟩
    intro tree rest hr
    obtain ⟨read,hlength,hread⟩ := (h.hits tree rest hr).exists_read
    exact ⟨read,List.ne_nil_of_length_pos hlength,hread⟩
  · intro place stand hs
    have hdepth := ((Part.expression.advances limit.levels 0 place).stands stand hs).2.2
    have hceiling := limit.levels_le
    have hword : UInt16.size = 65536 := rfl
    rw [nestingCeiling] at hceiling
    omega
  · intro text
    obtain ⟨pieces,hp,-⟩ := Token.exists_fragments text
    refine ⟨⟨pieces,hp⟩,?_⟩
    intro taken ht
    obtain ⟨numeral,rest,-,-,rfl⟩ := exists_of_numeral ht
    exact ⟨numeral.value,numeral.ofDecimal?_chars⟩

/-- Behind a sign, with one level left: a name of three fragments in front of a point, and a number in
front of one. -/
theorem rules_read_on_behind_sign :
    (Part.negation.rule 1 0 (start " -x_1.".toList)).outcome =
      .hit (.negate (.identifier "x_1" ⟨1,3⟩) ⟨1,2⟩) ⟨5,⟨1,6⟩,['.']⟩ ∧
    (∃ read : List Char, read ≠ [] ∧ " -x_1.".toList = read ++ ['.'] ∧ 5 = 0 + byteLength read ∧
      ⟨1,6⟩ = Position.first.past read) ∧
    (∀ stand ∈ (Part.negation.rule 1 0 (start " -x_1.".toList)).trail, stand.depth ≤ max 0 1) ∧
    Token.numeral "2.x".toList = some ['2'] ∧ ∃ value, Binary64.ofDecimal? ['2'] = some value := by
  have hhit : (Part.negation.rule 1 0 (start " -x_1.".toList)).outcome =
      .hit (.negate (.identifier "x_1" ⟨1,3⟩) ⟨1,2⟩) ⟨5,⟨1,6⟩,['.']⟩ := by decide +kernel
  have hnumeral : Token.numeral "2.x".toList = some ['2'] := by decide +kernel
  obtain ⟨hrules,-,-,htokens⟩ := rules_read_on (.ofRequest 1)
  obtain ⟨hread,-,-,hdepth⟩ := hrules .negation 0 (start " -x_1.".toList)
  exact ⟨hhit,hread _ _ hhit,hdepth,hnumeral,(htokens "2.x".toList).2 _ hnumeral⟩

end Grammar
end Formula
