import Formula.Proofs.Rejection
import Formula.Proofs.Spacing
import Formula.Proofs.Unambiguous

/-! Layout does not matter. Other blanks between the same characters leave every verdict as it is, and
move the places it speaks of along with their characters. A text that is read may also have its blanks
between tokens taken out, or others put in. -/
namespace Formula.Grammar
open Token

/-! The lexemes of a derivation are all that it says about its text. -/

lemma Numeral.chars_solid (numeral : Numeral) : ∀ c ∈ numeral.chars, isBlank c = false := by
  intro c hc
  rcases numeral.chars_digits c hc with hd | rfl
  · exact isBlank_of_isWordChar (isWordChar_of_isDigit hd)
  · decide

def Numeral.lexeme (numeral : Numeral) : Lexeme where
  chars := numeral.chars
  ne_nil := by
    obtain ⟨c,tail,hc,-⟩ := numeral.exists_digit
    simp [hc]
  solid := numeral.chars_solid

def Word.lexeme (word : Word) : Lexeme where
  chars := word.chars
  ne_nil := by simp [chars]
  solid c hc := isBlank_of_isWordChar (word.chars_word c hc)

@[simp] theorem Numeral.chars_lexeme (numeral : Numeral) : numeral.lexeme.chars = numeral.chars := rfl
@[simp] theorem Word.chars_lexeme (word : Word) : word.lexeme.chars = word.chars := rfl

def charLexeme (c : Char) (hc : isBlank c = false) : Lexeme := ⟨[c],by simp,by simpa using hc⟩

@[simp] theorem chars_charLexeme (c : Char) (hc : isBlank c = false) : (charLexeme c hc).chars = [c] := rfl

def operatorLexeme (o : Operator) : Lexeme :=
  charLexeme o.symbol (startsWithout_cons.mp (solid_operator o []))

@[simp] theorem chars_operatorLexeme (o : Operator) : (operatorLexeme o).chars = [o.symbol] := rfl

namespace Derivation

def lexemes : {s : Symbol} → Derivation s → List Lexeme
  | _, number _ numeral => [numeral.lexeme]
  | _, identifier _ word => [word.lexeme]
  | _, negation _ operand => charLexeme '-' (by decide) :: operand.lexemes
  | _, parentheses _ inner _ =>
    charLexeme '(' (by decide) :: (inner.lexemes ++ [charLexeme ')' (by decide)])
  | _, single operand => operand.lexemes
  | _, more left _ operator _ right => left.lexemes ++ operatorLexeme operator :: right.lexemes

lemma lexemes_ne_nil {s : Symbol} (d : Derivation s) : d.lexemes ≠ [] := by
  induction d with
  | number | identifier | negation | parentheses | more => simp [lexemes]
  | single operand ih => exact ih

theorem spells {s : Symbol} (d : Derivation s) : Spells d.lexemes d.text := by
  induction d with
  | number gap numeral => exact .one gap numeral.lexeme
  | identifier gap word => exact .one gap word.lexeme
  | negation gap operand ih => exact .cons gap (charLexeme '-' (by decide)) ih
  | parentheses gap inner close ih =>
    exact .cons gap (charLexeme '(' (by decide)) (ih.append (.one close (charLexeme ')' (by decide))))
  | single operand ih => exact ih
  | more left gap operator member right ihl ihr =>
    exact ihl.append (.cons gap (operatorLexeme operator) ihr)

/-- Derivations that differ in their gaps only. -/
inductive Alike : {s : Symbol} → Derivation s → Derivation s → Prop where
  | number (gap gap' : Gap) (numeral : Numeral) : Alike (.number gap numeral) (.number gap' numeral)
  | identifier (gap gap' : Gap) (word : Word) : Alike (.identifier gap word) (.identifier gap' word)
  | negation (gap gap' : Gap) {d e : Derivation .factor} (h : Alike d e) :
      Alike (.negation gap d) (.negation gap' e)
  | parentheses (gap gap' close close' : Gap) {d e : Derivation (.chain .expression)} (h : Alike d e) :
      Alike (.parentheses gap d close) (.parentheses gap' e close')
  | single {level : Level} {d e : Derivation level.operand} (h : Alike d e) :
      Alike (.single d) (.single e)
  | more {level : Level} (gap gap' : Gap) (operator : Operator) (member : operator ∈ level.operators)
      {d e : Derivation (.chain level)} (left : Alike d e) {d' e' : Derivation level.operand}
      (right : Alike d' e') : Alike (.more d gap operator member d') (.more e gap' operator member e')

/-- Whatever has the lexemes of a derivation has a derivation alike. -/
theorem respell {s : Symbol} (d : Derivation s) {text : List Char} (h : Spells d.lexemes text) :
    ∃ e : Derivation s, e.text = text ∧ d.Alike e := by
  induction d generalizing text with
  | number gap numeral =>
    obtain ⟨gap',rfl⟩ := h.exists_one
    exact ⟨.number gap' numeral,rfl,.number gap gap' numeral⟩
  | identifier gap word =>
    obtain ⟨gap',rfl⟩ := h.exists_one
    exact ⟨.identifier gap' word,rfl,.identifier gap gap' word⟩
  | negation gap operand ih =>
    obtain ⟨gap',rest,rfl,hr⟩ := h.exists_cons
    obtain ⟨e,rfl,he⟩ := ih hr
    exact ⟨.negation gap' e,rfl,.negation gap gap' he⟩
  | parentheses gap inner close ih =>
    obtain ⟨gap',rest,rfl,hr⟩ := h.exists_cons
    obtain ⟨u,v,rfl,hu,hv⟩ := hr.exists_append
    obtain ⟨e,rfl,he⟩ := ih hu
    obtain ⟨close',rfl⟩ := hv.exists_one
    exact ⟨.parentheses gap' e close',rfl,.parentheses gap gap' close close' he⟩
  | single operand ih =>
    obtain ⟨e,rfl,he⟩ := ih h
    exact ⟨.single e,rfl,.single he⟩
  | more left gap operator member right ihl ihr =>
    obtain ⟨u,v,rfl,hu,hv⟩ := h.exists_append
    obtain ⟨l,rfl,hl⟩ := ihl hu
    obtain ⟨gap',rest,rfl,hrest⟩ := hv.exists_cons
    obtain ⟨r,rfl,hr⟩ := ihr hrest
    exact ⟨.more l gap' operator member r,rfl,.more gap gap' operator member hl hr⟩

namespace Alike

variable {s : Symbol} {d e : Derivation s}

lemma lexemes_eq (h : d.Alike e) : d.lexemes = e.lexemes := by
  induction h with
  | number | identifier => rfl
  | negation gap gap' h ih => simp [lexemes,ih]
  | parentheses gap gap' close close' h ih => simp [lexemes,ih]
  | single h ih => exact ih
  | more gap gap' operator member left right ihl ihr => simp [lexemes,ihl,ihr]

lemma solids_text (h : d.Alike e) : solids d.text = solids e.text := by
  rw [d.spells.solids_eq,e.spells.solids_eq,h.lexemes_eq]

lemma nesting_eq (h : d.Alike e) : d.nesting = e.nesting := by
  induction h with
  | number | identifier => rfl
  | negation gap gap' h ih => simp [nesting,ih]
  | parentheses gap gap' close close' h ih => simp [nesting,ih]
  | single h ih => exact ih
  | more gap gap' operator member left right ihl ihr => simp [nesting,ihl,ihr]

lemma ends (h : d.Alike e) {rest : List Char} (hd : d.Ends rest) : e.Ends rest := by
  induction h with
  | number | identifier | parentheses => exact hd
  | negation gap gap' h ih => exact ih hd
  | single h ih => exact ih hd
  | more gap gap' operator member left right ihl ihr => exact ihr hd

end Alike

/-- Other blanks do not join what follows to the last token. -/
lemma ends_respaced {s : Symbol} (d : Derivation s) {a b : List Char} (h : Respaced true a b)
    (ha : d.Ends a) : d.Ends b := by
  cases h with
  | blank gap gap' => exact d.ends_of_breaks (by simpa using breaks_append gap' breaks_nil)
  | @solid _ gap gap' same c hc rest rest' h =>
    by_cases hg : gap'.chars = []
    · rw [(same rfl).mpr hg,List.nil_append] at ha
      rw [hg,List.nil_append]
      -- Only for a point does it matter what follows: behind digits it may start a fraction.
      by_cases hp : c = '.'
      · subst hp
        rw [d.ends_point] at ha ⊢
        intro hw
        refine h.startsWithout ?_ (ha hw)
        intro c hb
        by_contra hd
        exact absurd (isBlank_of_isWordChar (isWordChar_of_isDigit (eq_true_of_ne_false hd))) (by simp [hb])
      · exact d.ends_of_head hp ha rest'
    · obtain ⟨b,chars,hb⟩ := List.exists_cons_of_ne_nil hg
      rw [hb]
      exact d.ends_of_breaks (breaks_cons.mpr (isWordChar_of_isBlank (gap'.blank b (by simp [hb]))))

/-- A derivation alike stands at the head of a text with other blanks. -/
theorem respaced {s : Symbol} (d : Derivation s) {inside : Bool} {rest other : List Char}
    (h : Respaced inside (d.text ++ rest) other) :
    ∃ (e : Derivation s) (rest' : List Char), other = e.text ++ rest' ∧ d.Alike e ∧ Respaced true rest rest' := by
  obtain ⟨text,rest',rfl,htext,hrest⟩ := d.spells.respaced h
  obtain ⟨e,rfl,he⟩ := d.respell htext
  rw [List.isEmpty_eq_false_iff.mpr d.lexemes_ne_nil,Bool.not_false,Bool.or_true] at hrest
  exact ⟨e,rest',rfl,he,hrest⟩

end Derivation

/-- What is looked for behind a text hangs on its lexemes. -/
theorem Awaits.respell {limit k : Nat} {s : Symbol} {w : List Char} (h : Awaits limit s k w) :
    ∃ lexemes : List Lexeme, Spells lexemes w ∧ ∀ w', Spells lexemes w' → Awaits limit s k w' := by
  induction h with
  | start =>
    refine ⟨[],.nil,?_⟩
    rintro w' ⟨⟩
    exact .start
  | first around ih =>
    obtain ⟨lexemes,hw,hall⟩ := ih
    exact ⟨lexemes,hw,fun w' h => .first (hall w' h)⟩
  | next around left within gap member ih =>
    obtain ⟨lexemes,hw,hall⟩ := ih
    refine ⟨_,hw.append (left.spells.append (.one gap (operatorLexeme _))),?_⟩
    intro w' h
    obtain ⟨u,v,rfl,hu,hv⟩ := h.exists_append
    obtain ⟨l,o,rfl,hl,ho⟩ := hv.exists_append
    obtain ⟨left',rfl,halike⟩ := left.respell hl
    obtain ⟨gap',rfl⟩ := ho.exists_one
    exact .next (hall u hu) left' (halike.nesting_eq ▸ within) gap' member
  | negated around room gap ih =>
    obtain ⟨lexemes,hw,hall⟩ := ih
    refine ⟨_,hw.append (.one gap (charLexeme '-' (by decide))),?_⟩
    intro w' h
    obtain ⟨u,v,rfl,hu,hv⟩ := h.exists_append
    obtain ⟨gap',rfl⟩ := hv.exists_one
    exact .negated (hall u hu) room gap'
  | enclosed around room gap ih =>
    obtain ⟨lexemes,hw,hall⟩ := ih
    refine ⟨_,hw.append (.one gap (charLexeme '(' (by decide))),?_⟩
    intro w' h
    obtain ⟨u,v,rfl,hu,hv⟩ := h.exists_append
    obtain ⟨gap',rfl⟩ := hv.exists_one
    exact .enclosed (hall u hu) room gap'

lemma Awaits.respaced {limit k : Nat} {s : Symbol} {w rest other : List Char} (h : Awaits limit s k w)
    (hr : Respaced false (w ++ rest) other) :
    ∃ w' rest', other = w' ++ rest' ∧ Awaits limit s k w' ∧ solids w = solids w' ∧ Respaced false rest rest' := by
  obtain ⟨lexemes,hw,hall⟩ := h.respell
  obtain ⟨w',rest',rfl,hw',hrest⟩ := hw.respaced hr
  exact ⟨w',rest',rfl,hall w' hw',hw.solids_eq.trans hw'.solids_eq.symm,hrest.outside⟩

lemma startsWithout_of_head {good : Char → Bool} {a b : List Char} (h : b.head? = a.head?)
    (ha : StartsWithout good a) : StartsWithout good b := by
  rw [StartsWithout,h]
  exact ha

/-- An obstacle is still there between other blanks, and the same character stands in the way. -/
theorem Obstacle.respaced {limit : Nat} {before rest other : List Char} {deep : Bool}
    (h : Obstacle limit before rest deep) (hr : Respaced false (before ++ rest) other) :
    ∃ before' rest', other = before' ++ rest' ∧ Obstacle limit before' rest' deep ∧
      solids before = solids before' ∧ rest'.head? = rest.head? := by
  cases h with
  | operand around gap solid wrong =>
    rw [List.append_assoc] at hr
    obtain ⟨w',tail,rfl,around',hw,ht⟩ := around.respaced hr
    obtain ⟨gap',rest',rfl,hhead⟩ := ht.split_head gap solid
    exact ⟨w' ++ gap'.chars,rest',by simp,
      .operand around' gap' (startsWithout_of_head hhead solid) (startsWithout_of_head hhead wrong),
      by simp [hw],hhead⟩
  | operator around d within gap solid ends stops unclosed leftover =>
    rw [List.append_assoc,List.append_assoc] at hr
    obtain ⟨w',tail,rfl,around',hw,ht⟩ := around.respaced hr
    obtain ⟨e,tail,rfl,halike,ht⟩ := d.respaced ht
    have hends := halike.ends (d.ends_respaced ht ends)
    obtain ⟨gap',rest',rfl,hhead⟩ := ht.split_head gap solid
    refine ⟨w' ++ (e.text ++ gap'.chars),rest',by simp,?_,by simp [hw,halike.solids_text],hhead⟩
    refine .operator around' e (halike.nesting_eq ▸ within) gap' (startsWithout_of_head hhead solid) hends ?_ ?_ ?_
    · simpa only [Symbol.Stops,hhead] using stops
    · simpa only [hhead] using unclosed
    · intro hk hnil
      rw [hnil,List.head?_nil,eq_comm,List.head?_eq_none_iff] at hhead
      exact leftover hk hhead
  | @nesting w rest c around gap opens =>
    have hc : isBlank c = false := (Obstacle.nesting around gap opens : Obstacle _ _ (c :: rest) _).head_solid
    rw [List.append_assoc] at hr
    obtain ⟨w',tail,rfl,around',hw,ht⟩ := around.respaced hr
    obtain ⟨gap',rest',rfl,hhead⟩ := ht.split_head gap (startsWithout_cons.mpr hc)
    obtain ⟨tail,rfl⟩ := List.head?_eq_some_iff.mp hhead
    exact ⟨w' ++ gap'.chars,c :: tail,by simp,.nesting around' gap' opens,by simp [hw],rfl⟩

end Formula.Grammar

namespace Formula
open Grammar

/-- The positions are those of the same character in the two texts. It is no blank, and as many such
characters stand in front of it in one text as in the other. -/
def SamePlace (a b : List Char) (p q : Position) : Prop :=
  ∃ (c : Char) (front rest front' rest' : List Char), a = front ++ c :: rest ∧ b = front' ++ c :: rest' ∧
    isBlank c = false ∧ solids front = solids front' ∧
    p = Position.first.past front ∧ q = Position.first.past front'

/-- The same tree, with every node moved to another position. -/
inductive Expr.Moved (moves : Position → Position → Prop) : Expr → Expr → Prop where
  | number (value : Binary64) {p q : Position} (h : moves p q) : Moved moves (.number value p) (.number value q)
  | identifier (name : String) {p q : Position} (h : moves p q) :
      Moved moves (.identifier name p) (.identifier name q)
  | negate {s t : Expr} (operand : Moved moves s t) {p q : Position} (h : moves p q) :
      Moved moves (.negate s p) (.negate t q)
  | binary (operator : Operator) {s t s' t' : Expr} (left : Moved moves s t) (right : Moved moves s' t')
      {p q : Position} (h : moves p q) : Moved moves (.binary operator s s' p) (.binary operator t t' q)

lemma Expr.Moved.position {moves : Position → Position → Prop} {s t : Expr} (h : s.Moved moves t) :
    moves s.position t.position := by
  cases h with
  | number value h => exact h
  | identifier name h => exact h
  | negate operand h => exact h
  | binary operator left right h => exact h

/-- The same comes of two texts: one tree, each node at the place of the same character, or one cause, at
the place of the same character or at the end of both. Only texts that are both blank are empty, and that at
their first position. -/
def SameOutcome (a b : List Char) : Except Rejection Expr → Except Rejection Expr → Prop
  | .ok s, .ok t => s.Moved (SamePlace a b) t
  | .error r, .error r' => r.cause = r'.cause ∧
    match r.cause with
    | .emptyInput => (∀ c ∈ a, isBlank c = true) ∧ (∀ c ∈ b, isBlank c = true) ∧
      r.position = .first ∧ r'.position = .first
    | .endOfInput => r.position = Position.first.past a ∧ r'.position = Position.first.past b
    | .badToken => SamePlace a b r.position r'.position
    | .nesting => SamePlace a b r.position r'.position
  | _, _ => False

lemma samePlace_lexeme {a b before before' : List Char} (lexeme : Lexeme) (gap gap' : Gap)
    (rest rest' : List Char) (ha : a = before ++ (gap.chars ++ (lexeme.chars ++ rest)))
    (hb : b = before' ++ (gap'.chars ++ (lexeme.chars ++ rest'))) (hs : solids before = solids before') :
    SamePlace a b ((Position.first.past before).past gap.chars)
      ((Position.first.past before').past gap'.chars) := by
  obtain ⟨c,tail,hc⟩ := List.exists_cons_of_ne_nil lexeme.ne_nil
  refine ⟨c,before ++ gap.chars,tail ++ rest,before' ++ gap'.chars,tail ++ rest',?_,?_,?_,?_,?_,?_⟩
  · simp [ha,hc]
  · simp [hb,hc]
  · exact lexeme.solid c (by simp [hc])
  · simp [hs]
  · rw [Position.past_append]
  · rw [Position.past_append]

/-- Derivations alike stand for the same tree, at the places of the same characters. -/
theorem Grammar.Derivation.Alike.moved {s : Symbol} {d e : Derivation s} (h : d.Alike e) {a b : List Char}
    (before before' rest rest' : List Char) (ha : a = before ++ (d.text ++ rest))
    (hb : b = before' ++ (e.text ++ rest')) (hs : solids before = solids before') :
    (d.tree (Position.first.past before)).Moved (SamePlace a b) (e.tree (Position.first.past before')) := by
  induction h generalizing before before' rest rest' with
  | number gap gap' numeral =>
    refine .number _ (samePlace_lexeme numeral.lexeme gap gap' rest rest' ?_ ?_ hs)
    · simpa [text] using ha
    · simpa [text] using hb
  | identifier gap gap' word =>
    refine .identifier _ (samePlace_lexeme word.lexeme gap gap' rest rest' ?_ ?_ hs)
    · simpa [text] using ha
    · simpa [text] using hb
  | @negation gap gap' d e h ih =>
    have hminus := samePlace_lexeme (charLexeme '-' (by decide)) gap gap' (d.text ++ rest) (e.text ++ rest')
      (by simpa [text] using ha) (by simpa [text] using hb) hs
    have hoperand := ih (before ++ (gap.chars ++ ['-'])) (before' ++ (gap'.chars ++ ['-'])) rest rest'
      (by simpa [text] using ha) (by simpa [text] using hb) (by simp [hs])
    simp only [Position.past_append] at hoperand
    simp only [tree,Position.past_append]
    exact .negate hoperand hminus
  | parentheses gap gap' close close' h ih =>
    have hinner := ih (before ++ (gap.chars ++ ['('])) (before' ++ (gap'.chars ++ ['(']))
      (close.chars ++ ')' :: rest) (close'.chars ++ ')' :: rest') (by simpa [text] using ha)
      (by simpa [text] using hb) (by simp [hs])
    simpa only [tree,Position.past_append] using hinner
  | single h ih => exact ih before before' rest rest' ha hb hs
  | @more level gap gap' operator member d e left d' e' right ihl ihr =>
    have hleft := ihl before before' (gap.chars ++ operator.symbol :: (d'.text ++ rest))
      (gap'.chars ++ operator.symbol :: (e'.text ++ rest')) (by simpa [text] using ha)
      (by simpa [text] using hb) hs
    have hright := ihr (before ++ (d.text ++ (gap.chars ++ [operator.symbol])))
      (before' ++ (e.text ++ (gap'.chars ++ [operator.symbol]))) rest rest' (by simpa [text] using ha)
      (by simpa [text] using hb) (by simp [hs,left.solids_text])
    simp only [Position.past_append] at hright
    simp only [tree,Position.past_append]
    exact .binary operator hleft hright hleft.position

section Outcomes

variable {limit : Limit} {a b : List Char}

/-- A sentence is read as before when its lexemes stand between other blanks, or between none. -/
lemma sameOutcome_of_spells (sentence : Sentence) (hn : sentence.nesting ≤ limit.levels) {text : List Char}
    (h : Spells sentence.body.lexemes text) (gap : Gap) :
    SameOutcome sentence.text (text ++ gap.chars) (parseText limit sentence.text)
      (parseText limit (text ++ gap.chars)) := by
  obtain ⟨body,rfl,halike⟩ := sentence.body.respell h
  have hbody : (Sentence.mk body gap).nesting ≤ limit.levels := by
    rw [Sentence.nesting,← halike.nesting_eq]
    exact hn
  have hother : parseText limit (body.text ++ gap.chars) = .ok (body.tree .first) :=
    parseText_of_sentence ⟨body,gap⟩ hbody
  rw [parseText_of_sentence sentence hn,hother]
  exact halike.moved [] [] sentence.gap.chars gap.chars rfl rfl rfl

/-- A text is turned down as before when its obstacle stands between other blanks. -/
lemma sameOutcome_of_obstacle {before rest : List Char} {deep : Bool} (hobs : Obstacle limit.levels before rest deep)
    (ha : (before ++ rest).all isBlank = false) (hb : b.all isBlank = false)
    (h : Respaced false (before ++ rest) b) :
    SameOutcome (before ++ rest) b (parseText limit (before ++ rest)) (parseText limit b) := by
  obtain ⟨before',rest',rfl,hobs',hs,hhead⟩ := hobs.respaced h
  rw [parseText_of_obstacle ha hobs,parseText_of_obstacle hb hobs']
  cases rest with
  | nil =>
    obtain rfl := List.head?_eq_none_iff.mp hhead
    cases deep with
    | true =>
      obtain ⟨c,tail,hnil⟩ := hobs.exists_head
      cases hnil
    | false => simp [SameOutcome,Rejection.unexpected]
  | cons c rest =>
    obtain ⟨rest',rfl⟩ := List.head?_eq_some_iff.mp hhead
    have hplace : SamePlace (before ++ c :: rest) (before' ++ c :: rest') (Position.first.past before)
        (Position.first.past before') := ⟨c,before,rest,before',rest',rfl,rfl,hobs.head_solid,hs,rfl,rfl⟩
    cases deep with
    | true => exact ⟨rfl,hplace⟩
    | false => exact ⟨rfl,hplace⟩

/-- Other blanks between the same characters change no verdict. -/
theorem parseText_respaced (limit : Limit) (h : Respaced false a b) :
    SameOutcome a b (parseText limit a) (parseText limit b) := by
  rcases parseText_cases limit a with
    ⟨sentence,rfl,hn,-⟩ | ⟨hblank,herr⟩ | ⟨before,rest,deep,rfl,hblank,hobs,-⟩
  · obtain ⟨text,rest,rfl,htext,hrest⟩ := sentence.body.spells.respaced h
    obtain ⟨gap,rfl⟩ := hrest.exists_gap
    exact sameOutcome_of_spells sentence hn htext gap
  · have hother : b.all isBlank = true := by rw [← h.all_isBlank,hblank]
    simp only [parseText,hblank,hother,if_true]
    exact ⟨rfl,List.all_eq_true.mp hblank,List.all_eq_true.mp hother,rfl,rfl⟩
  · exact sameOutcome_of_obstacle hobs hblank (h.all_isBlank ▸ hblank) h

end Outcomes

/-- Texts with the same chunks fare alike: both are read as one tree, or both are turned down for one
cause, at the same characters. A text that is read consists of lexemes in one way only, and any text that
consists of the same lexemes, with blanks wherever they may stand, fares like it. -/
theorem parse_of_same_chunks (limit : Limit) (a b : String) :
    (chunks a.toList = chunks b.toList →
      SameOutcome a.toList b.toList (parse limit a) (parse limit b)) ∧
    ∀ tree, parse limit a = .ok tree → ∃ sentence : Sentence, sentence.text = a.toList ∧
      (∀ other : Sentence, other.text = a.toList → other = sentence) ∧
      ∀ (text : List Char) (gap : Gap), Spells sentence.body.lexemes text → b.toList = text ++ gap.chars →
        SameOutcome a.toList b.toList (parse limit a) (parse limit b) := by
  constructor
  · intro h
    exact parseText_respaced limit (respaced_of_chunks h false (by simp) (by simp))
  · intro tree htree
    rw [parse] at htree
    rcases parseText_cases limit a.toList with
      ⟨sentence,ht,hn,-⟩ | ⟨-,herr⟩ | ⟨before,rest,deep,-,-,-,herr⟩
    · refine ⟨sentence,ht.symm,fun other ho => Sentence.text_injective (ho.trans ht),?_⟩
      intro text gap hspells hb
      rw [parse,parse,ht,hb]
      exact sameOutcome_of_spells sentence hn hspells gap
    · rw [herr] at htree
      cases htree
    · rw [herr] at htree
      cases htree

def Grammar.Gap.space : Gap := ⟨[' '],by simp [isBlank]⟩

/-- One and one, with the same gap on both sides of the sign. -/
def Grammar.Sentence.onePlusOne (gap : Gap) : Sentence where
  body := .more (.single (.single (.number .none .one))) gap .add (by decide) (.single (.number gap .one))
  gap := .none

/-- Blanks of another kind, in a text that is turned down for its `x` and in one that has nothing else, and
blanks taken out of a text that is read. -/
theorem parse_of_same_chunks_squeezed :
    (parse .standard "1 +\n2x" = .error ⟨.badToken,⟨2,2⟩⟩ ∧
      parse .standard "\t1\t+ 2x\r\n" = .error ⟨.badToken,⟨1,7⟩⟩ ∧
      SameOutcome "1 +\n2x".toList "\t1\t+ 2x\r\n".toList (parse .standard "1 +\n2x")
        (parse .standard "\t1\t+ 2x\r\n")) ∧
    (parse .standard "" = .error ⟨.emptyInput,⟨1,1⟩⟩ ∧ parse .standard " \n" = .error ⟨.emptyInput,⟨1,1⟩⟩ ∧
      SameOutcome "".toList " \n".toList (parse .standard "") (parse .standard " \n")) ∧
    parse .standard "1 + 1" = .ok (.binary .add (.number (.ofDigits ['1'] []) ⟨1,1⟩)
      (.number (.ofDigits ['1'] []) ⟨1,5⟩) ⟨1,1⟩) ∧
    parse .standard "1+1" = .ok (.binary .add (.number (.ofDigits ['1'] []) ⟨1,1⟩)
      (.number (.ofDigits ['1'] []) ⟨1,3⟩) ⟨1,1⟩) ∧
    SameOutcome "1 + 1".toList "1+1".toList (parse .standard "1 + 1") (parse .standard "1+1") := by
  refine ⟨⟨by decide +kernel,by decide +kernel,?_⟩,⟨by decide +kernel,by decide +kernel,?_⟩,by decide +kernel,
    by decide +kernel,?_⟩
  · exact (parse_of_same_chunks .standard "1 +\n2x" "\t1\t+ 2x\r\n").1 (by decide +kernel)
  · exact (parse_of_same_chunks .standard "" " \n").1 (by decide +kernel)
  · have htext : (Sentence.onePlusOne .space).text = "1 + 1".toList := by decide +kernel
    have hread : parse .standard "1 + 1" = .ok ((Sentence.onePlusOne .space).body.tree .first) := by
      rw [parse,← htext]
      exact parseText_of_sentence _ (by decide)
    obtain ⟨sentence,-,honly,hspells⟩ := (parse_of_same_chunks .standard "1 + 1" "1+1").2 _ hread
    obtain rfl := honly _ htext
    exact hspells (Sentence.onePlusOne .none).body.text .none (Sentence.onePlusOne .none).body.spells
      (by decide +kernel)

end Formula
