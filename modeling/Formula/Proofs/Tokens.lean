import Formula.Proofs.Fragments

/-! Where tokens end. A token of a derivation is read as a whole exactly when the text behind it does not
go on with it. -/
namespace Formula

/-- The text is empty or starts with a character that is not in the class. -/
def StartsWithout (good : Char → Bool) (text : List Char) : Prop :=
  ∀ c ∈ text.head?, good c = false

@[simp] theorem startsWithout_nil (good : Char → Bool) : StartsWithout good [] := by
  simp [StartsWithout]

@[simp] theorem startsWithout_cons {good : Char → Bool} {c : Char} {text : List Char} :
    StartsWithout good (c :: text) ↔ good c = false := by
  simp [StartsWithout]

lemma exists_cons_of_not_startsWithout {good : Char → Bool} {text : List Char}
    (h : ¬StartsWithout good text) : ∃ c tail, text = c :: tail ∧ good c = true := by
  cases text with
  | nil => exact absurd (startsWithout_nil good) h
  | cons c tail => exact ⟨c,tail,rfl,by simpa using h⟩

lemma takeWhile_append_eq {good : Char → Bool} {a b : List Char} (ha : ∀ c ∈ a, good c = true)
    (hb : StartsWithout good b) : (a ++ b).takeWhile good = a := by
  rw [List.takeWhile_append_of_pos ha]
  cases b with
  | nil => simp
  | cons c b => simp [startsWithout_cons.mp hb]

lemma exists_run (good : Char → Bool) (text : List Char) :
    ∃ a b, text = a ++ b ∧ (∀ c ∈ a, good c = true) ∧ StartsWithout good b := by
  induction text with
  | nil => exact ⟨[],[],by simp⟩
  | cons c text ih =>
    cases hc : good c with
    | false => exact ⟨[],c :: text,by simp [hc]⟩
    | true =>
      obtain ⟨a,b,rfl,ha,hb⟩ := ih
      exact ⟨c :: a,b,rfl,by simpa [hc] using ha,hb⟩

/-- The longest run of a class at the head of a text is determined by the text. -/
lemma run_unique {good : Char → Bool} {a b a' b' : List Char} (h : a ++ b = a' ++ b')
    (ha : ∀ c ∈ a, good c = true) (hb : StartsWithout good b)
    (ha' : ∀ c ∈ a', good c = true) (hb' : StartsWithout good b') : a = a' ∧ b = b' := by
  have hr := takeWhile_append_eq ha hb
  rw [h,takeWhile_append_eq ha' hb'] at hr
  subst a'
  exact ⟨rfl,List.append_cancel_left h⟩

namespace Token

lemma isWordChar_of_isDigit {c : Char} (h : c.isDigit = true) : isWordChar c = true := by
  simp [isWordChar,Char.isAlphanum,h]

lemma isWordChar_of_isLetter {c : Char} (h : isLetter c = true) : isWordChar c = true := by
  simp only [isLetter,Bool.or_eq_true] at h
  simp only [isWordChar,Char.isAlphanum,Bool.or_eq_true]
  tauto

lemma isUpper_iff {c : Char} : c.isUpper = true ↔ 65 ≤ c.toNat ∧ c.toNat ≤ 90 := decide_eq_true_iff

lemma isLower_iff {c : Char} : c.isLower = true ↔ 97 ≤ c.toNat ∧ c.toNat ≤ 122 :=
  Bool.and_eq_true_iff.trans (and_congr decide_eq_true_iff decide_eq_true_iff)

lemma isDigit_iff {c : Char} : c.isDigit = true ↔ 48 ≤ c.toNat ∧ c.toNat ≤ 57 :=
  Bool.and_eq_true_iff.trans (and_congr decide_eq_true_iff decide_eq_true_iff)

lemma toNat_of_isWordChar {c : Char} (h : isWordChar c = true) : 0x30 ≤ c.toNat ∧ c.toNat < 0x7F := by
  change (((c.isUpper || c.isLower) || c.isDigit) || decide (c = '_')) = true at h
  simp only [Bool.or_eq_true,decide_eq_true_eq,isUpper_iff,isLower_iff,isDigit_iff] at h
  rcases h with ((h | h) | h) | rfl
  · omega
  · omega
  · omega
  · decide

lemma isWordChar_of_isBlank {c : Char} (h : isBlank c = true) : isWordChar c = false ∧ c ≠ '.' := by
  simp only [isBlank,Bool.or_eq_true,decide_eq_true_eq] at h
  rcases h with ((rfl | rfl) | rfl) | rfl <;> decide

lemma isBlank_of_isWordChar {c : Char} (h : isWordChar c = true) : isBlank c = false := by
  by_contra hb
  exact absurd h (by simp [(isWordChar_of_isBlank (eq_true_of_ne_false hb)).1])

lemma isDigit_of_isLetter {c : Char} (h : isLetter c = true) : c.isDigit = false := by
  rw [← Bool.not_eq_true,isDigit_iff]
  change ((c.isUpper || c.isLower) || decide (c = '_')) = true at h
  simp only [Bool.or_eq_true,decide_eq_true_eq,isUpper_iff,isLower_iff] at h
  rcases h with (h | h) | rfl
  · omega
  · omega
  · decide

end Token

namespace Grammar
open Token

lemma exists_gap (text : List Char) :
    ∃ (gap : Gap) (rest : List Char), text = gap.chars ++ rest ∧ StartsWithout isBlank rest := by
  obtain ⟨a,b,h,ha,hb⟩ := exists_run isBlank text
  exact ⟨⟨a,ha⟩,b,h,hb⟩

/-- The text behind a numeral is no part of it. -/
def Numeral.Ends (numeral : Numeral) (rest : List Char) : Prop :=
  StartsWithout Char.isDigit rest ∧
    (numeral.fraction = [] → ∀ tail, rest = '.' :: tail → StartsWithout Char.isDigit tail)

/-- The text behind a word is no part of it. -/
def Word.Ends (_ : Word) (rest : List Char) : Prop := StartsWithout isWordChar rest

/-- The text behind a derivation does not go on with its last token. -/
def Derivation.Ends : {s : Symbol} → Derivation s → List Char → Prop
  | _, number _ numeral, rest => numeral.Ends rest
  | _, identifier _ word, rest => word.Ends rest
  | _, negation _ operand, rest => operand.Ends rest
  | _, parentheses _ _ _, _ => True
  | _, single operand, rest => operand.Ends rest
  | _, more _ _ _ _ right, rest => right.Ends rest

/-- No token goes on with this text. -/
def Breaks (rest : List Char) : Prop := ∀ c ∈ rest.head?, isWordChar c = false ∧ c ≠ '.'

@[simp] theorem breaks_nil : Breaks [] := by simp [Breaks]

@[simp] theorem breaks_cons {c : Char} {rest : List Char} :
    Breaks (c :: rest) ↔ isWordChar c = false ∧ c ≠ '.' := by
  simp [Breaks]

lemma Derivation.ends_of_breaks {s : Symbol} (d : Derivation s) {rest : List Char} (h : Breaks rest) :
    d.Ends rest := by
  induction d with
  | number gap numeral =>
    refine ⟨?_,?_⟩
    · intro c hc
      by_contra hd
      have hw := isWordChar_of_isDigit (eq_true_of_ne_false hd)
      exact absurd hw (by simp [(h c hc).1])
    · rintro - tail rfl
      exact absurd rfl (breaks_cons.mp h).2
  | identifier gap word => exact fun c hc => (h c hc).1
  | negation gap operand ih => exact ih
  | parentheses gap inner close => trivial
  | single operand ih => exact ih
  | more left gap operator member right ihl ihr => exact ihr

lemma breaks_append (gap : Gap) {rest : List Char} (h : Breaks rest) : Breaks (gap.chars ++ rest) := by
  rcases gap with ⟨chars,hb⟩
  cases chars with
  | nil => exact h
  | cons c chars => exact breaks_cons.mpr (isWordChar_of_isBlank (hb c (by simp)))

lemma Numeral.exists_digit (numeral : Numeral) :
    ∃ c tail, numeral.chars = c :: tail ∧ c.isDigit = true := by
  obtain ⟨whole,fraction,hne,hw,hf⟩ := numeral
  cases whole with
  | nil => exact absurd rfl hne
  | cons c whole =>
    by_cases he : fraction = []
    · exact ⟨c,whole,by simp [Numeral.chars,he],hw c (by simp)⟩
    · exact ⟨c,whole ++ '.' :: fraction,by simp [Numeral.chars,he],hw c (by simp)⟩

/-- What stands behind the first digits of a number. -/
lemma Numeral.exists_tail (numeral : Numeral) :
    ∃ tail, numeral.chars = numeral.whole ++ tail ∧ StartsWithout Char.isDigit tail ∧
      (tail = [] ∧ numeral.fraction = [] ∨ tail = '.' :: numeral.fraction ∧ numeral.fraction ≠ []) := by
  by_cases he : numeral.fraction = []
  · exact ⟨[],by simp [chars,he]⟩
  · refine ⟨'.' :: numeral.fraction,by simp [chars,he],?_,Or.inr ⟨rfl,he⟩⟩
    exact startsWithout_cons.mpr (by decide)

lemma Numeral.chars_injective {m n : Numeral} (h : m.chars = n.chars) : m = n := by
  obtain ⟨tail,hm,hs,htail⟩ := m.exists_tail
  obtain ⟨tail',hn,hs',htail'⟩ := n.exists_tail
  rw [hm,hn] at h
  obtain ⟨hwhole,rfl⟩ := run_unique h m.whole_digits hs n.whole_digits hs'
  apply Numeral.ext hwhole
  rcases htail with ⟨rfl,he⟩ | ⟨rfl,-⟩
  · rcases htail' with ⟨-,he'⟩ | ⟨hne,-⟩
    · rw [he,he']
    · cases hne
  · rcases htail' with ⟨hne,-⟩ | ⟨heq,-⟩
    · cases hne
    · exact (List.cons.inj heq).2

lemma Numeral.chars_digits (numeral : Numeral) : ∀ c ∈ numeral.chars, c.isDigit = true ∨ c = '.' := by
  obtain ⟨whole,fraction,hne,hw,hf⟩ := numeral
  intro c hc
  by_cases he : fraction = []
  · simp only [chars,he,if_true] at hc
    exact Or.inl (hw c hc)
  · simp only [chars,he,if_false,List.mem_append,List.mem_cons] at hc
    rcases hc with hc | rfl | hc
    · exact Or.inl (hw c hc)
    · exact Or.inr rfl
    · exact Or.inl (hf c hc)

lemma Numeral.solid (numeral : Numeral) (rest : List Char) : StartsWithout isBlank (numeral.chars ++ rest) := by
  obtain ⟨c,tail,hc,hd⟩ := numeral.exists_digit
  rw [hc,List.cons_append,startsWithout_cons]
  exact isBlank_of_isWordChar (isWordChar_of_isDigit hd)

lemma Word.solid (word : Word) (rest : List Char) : StartsWithout isBlank (word.chars ++ rest) :=
  startsWithout_cons.mpr (isBlank_of_isWordChar (isWordChar_of_isLetter word.head_letter))

lemma Word.chars_word (word : Word) : ∀ c ∈ word.chars, isWordChar c = true := by
  intro c hc
  rcases List.mem_cons.mp hc with rfl | hc
  · exact isWordChar_of_isLetter word.head_letter
  · exact word.tail_word c hc

/-- No derivation is blank. -/
lemma Derivation.exists_solid {s : Symbol} (d : Derivation s) : ∃ c ∈ d.text, isBlank c = false := by
  induction d with
  | number gap numeral =>
    obtain ⟨c,tail,hc,hd⟩ := numeral.exists_digit
    exact ⟨c,by simp [text,hc],isBlank_of_isWordChar (isWordChar_of_isDigit hd)⟩
  | identifier gap word =>
    exact ⟨word.head,by simp [text,Word.chars],
      isBlank_of_isWordChar (isWordChar_of_isLetter word.head_letter)⟩
  | negation gap operand ih => exact ⟨'-',by simp [text],by decide⟩
  | parentheses gap inner close ih => exact ⟨'(',by simp [text],by decide⟩
  | single operand ih => exact ih
  | more left gap operator member right ihl ihr =>
    obtain ⟨c,hc,hs⟩ := ihl
    exact ⟨c,List.mem_append_left _ hc,hs⟩

/-- The operators that a derivation of this symbol would take in if they stood behind it. -/
def Symbol.operators : Symbol → List Operator
  | .factor => []
  | .chain .term => Level.operators .term
  | .chain .expression => Level.operators .expression ++ Level.operators .term

/-- The text does not start with an operator that a derivation of this symbol would take in. -/
def Symbol.Stops (s : Symbol) (rest : List Char) : Prop :=
  ∀ o ∈ s.operators, rest.head? ≠ some o.symbol

lemma Symbol.mem_operators_chain {level : Level} {o : Operator} :
    o ∈ (Symbol.chain level).operators ↔ o ∈ level.operators ∨ o ∈ level.operand.operators := by
  cases level <;> simp [Symbol.operators,Level.operand]

lemma Symbol.stops_chain {level : Level} {rest : List Char} :
    (Symbol.chain level).Stops rest ↔
      (∀ o ∈ level.operators, rest.head? ≠ some o.symbol) ∧ level.operand.Stops rest := by
  simp only [Symbol.Stops,Symbol.mem_operators_chain]
  constructor
  · intro h
    exact ⟨fun o ho => h o (Or.inl ho),fun o ho => h o (Or.inr ho)⟩
  · rintro ⟨h,h'⟩ o (ho | ho)
    · exact h o ho
    · exact h' o ho

/-- The operators of a level do not belong to its operands. -/
lemma Level.stops_operand {level : Level} {o : Operator} (h : o ∈ level.operators) (rest : List Char) :
    level.operand.Stops (o.symbol :: rest) := by
  intro o' ho'
  cases level <;> cases o <;> cases o' <;>
    simp_all [Level.operators,Level.operand,Symbol.operators,Operator.symbol]

/-- The operators of the operands of a level are not its own. -/
lemma Level.not_own_of_operand {level : Level} {o : Operator} (h : o ∈ level.operand.operators)
    (rest : List Char) : ∀ p ∈ level.operators, (o.symbol :: rest).head? ≠ some p.symbol := by
  intro p hp
  cases level <;> cases o <;> cases p <;>
    simp_all [Level.operators,Level.operand,Symbol.operators,Operator.symbol]

lemma Symbol.stops_of_head {s : Symbol} {c : Char} {rest : List Char} (h : ∀ o : Operator, c ≠ o.symbol) :
    s.Stops (c :: rest) := by
  intro o _ he
  exact h o (by simpa using he)

lemma breaks_operator (o : Operator) (rest : List Char) : Breaks (o.symbol :: rest) := by
  cases o <;> exact breaks_cons.mpr (by decide)

lemma head_operator_ne (o : Operator) (rest : List Char) : (o.symbol :: rest).head? ≠ some ')' := by
  cases o <;> simp [Operator.symbol]

lemma solid_operator (o : Operator) (rest : List Char) : StartsWithout isBlank (o.symbol :: rest) := by
  cases o <;> exact startsWithout_cons.mpr (by decide)

/-- A digit at the head of a text starts a numeral. -/
lemma exists_numeral {c : Char} (text : List Char) (hc : c.isDigit = true) :
    ∃ (numeral : Numeral) (rest : List Char), c :: text = numeral.chars ++ rest ∧ numeral.Ends rest := by
  obtain ⟨a,b,rfl,ha,hb⟩ := exists_run Char.isDigit text
  have hd : ∀ d ∈ c :: a, d.isDigit = true := by simpa [hc] using ha
  by_cases hp : ∃ d tail, b = '.' :: d :: tail ∧ d.isDigit = true
  · obtain ⟨d,tail,rfl,hdd⟩ := hp
    obtain ⟨f,rest,rfl,hf,hr⟩ := exists_run Char.isDigit tail
    refine ⟨⟨c :: a,d :: f,by simp,hd,by simpa [hdd] using hf⟩,rest,?_,hr,by simp⟩
    simp [Numeral.chars]
  · refine ⟨⟨c :: a,[],by simp,hd,by simp⟩,b,by simp [Numeral.chars],hb,?_⟩
    rintro - tail rfl
    cases tail with
    | nil => simp
    | cons d tail =>
      rw [startsWithout_cons]
      by_contra hdd
      exact hp ⟨d,tail,rfl,eq_true_of_ne_false hdd⟩

/-- A letter at the head of a text starts a word. -/
lemma exists_word {c : Char} (text : List Char) (hc : isLetter c = true) :
    ∃ (word : Word) (rest : List Char), c :: text = word.chars ++ rest ∧ word.Ends rest := by
  obtain ⟨tail,rest,rfl,ht,hr⟩ := exists_run isWordChar text
  exact ⟨⟨c,tail,hc,ht⟩,rest,rfl,hr⟩

/-! What the readers of tokens make of a token and the text behind it. -/

lemma run_append {good : Char → Bool} {taken rest : List Char} (hne : taken ≠ [])
    (ht : ∀ c ∈ taken, good c = true) (hr : StartsWithout good rest) :
    Token.run good (taken ++ rest) = some taken :=
  Token.run_eq_some_iff.mpr ⟨hne,takeWhile_append_eq ht hr⟩

lemma run_eq_none {good : Char → Bool} {rest : List Char} (h : StartsWithout good rest) :
    Token.run good rest = none :=
  Token.run_eq_none_iff.mpr (takeWhile_append_eq (a := []) (by simp) h)

lemma Numeral.numeral_append (numeral : Numeral) {rest : List Char} (h : numeral.Ends rest) :
    Token.numeral (numeral.chars ++ rest) = some numeral.chars := by
  obtain ⟨whole,fraction,hne,hw,hf⟩ := numeral
  by_cases he : fraction = []
  · subst he
    simp only [Numeral.chars,if_true,Token.numeral,run_append hne hw h.1,Option.bind_eq_bind,
      Option.bind_some,List.drop_left]
    split
    · next tail =>
      rw [run_eq_none (h.2 rfl _ rfl)]
      rfl
    · rfl
  · have hs : StartsWithout Char.isDigit ('.' :: (fraction ++ rest)) := by
      rw [startsWithout_cons]
      rfl
    simp only [Numeral.chars,he,if_false,Token.numeral,List.append_assoc,List.cons_append,
      run_append hne hw hs,run_append he hf h.1,Option.bind_eq_bind,Option.bind_some,List.drop_left]
    rfl

/-- Every text of a number can be converted. -/
lemma Numeral.ofDecimal?_chars (numeral : Numeral) :
    Binary64.ofDecimal? numeral.chars = some numeral.value := by
  obtain ⟨whole,fraction,hne,hw,hf⟩ := numeral
  by_cases he : fraction = []
  · subst he
    have ht : whole.takeWhile Char.isDigit = whole := by
      simpa using takeWhile_append_eq hw (startsWithout_nil Char.isDigit)
    simp [Numeral.chars,Numeral.value,Binary64.ofDecimal?,ht,hne]
  · have hs : StartsWithout Char.isDigit ('.' :: fraction) := by
      rw [startsWithout_cons]
      rfl
    have ht := takeWhile_append_eq hw hs
    have hall : fraction.all Char.isDigit = true := List.all_eq_true.mpr hf
    simp [Numeral.chars,Numeral.value,Binary64.ofDecimal?,he,ht,hne,hall]

lemma Numeral.number_append (numeral : Numeral) {rest : List Char} (h : numeral.Ends rest) :
    Token.number (numeral.chars ++ rest) = some (numeral.value,numeral.chars.length) := by
  simp [Token.number,numeral.numeral_append h,numeral.ofDecimal?_chars]

lemma Word.identifier_append (word : Word) {rest : List Char} (h : word.Ends rest) :
    Token.identifier (word.chars ++ rest) = some (word.name,word.chars.length) := by
  have ht : (word.chars ++ rest).takeWhile isWordChar = word.chars := takeWhile_append_eq word.chars_word h
  have hi := Token.identifier_of_letter word.head_letter (word.tail ++ rest)
  rwa [← List.cons_append,← Word.chars,ht] at hi

lemma numeral_eq_none {rest : List Char} (h : StartsWithout Char.isDigit rest) :
    Token.numeral rest = none := by
  simp [Token.numeral,run_eq_none h]

lemma number_eq_none {rest : List Char} (h : StartsWithout Char.isDigit rest) :
    Token.number rest = none := by
  simp [Token.number,numeral_eq_none h]

lemma identifier_eq_none {rest : List Char} (h : StartsWithout isLetter rest) :
    Token.identifier rest = none := by
  cases rest with
  | nil => rfl
  | cons c rest => exact Token.identifier_of_not_letter (startsWithout_cons.mp h) rest

/-- Whatever text of a number is found at the head of a text, it is a numeral that ends there. -/
lemma exists_of_numeral {text taken : List Char} (h : Token.numeral text = some taken) :
    ∃ (numeral : Numeral) (rest : List Char), text = numeral.chars ++ rest ∧ numeral.Ends rest ∧
      taken = numeral.chars := by
  by_cases hs : StartsWithout Char.isDigit text
  · rw [numeral_eq_none hs] at h
    cases h
  · obtain ⟨c,tail,rfl,hc⟩ := exists_cons_of_not_startsWithout hs
    obtain ⟨numeral,rest,ht,he⟩ := exists_numeral tail hc
    rw [ht,numeral.numeral_append he] at h
    cases h
    exact ⟨numeral,rest,ht,he,rfl⟩

lemma exists_of_number {text : List Char} {value : Binary64} {n : Nat} (h : Token.number text = some (value,n)) :
    ∃ (numeral : Numeral) (rest : List Char), text = numeral.chars ++ rest ∧ numeral.Ends rest ∧
      value = numeral.value ∧ n = numeral.chars.length := by
  obtain ⟨taken,ht,-⟩ := Option.bind_eq_some_iff.mp h
  obtain ⟨numeral,rest,rfl,he,-⟩ := exists_of_numeral ht
  rw [numeral.number_append he] at h
  cases h
  exact ⟨numeral,rest,rfl,he,rfl,rfl⟩

/-- Whatever name is read at the head of a text is a word that ends there. -/
lemma exists_of_identifier {text : List Char} {name : String} {n : Nat}
    (h : Token.identifier text = some (name,n)) :
    ∃ (word : Word) (rest : List Char), text = word.chars ++ rest ∧ word.Ends rest ∧
      name = word.name ∧ n = word.chars.length := by
  by_cases hs : StartsWithout isLetter text
  · rw [identifier_eq_none hs] at h
    cases h
  · obtain ⟨c,tail,rfl,hc⟩ := exists_cons_of_not_startsWithout hs
    obtain ⟨word,rest,ht,he⟩ := exists_word tail hc
    rw [ht,word.identifier_append he] at h
    cases h
    exact ⟨word,rest,ht,he,rfl,rfl⟩

lemma char_eq_none {c : Char} {rest : List Char} (h : rest.head? ≠ some c) :
    Token.char c rest = none := by
  cases rest with
  | nil => rfl
  | cons d rest => simpa [Token.char] using h

lemma operator_eq_none {among : List Operator} {rest : List Char}
    (h : ∀ o ∈ among, rest.head? ≠ some o.symbol) : Token.operator among rest = none := by
  cases rest with
  | nil => rfl
  | cons c rest =>
    simp only [Token.operator,Option.map_eq_none_iff,List.find?_eq_none,decide_eq_true_eq]
    intro o ho hc
    exact h o ho (by simp [hc])

lemma operator_cons {level : Level} {o : Operator} (h : o ∈ level.operators) (rest : List Char) :
    Token.operator level.operators (o.symbol :: rest) = some (o,1) := by
  cases level <;> cases o <;> simp_all [Level.operators,Token.operator,Operator.symbol]

end Grammar
end Formula
