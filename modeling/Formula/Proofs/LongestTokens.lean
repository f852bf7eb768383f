import Formula.Proofs.Tokens

/-! Names and numbers are taken as long as they go. What the readers find at the head of a text is compared
with two patterns, written out in characters of ASCII:

    name    ->  [A-Za-z_] [A-Za-z0-9_]*
    number  ->  [0-9]+ ("." [0-9]+)? -/
namespace Formula.Token
open Grammar

def IsAsciiLetter (c : Char) : Prop := 'A' ≤ c ∧ c ≤ 'Z' ∨ 'a' ≤ c ∧ c ≤ 'z'

def IsAsciiDigit (c : Char) : Prop := '0' ≤ c ∧ c ≤ '9'

def IsName (text : List Char) : Prop :=
  ∃ head tail, text = head :: tail ∧ (IsAsciiLetter head ∨ head = '_') ∧
    ∀ c ∈ tail, IsAsciiLetter c ∨ IsAsciiDigit c ∨ c = '_'

def IsNumeral (text : List Char) : Prop :=
  ∃ whole, whole ≠ [] ∧ (∀ c ∈ whole, IsAsciiDigit c) ∧
    (text = whole ∨ ∃ fraction, fraction ≠ [] ∧ (∀ c ∈ fraction, IsAsciiDigit c) ∧
      text = whole ++ '.' :: fraction)

/-- Of all beginnings of a text that follow a pattern, the longest. -/
structure IsLongest (pattern : List Char → Prop) (text taken : List Char) : Prop where
  isPrefix : taken <+: text
  follows : pattern taken
  longest : ∀ other, other <+: text → pattern other → other.length ≤ taken.length

lemma isAlpha_iff {c : Char} : c.isAlpha = true ↔ IsAsciiLetter c :=
  Bool.or_eq_true_iff.trans (or_congr isUpper_iff isLower_iff)

lemma isDigit_iff_isAsciiDigit {c : Char} : c.isDigit = true ↔ IsAsciiDigit c := isDigit_iff

lemma isLetter_iff {c : Char} : isLetter c = true ↔ IsAsciiLetter c ∨ c = '_' := by
  simp only [isLetter,Bool.or_eq_true,isAlpha_iff,decide_eq_true_eq]

lemma isWordChar_iff {c : Char} :
    isWordChar c = true ↔ IsAsciiLetter c ∨ IsAsciiDigit c ∨ c = '_' := by
  simp only [isWordChar,Char.isAlphanum,Bool.or_eq_true,isAlpha_iff,isDigit_iff_isAsciiDigit,
    decide_eq_true_eq,or_assoc]

lemma isName_iff {text : List Char} : IsName text ↔ ∃ word : Word, word.chars = text := by
  constructor
  · rintro ⟨head,tail,rfl,hhead,htail⟩
    exact ⟨⟨head,tail,isLetter_iff.mpr hhead,fun c hc => isWordChar_iff.mpr (htail c hc)⟩,rfl⟩
  · rintro ⟨word,rfl⟩
    exact ⟨word.head,word.tail,rfl,isLetter_iff.mp word.head_letter,
      fun c hc => isWordChar_iff.mp (word.tail_word c hc)⟩

lemma isNumeral_iff {text : List Char} : IsNumeral text ↔ ∃ numeral : Numeral, numeral.chars = text := by
  simp only [IsNumeral,← isDigit_iff_isAsciiDigit]
  constructor
  · rintro ⟨whole,hne,hwhole,rfl | ⟨fraction,hf,hfraction,rfl⟩⟩
    · exact ⟨⟨text,[],hne,hwhole,by simp⟩,by simp [Numeral.chars]⟩
    · exact ⟨⟨whole,fraction,hne,hwhole,hfraction⟩,by simp [Numeral.chars,hf]⟩
  · rintro ⟨numeral,rfl⟩
    refine ⟨numeral.whole,numeral.whole_ne_nil,numeral.whole_digits,?_⟩
    obtain ⟨tail,hc,-,⟨rfl,-⟩ | ⟨rfl,hf⟩⟩ := numeral.exists_tail
    · exact Or.inl (by simpa using hc)
    · exact Or.inr ⟨numeral.fraction,hf,numeral.fraction_digits,hc⟩

/-- A longer beginning of a text goes on with what stands behind the shorter one. -/
lemma exists_longer {a b other : List Char} (h : other <+: a ++ b) (hl : a.length < other.length) :
    ∃ c t, other = a ++ c :: t ∧ c :: t <+: b := by
  obtain ⟨more,rfl⟩ := List.prefix_of_prefix_length_le (List.prefix_append a b) h (Nat.le_of_lt hl)
  cases more with
  | nil => simp at hl
  | cons c t => exact ⟨c,t,rfl,(List.prefix_append_right_inj a).mp h⟩

/-- A word that ends in front of a text is no part of a longer one. -/
lemma isLongest_word (word : Word) {rest : List Char} (h : word.Ends rest) :
    IsLongest IsName (word.chars ++ rest) word.chars := by
  refine ⟨List.prefix_append _ _,isName_iff.mpr ⟨word,rfl⟩,?_⟩
  intro other ho hname
  obtain ⟨longer,rfl⟩ := isName_iff.mp hname
  by_contra hl
  obtain ⟨c,t,hlonger,hc⟩ := exists_longer ho (Nat.lt_of_not_le hl)
  obtain ⟨behind,rfl⟩ := hc
  have hword := longer.chars_word c (by simp [hlonger])
  rw [startsWithout_cons.mp h] at hword
  cases hword

/-- A numeral that ends in front of a text is no part of a longer one. -/
lemma isLongest_numeral (numeral : Numeral) {rest : List Char} (h : numeral.Ends rest) :
    IsLongest IsNumeral (numeral.chars ++ rest) numeral.chars := by
  refine ⟨List.prefix_append _ _,isNumeral_iff.mpr ⟨numeral,rfl⟩,?_⟩
  intro other ho hnumeral
  obtain ⟨longer,rfl⟩ := isNumeral_iff.mp hnumeral
  by_contra hl
  obtain ⟨c,t,hlonger,behind,rfl⟩ := exists_longer ho (Nat.lt_of_not_le hl)
  have hc : c.isDigit = false := startsWithout_cons.mp h.1
  obtain ⟨tail,htext,hs,htail⟩ := numeral.exists_tail
  obtain ⟨tail',htext',hs',htail'⟩ := longer.exists_tail
  rw [htext,htext',List.append_assoc] at hlonger
  -- Both have the same digits in front, so the longer one can only differ behind them.
  have hsolid : StartsWithout Char.isDigit (tail ++ c :: t) := by
    rcases htail with ⟨rfl,-⟩ | ⟨rfl,-⟩
    · exact startsWithout_cons.mpr hc
    · exact startsWithout_cons.mpr (by decide)
  obtain ⟨-,rfl⟩ := run_unique hlonger longer.whole_digits hs' numeral.whole_digits hsolid
  rcases htail' with ⟨hnil,-⟩ | ⟨hpoint,hne⟩
  · simp at hnil
  rcases htail with ⟨rfl,hwhole⟩ | ⟨rfl,-⟩
  · obtain ⟨rfl,rfl⟩ := List.cons.inj hpoint
    obtain ⟨d,fraction,hd⟩ := List.exists_cons_of_ne_nil hne
    have hdigit := longer.fraction_digits d (by simp [hd])
    have hstart : StartsWithout Char.isDigit (longer.fraction ++ behind) := h.2 hwhole _ rfl
    rw [hd,List.cons_append,startsWithout_cons,hdigit] at hstart
    cases hstart
  · have hdigit := longer.fraction_digits c (by simp [← (List.cons.inj hpoint).2])
    rw [hc] at hdigit
    cases hdigit

lemma exists_identifier_iff {text : List Char} : (∃ name n, Token.identifier text = some (name,n)) ↔
    ∃ c tail, text = c :: tail ∧ (IsAsciiLetter c ∨ c = '_') := by
  constructor
  · rintro ⟨name,n,h⟩
    obtain ⟨word,rest,rfl,-⟩ := exists_of_identifier h
    exact ⟨word.head,word.tail ++ rest,rfl,isLetter_iff.mp word.head_letter⟩
  · rintro ⟨c,tail,rfl,hc⟩
    exact ⟨_,_,identifier_of_letter (isLetter_iff.mpr hc) tail⟩

lemma exists_number_iff {text : List Char} : (∃ value n, Token.number text = some (value,n)) ↔
    ∃ c tail, text = c :: tail ∧ IsAsciiDigit c := by
  constructor
  · rintro ⟨value,n,h⟩
    obtain ⟨numeral,rest,rfl,-⟩ := exists_of_number h
    obtain ⟨c,tail,hc,hd⟩ := numeral.exists_digit
    exact ⟨c,tail ++ rest,by rw [hc,List.cons_append],isDigit_iff_isAsciiDigit.mp hd⟩
  · rintro ⟨c,tail,rfl,hc⟩
    obtain ⟨numeral,rest,ht,he⟩ := exists_numeral tail (isDigit_iff_isAsciiDigit.mpr hc)
    exact ⟨_,_,ht ▸ numeral.number_append he⟩

/-- The fragments of an identifier are what it has taken from the text, cut into pieces. -/
lemma exists_fragments_of_identifier {text : List Char} {name : String} {n : Nat}
    (h : Token.identifier text = some (name,n)) :
    ∃ head tail, fragment Char.isAlpha text = some head ∧ fragments (text.drop head.length) = some tail ∧
      name = normalize ((head :: tail).map String.ofList) ∧ (head :: tail).flatten = text.take n := by
  obtain ⟨word,rest,rfl,-,hname,hn⟩ := exists_of_identifier h
  obtain ⟨head,hhead,h⟩ := Option.bind_eq_some_iff.mp h
  obtain ⟨tail,htail,h⟩ := Option.bind_eq_some_iff.mp h
  have hnormal : normalize ((head :: tail).map String.ofList) = name := by
    simp only [Option.pure_def,Option.some.injEq,Prod.mk.injEq] at h
    exact h.1
  refine ⟨head,tail,hhead,htail,hnormal.symm,?_⟩
  rw [normalize_ofList,hname] at hnormal
  rw [hn,List.take_left]
  exact String.ofList_injective hnormal

end Formula.Token

namespace Formula
open Token Grammar

/-- An identifier is found exactly where a letter or an underscore stands, and a number exactly where a
digit stands. Each takes the longest beginning of the text that follows its pattern, and its name or its
value comes from nothing else. A point without a digit behind it is left. -/
theorem tokens_taken_are_longest (text : List Char) :
    ((∃ name n, Token.identifier text = some (name,n)) ↔
      ∃ c tail, text = c :: tail ∧ (IsAsciiLetter c ∨ c = '_')) ∧
    (∀ name n, Token.identifier text = some (name,n) →
      (∃ head tail, fragment Char.isAlpha text = some head ∧ fragments (text.drop head.length) = some tail ∧
        name = normalize ((head :: tail).map String.ofList) ∧ (head :: tail).flatten = text.take n) ∧
      n ≤ text.length ∧ name.toList = text.take n ∧ IsLongest IsName text (text.take n)) ∧
    ((∃ value n, Token.number text = some (value,n)) ↔ ∃ c tail, text = c :: tail ∧ IsAsciiDigit c) ∧
    (∀ value n, Token.number text = some (value,n) →
      n ≤ text.length ∧ Binary64.ofDecimal? (text.take n) = some value ∧
        IsLongest IsNumeral text (text.take n)) ∧
    ∀ whole tail, whole ≠ [] → (∀ c ∈ whole, IsAsciiDigit c) → (∀ c ∈ tail.head?, ¬IsAsciiDigit c) →
      text = whole ++ '.' :: tail → ∃ value, Token.number text = some (value,whole.length) := by
  refine ⟨exists_identifier_iff,?_,exists_number_iff,?_,?_⟩
  · intro name n h
    refine ⟨exists_fragments_of_identifier h,?_⟩
    obtain ⟨word,rest,rfl,he,rfl,rfl⟩ := exists_of_identifier h
    rw [List.take_left]
    exact ⟨by simp,String.toList_ofList,isLongest_word word he⟩
  · intro value n h
    obtain ⟨numeral,rest,rfl,he,rfl,rfl⟩ := exists_of_number h
    rw [List.take_left]
    exact ⟨by simp,numeral.ofDecimal?_chars,isLongest_numeral numeral he⟩
  · rintro whole tail hne hwhole htail rfl
    simp only [← isDigit_iff_isAsciiDigit] at hwhole htail
    have hends : Numeral.Ends ⟨whole,[],hne,hwhole,by simp⟩ ('.' :: tail) := by
      refine ⟨startsWithout_cons.mpr (by decide),?_⟩
      rintro - _ ⟨⟩
      exact fun c hc => eq_false_of_ne_true (htail c hc)
    exact ⟨_,Numeral.number_append ⟨whole,[],hne,hwhole,by simp⟩ hends⟩

/-- A name of five fragments in front of a letter that is not of ASCII, and a number in front of a point
with nothing behind it. -/
theorem tokens_taken_are_longest_ahead :
    Token.identifier "_a__1é".toList = some ("_a__1",5) ∧
    IsLongest IsName "_a__1é".toList ['_','a','_','_','1'] ∧
    Token.number "12.".toList = some (.ofDigits ['1','2'] [],2) ∧
    IsLongest IsNumeral "12.".toList ['1','2'] ∧ ∃ value, Token.number "12.".toList = some (value,2) := by
  have hname : Token.identifier "_a__1é".toList = some ("_a__1",5) := by decide +kernel
  have hnumber : Token.number "12.".toList = some (.ofDigits ['1','2'] [],2) := by decide +kernel
  obtain ⟨-,-,-,hlongest,hpoint⟩ := tokens_taken_are_longest "12.".toList
  exact ⟨hname,((tokens_taken_are_longest _).2.1 _ _ hname).2.2.2,hnumber,(hlongest _ _ hnumber).2.2,
    hpoint ['1','2'] [] (by simp) (by simp [← isDigit_iff_isAsciiDigit]) (by simp) rfl⟩

end Formula
