import Mathlib
import Formula.Number.Written
import Formula.Proofs.Tokens

/-! Written numbers. The decimal that is chosen for a magnitude reads back as that magnitude, and each way of
writing a decimal down shows its whole value. So no two magnitudes are written alike. -/
namespace Formula

attribute [ext] Binary64

lemma tenPow_pos (n : Nat) : 0 < tenPow n := Nat.pow_pos (by decide)

lemma twoPow_pos (n : Nat) : 0 < twoPow n := Nat.pow_pos (by decide)

lemma tenPow_add (m n : Nat) : tenPow (m+n) = tenPow m * tenPow n := Nat.pow_add 10 m n

lemma mul_pow_mul_twoPow (u n : Nat) : u * Nat.pow 5 n * twoPow n = u * tenPow n := by
  have h : tenPow n = Nat.pow 5 n * twoPow n := Nat.mul_pow 5 2 n
  rw [h,Nat.mul_assoc]

namespace Binary64

section Rounding

lemma roundDiv_mul {den : Nat} (h : 0 < den) (q : Nat) : roundDiv (q*den) den = q := by
  simp [roundDiv,h,Nat.mul_div_cancel q h]

lemma log2_mul_twoPow {f : Nat} (h : f < twoPow 52) (e : Nat) :
    ((twoPow 52 + f) * twoPow e).log2 = 52 + e := by
  have hpos := twoPow_pos e
  have hne : (twoPow 52 + f) * twoPow e ≠ 0 := Nat.mul_ne_zero (by have := twoPow_pos 52; omega) (by omega)
  rw [Nat.log2_eq_iff hne,Nat.pow_add,Nat.add_right_comm,Nat.pow_add]
  exact ⟨Nat.mul_le_mul_right _ (Nat.le_add_right _ _),
    Nat.mul_lt_mul_of_pos_right (by change _ < twoPow 52 * 2; omega) hpos⟩

/-- A magnitude is its significand, shifted, and its rank counts the shift and the significand. -/
lemma exists_significand (rank : Nat) : ∃ significand,
    units rank = significand * twoPow ((units rank).log2 - 52) ∧
      ((units rank).log2 - 52) * twoPow 52 + significand = rank := by
  by_cases h : rank < twoPow 52
  · have hunits : units rank = rank := if_pos h
    have hlog : rank.log2 - 52 = 0 := by
      by_cases hzero : rank = 0
      · simp [hzero]
      · have := (Nat.log2_lt hzero).mpr h
        omega
    rw [hunits,hlog]
    exact ⟨rank,(Nat.mul_one rank).symm,by simp⟩
  · have hpos := twoPow_pos 52
    have hunits : units rank = (twoPow 52 + rank % twoPow 52) * twoPow (rank / twoPow 52 - 1) := if_neg h
    have hone : 0 < rank / twoPow 52 := Nat.div_pos (by omega) hpos
    have hdiv := Nat.div_add_mod rank (twoPow 52)
    have hlog : (units rank).log2 - 52 = rank / twoPow 52 - 1 := by
      rw [hunits,log2_mul_twoPow (Nat.mod_lt _ hpos)]
      omega
    rw [hlog]
    refine ⟨_,hunits,?_⟩
    rw [← Nat.add_assoc,Nat.sub_mul,Nat.one_mul,Nat.sub_add_cancel (Nat.le_mul_of_pos_left _ hone),Nat.mul_comm]
    exact hdiv

/-- A quotient that is a magnitude is rounded to this magnitude. -/
theorem rankOf_of_units {num den rank : Nat} (hden : 0 < den) (h : num * twoPow 1074 = units rank * den)
    (hrank : rank ≤ infinityRank) : rankOf num den = rank := by
  obtain ⟨significand,hunits,hsum⟩ := exists_significand rank
  have hquotient : num * twoPow 1074 / den = units rank := by rw [h,Nat.mul_div_cancel _ hden]
  have hexact : units rank * den = significand * (den * twoPow ((units rank).log2 - 52)) := by
    conv_lhs => rw [hunits]
    rw [Nat.mul_assoc,Nat.mul_comm den]
  rw [rankOf,hquotient,h,hexact,roundDiv_mul (Nat.mul_pos hden (twoPow_pos _)),hsum]
  exact Nat.min_eq_left hrank

end Rounding

section Shortest

variable {rank : Nat}

lemma readsBack_exact (h : rank ≤ infinityRank) : readsBack rank ⟨decimalUnits rank,0⟩ = true := by
  have hvalue : Decimal.value ⟨decimalUnits rank,0⟩ = decimalUnits rank := Nat.mul_one _
  have hunits : decimalUnits rank * twoPow 1074 = units rank * tenPow 1074 := by
    simp only [decimalUnits,mul_pow_mul_twoPow]
  rw [readsBack,hvalue,decide_eq_true_eq]
  exact rankOf_of_units (tenPow_pos _) hunits h

lemma readsBack_of_atScale? {scale : Nat} {decimal : Decimal} (h : atScale? rank scale = some decimal) :
    readsBack rank decimal = true := by
  simp only [atScale?] at h
  split at h
  · next hlow =>
    split at h
    · next hhigh =>
      obtain rfl := Option.some.inj h
      exact (Bool.and_eq_true_iff.mp hhigh).1
    · obtain rfl := Option.some.inj h
      exact hlow
  · split at h
    · next hhigh =>
      obtain rfl := Option.some.inj h
      exact hhigh
    · cases h

/-- The decimal that is chosen for a magnitude reads back as this magnitude. -/
theorem rankOf_shortest (h : rank ≤ infinityRank) : rankOf (shortest rank).value (tenPow 1074) = rank := by
  have hback : readsBack rank (shortest rank) = true := by
    unfold shortest
    dsimp only
    cases hfind : (List.range' 1 17).findSome? fun digits =>
        atScale? rank (digitCount (decimalUnits rank) - digits) with
    | none => exact readsBack_exact h
    | some decimal =>
      obtain ⟨digits,-,hdigits⟩ := List.exists_of_findSome?_eq_some hfind
      exact readsBack_of_atScale? hdigits
  exact of_decide_eq_true hback

end Shortest

end Binary64

namespace Decimal

section Digits

lemma digitsValue_append_zeros (digits : List Char) (k : Nat) :
    digitsValue (digits ++ List.replicate k '0') = digitsValue digits * tenPow k := by
  have h := (Nat.ofDigitChars_append (b := 10) (l := digits) (m := List.replicate k '0') 0).trans
    Nat.ofDigitChars_replicate_zero
  rw [Nat.mul_comm] at h
  exact h

lemma digitsValue_zeros_append (k : Nat) (digits : List Char) :
    digitsValue (List.replicate k '0' ++ digits) = digitsValue digits := by
  have h := Nat.ofDigitChars_append (b := 10) (l := List.replicate k '0') (m := digits) 0
  rw [Nat.ofDigitChars_replicate_zero,Nat.mul_zero] at h
  exact h

lemma digitsValue_digits (d : Decimal) : digitsValue d.digits = d.coefficient := Nat.ofDigitChars_ten_toDigits

lemma isDigit_of_mem_digits {d : Decimal} {c : Char} (h : c ∈ d.digits) : c.isDigit = true :=
  Nat.isDigit_of_mem_toDigits (by decide) (by decide) h

/-- Zeros are all that is dropped. -/
lemma exists_zeros (digits : List Char) :
    ∃ k, digits = dropTrailingZeros digits ++ List.replicate k '0' := by
  have hzeros : ∀ c ∈ digits.rtakeWhile (· = '0'), c = '0' := fun c hc => by
    simpa using List.mem_rtakeWhile_imp hc
  refine ⟨(digits.rtakeWhile (· = '0')).length,?_⟩
  rw [← List.eq_replicate_length.mpr hzeros]
  exact List.rdropWhile_append_rtakeWhile.symm

lemma mem_of_mem_dropTrailingZeros {digits : List Char} {c : Char} (h : c ∈ dropTrailingZeros digits) :
    c ∈ digits := (List.rdropWhile_prefix (· = '0') digits).subset h

lemma dropTrailingZeros_ne (digits : List Char) : dropTrailingZeros digits ≠ ['0'] := by
  intro h
  have htwice : dropTrailingZeros (dropTrailingZeros digits) = dropTrailingZeros digits :=
    List.rdropWhile_idempotent (· = '0') digits
  rw [h] at htwice
  exact absurd htwice (by decide)

end Digits

section Positional

variable (d : Decimal)

/-- The digits behind the point, needless zeros included. -/
def allFractionDigits : List Char :=
  List.replicate (1074 - d.scale - d.digits.length) '0' ++ d.digits.drop (d.digits.length - (1074 - d.scale))

lemma fractionDigits_eq : d.fractionDigits = dropTrailingZeros d.allFractionDigits := rfl

lemma length_allFractionDigits : d.allFractionDigits.length = 1074 - d.scale := by
  simp only [allFractionDigits,List.length_append,List.length_replicate,List.length_drop]
  omega

/-- With all digits behind the point, the point stands so many places from the end. -/
lemma digitsValue_all :
    digitsValue (d.wholeDigits ++ d.allFractionDigits) = d.coefficient * tenPow (d.scale - 1074) := by
  unfold wholeDigits
  split
  · next hlarge =>
    have hnone : d.allFractionDigits = [] := by
      apply List.eq_nil_of_length_eq_zero
      rw [length_allFractionDigits]
      omega
    rw [hnone,List.append_nil,digitsValue_append_zeros,digitsValue_digits]
  · next hsmall =>
    have hunit : tenPow (d.scale - 1074) = 1 := by
      rw [show d.scale - 1074 = 0 by omega]
      rfl
    rw [hunit,Nat.mul_one]
    unfold allFractionDigits
    split
    · next hshort =>
      have hdrop : d.digits.length - (1074 - d.scale) = 0 := by omega
      rw [hdrop,List.drop_zero,← List.append_assoc,← List.replicate_one,List.replicate_append_replicate,
        digitsValue_zeros_append,digitsValue_digits]
    · next hlong =>
      have hzeros : 1074 - d.scale - d.digits.length = 0 := by omega
      rw [hzeros,List.replicate_zero,List.nil_append,List.take_append_drop,digitsValue_digits]

/-- The digits before and behind the point show the whole value. -/
theorem digitsValue_positional :
    digitsValue (d.wholeDigits ++ d.fractionDigits) * tenPow (1074 - d.fractionDigits.length) = d.value := by
  obtain ⟨k,hk⟩ := exists_zeros d.allFractionDigits
  rw [← fractionDigits_eq] at hk
  have hlength := congrArg List.length hk
  rw [length_allFractionDigits,List.length_append,List.length_replicate] at hlength
  have hvalue := d.digitsValue_all
  rw [hk,← List.append_assoc,digitsValue_append_zeros] at hvalue
  have hplaces : 1074 - d.fractionDigits.length = k + min d.scale 1074 := by omega
  have hscale : d.scale - 1074 + min d.scale 1074 = d.scale := by omega
  rw [hplaces,tenPow_add,← Nat.mul_assoc,hvalue,Nat.mul_assoc,← tenPow_add,hscale,value]

lemma wholeDigits_ne_nil : d.wholeDigits ≠ [] := by
  have hpos := List.length_pos_of_ne_nil (Nat.toDigits_ne_nil (n := d.coefficient) (b := 10))
  change 0 < d.digits.length at hpos
  apply List.ne_nil_of_length_pos
  unfold wholeDigits
  split
  · rw [List.length_append]
    omega
  · split
    · simp
    · rw [List.length_take]
      omega

lemma isDigit_of_mem_wholeDigits {c : Char} (h : c ∈ d.wholeDigits) : c.isDigit = true := by
  unfold wholeDigits at h
  split at h
  · rcases List.mem_append.mp h with h | h
    · exact isDigit_of_mem_digits h
    · rw [List.eq_of_mem_replicate h]
      rfl
  · split at h
    · rw [List.mem_singleton.mp h]
      rfl
    · exact isDigit_of_mem_digits (List.mem_of_mem_take h)

lemma isDigit_of_mem_fractionDigits {c : Char} (h : c ∈ d.fractionDigits) : c.isDigit = true := by
  have hall := mem_of_mem_dropTrailingZeros h
  rcases List.mem_append.mp hall with h | h
  · rw [List.eq_of_mem_replicate h]
    rfl
  · exact isDigit_of_mem_digits (List.mem_of_mem_drop h)

/-- What stands behind the digits before the point. -/
def pointed (ending : List Char) : List Char :=
  if d.fractionDigits.isEmpty then ending else '.' :: d.fractionDigits

lemma positional_eq (ending : List Char) : d.positional ending = d.wholeDigits ++ d.pointed ending := by
  unfold positional pointed
  split <;> rfl

end Positional

section Endings

variable {d e : Decimal} {ending : List Char}

/-- The two ways to end a number without digits behind the point. -/
def IsEnding (ending : List Char) : Prop := ending = [] ∨ ending = ['.','0']

lemma startsWithout_pointed (hending : IsEnding ending) : StartsWithout Char.isDigit (d.pointed ending) := by
  unfold pointed
  split
  · rcases hending with rfl | rfl
    · simp
    · rw [startsWithout_cons]
      rfl
  · rw [startsWithout_cons]
    rfl

lemma ending_ne_fraction (hending : IsEnding ending) (d : Decimal) : ending ≠ '.' :: d.fractionDigits := by
  rintro rfl
  rcases hending with h | h
  · cases h
  · exact dropTrailingZeros_ne _ (List.cons.inj h).2

/-- The digits behind the point can be told from any ending. -/
lemma fractionDigits_of_pointed (hending : IsEnding ending) (h : d.pointed ending = e.pointed ending) :
    d.fractionDigits = e.fractionDigits := by
  unfold pointed at h
  split at h
  · next hd =>
    split at h
    · next he => rw [List.isEmpty_iff.mp hd,List.isEmpty_iff.mp he]
    · exact absurd h (ending_ne_fraction hending e)
  · split at h
    · exact absurd h.symm (ending_ne_fraction hending d)
    · exact (List.cons.inj h).2

/-- Decimals that are written alike have the same value. -/
theorem value_of_positional (hending : IsEnding ending) (h : d.positional ending = e.positional ending) :
    d.value = e.value := by
  rw [positional_eq,positional_eq] at h
  obtain ⟨hwhole,hpointed⟩ := run_unique h (fun c => d.isDigit_of_mem_wholeDigits)
    (startsWithout_pointed hending) (fun c => e.isDigit_of_mem_wholeDigits) (startsWithout_pointed hending)
  rw [← d.digitsValue_positional,← e.digitsValue_positional,hwhole,fractionDigits_of_pointed hending hpointed]

lemma mem_positional (hending : IsEnding ending) {c : Char} (h : c ∈ d.positional ending) :
    c.isDigit = true ∨ c = '.' := by
  rw [positional_eq,List.mem_append] at h
  rcases h with h | h
  · exact Or.inl (d.isDigit_of_mem_wholeDigits h)
  · unfold pointed at h
    split at h
    · rcases hending with rfl | rfl
      · cases h
      · simp only [List.mem_cons,List.not_mem_nil,or_false] at h
        rcases h with rfl | rfl
        · exact Or.inr rfl
        · exact Or.inl rfl
    · rcases List.mem_cons.mp h with rfl | h
      · exact Or.inr rfl
      · exact Or.inl (d.isDigit_of_mem_fractionDigits h)

end Endings

section Exponential

variable {d e : Decimal}

/-- Digits with a point behind the first one, where there are more. -/
def mantissa : List Char → List Char
  | first :: second :: more => first :: '.' :: second :: more
  | few => few

/-- The power of ten that the first digit counts. -/
def power (d : Decimal) : Int := (d.digits.length + d.scale : Nat) - 1075

lemma exponential_eq (d : Decimal) :
    d.exponential = mantissa (dropTrailingZeros d.digits) ++ 'e' :: (toString d.power).toList := by
  unfold exponential power
  generalize dropTrailingZeros d.digits = digits
  rcases digits with _ | ⟨first,_ | ⟨second,more⟩⟩ <;> rfl

lemma mem_mantissa {digits : List Char} {c : Char} (h : c ∈ mantissa digits) : c ∈ digits ∨ c = '.' := by
  unfold mantissa at h
  split at h
  · simp only [List.mem_cons] at h ⊢
    tauto
  · exact Or.inl h

/-- The point takes nothing away from the digits. -/
lemma filter_mantissa {digits : List Char} (h : ∀ c ∈ digits, c.isDigit = true) :
    (mantissa digits).filter (· ≠ '.') = digits := by
  have hpoint : ∀ c ∈ digits, decide (c ≠ '.') = true := by
    intro c hc
    have hdigit := h c hc
    rw [decide_eq_true_eq]
    rintro rfl
    exact absurd hdigit (by decide)
  rcases digits with _ | ⟨first,_ | ⟨second,more⟩⟩
  · rfl
  · exact List.filter_eq_self.mpr hpoint
  · have hmore := List.filter_eq_self.mpr fun c hc => hpoint c (List.mem_cons_of_mem first hc)
    rw [mantissa,List.filter_cons,if_pos (hpoint first (by simp)),List.filter_cons,if_neg (by decide),hmore]

lemma isDigit_of_mem_significant {c : Char} (h : c ∈ dropTrailingZeros d.digits) : c.isDigit = true :=
  isDigit_of_mem_digits (mem_of_mem_dropTrailingZeros h)

/-- The value counts the significant digits and the power of the first one. -/
lemma value_eq (d : Decimal) : ∃ places : Nat,
    d.value = digitsValue (dropTrailingZeros d.digits) * tenPow places ∧
      d.power = (dropTrailingZeros d.digits).length + places - 1075 := by
  obtain ⟨k,hk⟩ := exists_zeros d.digits
  have hlength := congrArg List.length hk
  rw [List.length_append,List.length_replicate] at hlength
  have hvalue := d.digitsValue_digits
  rw [hk,digitsValue_append_zeros] at hvalue
  refine ⟨k + d.scale,?_,?_⟩
  · rw [value,← hvalue,Nat.mul_assoc,← tenPow_add]
  · unfold power
    omega

/-- Decimals that are written alike with powers of ten have the same value. -/
theorem value_of_exponential (h : d.exponential = e.exponential) : d.value = e.value := by
  rw [exponential_eq,exponential_eq] at h
  have hgood (d : Decimal) : ∀ c ∈ mantissa (dropTrailingZeros d.digits), (c.isDigit || c = '.') = true := by
    intro c hc
    rcases mem_mantissa hc with hc | rfl
    · simp [isDigit_of_mem_significant hc]
    · simp
  have hstop (rest : List Char) : StartsWithout (fun c => c.isDigit || c = '.') ('e' :: rest) :=
    startsWithout_cons.mpr (by decide)
  obtain ⟨hmantissa,hpower⟩ := run_unique h (hgood d) (hstop _) (hgood e) (hstop _)
  have hdigits := congrArg (List.filter (· ≠ '.')) hmantissa
  rw [filter_mantissa fun c => isDigit_of_mem_significant,filter_mantissa fun c => isDigit_of_mem_significant]
    at hdigits
  have hsame := Int.repr_inj.mp (String.toList_inj.mp (List.cons.inj hpower).2)
  obtain ⟨m,hd,hdp⟩ := d.value_eq
  obtain ⟨n,he,hep⟩ := e.value_eq
  have hplaces : m = n := by
    rw [hdigits] at hdp
    omega
  rw [hd,he,hdigits,hplaces]

lemma isDigit_of_mem_repr {n : Nat} {c : Char} (h : c ∈ n.repr.toList) : c.isDigit = true := by
  rw [Nat.toList_repr] at h
  exact Nat.isDigit_of_mem_toDigits (by decide) (by decide) h

lemma mem_exponential {c : Char} (h : c ∈ d.exponential) :
    c.isDigit = true ∨ c = '.' ∨ c = 'e' ∨ c = '-' := by
  rw [exponential_eq,List.mem_append,List.mem_cons,Int.toString_eq_repr,Int.repr_eq_if] at h
  rcases h with h | rfl | h
  · exact (mem_mantissa h).imp isDigit_of_mem_significant Or.inl
  · exact Or.inr (Or.inr (Or.inl rfl))
  · split at h
    · exact Or.inl (isDigit_of_mem_repr h)
    · rw [String.toList_append,List.mem_append] at h
      rcases h with h | h
      · exact Or.inr (Or.inr (Or.inr (List.mem_singleton.mp h)))
      · exact Or.inl (isDigit_of_mem_repr h)

lemma exponential_ne_positional {ending : List Char} (hending : IsEnding ending) :
    d.exponential ≠ e.positional ending := by
  intro h
  have he : 'e' ∈ e.positional ending := by
    rw [← h,exponential_eq]
    simp
  exact absurd (mem_positional hending he) (by decide)

end Exponential

end Decimal

namespace Binary64
open Decimal

/-- Neither negative nor beyond infinity, like all numbers that rows of digits stand for. -/
def IsMagnitude (x : Binary64) : Prop := x.negative = false ∧ x.rank ≤ infinityRank

lemma isMagnitude_ofDigits (whole fraction : List Char) : (ofDigits whole fraction).IsMagnitude :=
  ⟨rfl,rankOf_le _ _⟩

variable {x y : Binary64}

lemma IsMagnitude.isNaN_eq_false (h : x.IsMagnitude) : x.isNaN = false := decide_eq_false (Nat.not_lt.mpr h.2)

/-- Of magnitudes, only the same are equal as numbers. -/
lemma IsMagnitude.equals_iff (hx : x.IsMagnitude) (hy : y.IsMagnitude) : x.equals y = true ↔ x = y := by
  simp [equals,Binary64.ext_iff,hx.isNaN_eq_false,hy.isNaN_eq_false,hx.1,hy.1]

/-- Infinity has a name, and all other magnitudes are written as their ranks are. -/
lemma IsMagnitude.toList_signed (h : x.IsMagnitude) (finite : Nat → List Char) :
    (x.signed finite).toList = if x.rank = infinityRank then "inf".toList else finite x.rank := by
  simp only [signed,h.isNaN_eq_false,h.1,isInfinite,decide_eq_true_eq,Bool.false_eq_true,if_false,List.nil_append,
    String.toList_ofList]

/-- What tells the finite ranks apart, and from the name of infinity, tells magnitudes apart. -/
lemma signed_injective {finite : Nat → List Char} (hname : ∀ rank, finite rank ≠ "inf".toList)
    (hinj : ∀ r s, r ≤ infinityRank → s ≤ infinityRank → finite r = finite s → r = s) (hx : x.IsMagnitude)
    (hy : y.IsMagnitude) (h : x.signed finite = y.signed finite) : x = y := by
  have htext := congrArg String.toList h
  rw [hx.toList_signed,hy.toList_signed] at htext
  have hrank : x.rank = y.rank := by
    split at htext
    · next hxinf =>
      split at htext
      · next hyinf => rw [hxinf,hyinf]
      · exact absurd htext.symm (hname _)
    · split at htext
      · exact absurd htext (hname _)
      · exact hinj _ _ hx.2 hy.2 htext
  exact Binary64.ext (hx.1.trans hy.1.symm) hrank

lemma shortest_injective {r s : Nat} (hr : r ≤ infinityRank) (hs : s ≤ infinityRank)
    (h : (shortest r).value = (shortest s).value) : r = s := by
  rw [← rankOf_shortest hr,← rankOf_shortest hs,h]

lemma positional_ne_inf (d : Decimal) {ending : List Char} (hending : IsEnding ending) :
    d.positional ending ≠ "inf".toList := by
  intro h
  have hi : 'i' ∈ d.positional ending := by simp [h]
  exact absurd (mem_positional hending hi) (by decide)

/-- No two magnitudes have the same plain form. -/
theorem plain_injective (hx : x.IsMagnitude) (hy : y.IsMagnitude) (h : x.plain = y.plain) : x = y := by
  refine signed_injective (fun rank => positional_ne_inf _ (Or.inl rfl)) ?_ hx hy h
  intro r s hr hs htext
  exact shortest_injective hr hs (value_of_positional (Or.inl rfl) htext)

/-- No two magnitudes have the same marked form. -/
theorem marked_injective (hx : x.IsMagnitude) (hy : y.IsMagnitude) (h : x.marked = y.marked) : x = y := by
  refine signed_injective ?_ ?_ hx hy h
  · intro rank
    split
    · intro hname
      have hi : 'i' ∈ (shortest rank).exponential := by simp [hname]
      exact absurd (mem_exponential hi) (by decide)
    · exact positional_ne_inf _ (Or.inr rfl)
  · intro r s hr hs htext
    apply shortest_injective hr hs
    split at htext
    · split at htext
      · exact value_of_exponential htext
      · exact absurd htext (exponential_ne_positional (Or.inr rfl))
    · split at htext
      · exact absurd htext.symm (exponential_ne_positional (Or.inr rfl))
      · exact value_of_positional (Or.inr rfl) htext

end Binary64

end Formula
