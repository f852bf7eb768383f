import Formula.Expr.Printer
import Formula.Proofs.Halting
import Formula.Proofs.Unambiguous
import Formula.Proofs.WrittenNumbers

/-! What the compact form of a tree shows. It can be read in one way only, so it tells trees apart up to
positions; infinity alone is written as an identifier could be. -/
namespace Formula
open Grammar Token

namespace Grammar.Shape

/-- Made of numbers that rows of digits stand for, and of words. -/
def Lexical : Shape → Prop
  | number value => value.IsMagnitude
  | identifier name => ∃ word : Word, name = word.name
  | negate operand => operand.Lexical
  | binary _ left right => left.Lexical ∧ right.Lexical

/-- The shape with infinity taken for the identifier that is written like it. -/
def named : Shape → Shape
  | number value => if value.isInfinite then identifier "inf" else number value
  | identifier name => identifier name
  | negate operand => negate operand.named
  | binary operator left right => binary operator left.named right.named

/-- The characters of the compact form. -/
def compact : Shape → List Char
  | number value => value.plain.toList
  | identifier name => name.toList
  | negate operand => '(' :: '-' :: ' ' :: (operand.compact ++ [')'])
  | binary operator left right =>
    '(' :: operator.symbol :: ' ' :: (left.compact ++ ' ' :: (right.compact ++ [')']))

/-- Numbers and identifiers. -/
def IsLeaf : Shape → Prop
  | number _ => True
  | identifier _ => True
  | _ => False

end Grammar.Shape

/-- Positions are not shown. -/
lemma Expr.toList_compact (e : Expr) : e.compact.toList = e.shape.compact := by
  induction e with
  | number value p => rfl
  | identifier name p => rfl
  | negate operand p ih => simp [compact,shape,Shape.compact,ih]
  | binary o left right p ihl ihr => simp [compact,shape,Shape.compact,ihl,ihr]

/-- What is read from a text is made of the numbers and words in it. -/
lemma Grammar.Derivation.lexical {s : Symbol} (d : Derivation s) : d.shape.Lexical := by
  induction d with
  | number gap numeral => exact Binary64.isMagnitude_ofDigits _ _
  | identifier gap word => exact ⟨word,rfl⟩
  | negation gap operand ih => exact ih
  | parentheses gap inner close ih => exact ih
  | single operand ih => exact ih
  | more left gap operator member right ihl ihr => exact ⟨ihl,ihr⟩

theorem lexical_of_parse {limit : Limit} {source : String} {tree : Expr} (h : parse limit source = .ok tree) :
    tree.shape.Lexical := by
  obtain ⟨sentence,-,-,rfl⟩ := sentence_of_parseText h
  rw [Derivation.shape_tree]
  exact sentence.body.lexical

section Leaves

variable {value : Binary64}

lemma plain_of_infinite (hv : value.IsMagnitude) (h : value.isInfinite = true) :
    value.plain.toList = "inf".toList := by
  rw [Binary64.plain,hv.toList_signed,if_pos (of_decide_eq_true h)]

lemma plain_of_finite (hv : value.IsMagnitude) (h : value.isInfinite = false) :
    value.plain.toList = (Binary64.shortest value.rank).positional [] := by
  rw [Binary64.plain,hv.toList_signed,if_neg (of_decide_eq_false h)]

/-- No word is a finite number. -/
lemma infinite_of_plain_eq (hv : value.IsMagnitude) {word : Word} (h : value.plain.toList = word.chars) :
    value.isInfinite = true := by
  by_contra hfinite
  rw [plain_of_finite hv (eq_false_of_ne_true hfinite),Decimal.positional_eq] at h
  obtain ⟨c,whole,hc⟩ := List.exists_cons_of_ne_nil (Binary64.shortest value.rank).wholeDigits_ne_nil
  have hdigit := (Binary64.shortest value.rank).isDigit_of_mem_wholeDigits (c := c) (by simp [hc])
  rw [hc] at h
  obtain ⟨rfl,-⟩ := List.cons.inj h
  rw [isDigit_of_isLetter word.head_letter] at hdigit
  cases hdigit

/-- Only infinity is written like a word. -/
lemma named_of_plain_eq (hv : value.IsMagnitude) {word : Word} (h : value.plain.toList = word.name.toList) :
    (Shape.number value).named = (Shape.identifier word.name).named := by
  have hinf := infinite_of_plain_eq hv (by rw [h,Word.name,String.toList_ofList])
  rw [plain_of_infinite hv hinf] at h
  simp [Shape.named,hinf,String.toList_injective h]

end Leaves

namespace Grammar.Shape

variable {s t : Shape} {u v : List Char}

lemma mem_compact_leaf (hs : s.Lexical) (hleaf : s.IsLeaf) {c : Char} (h : c ∈ s.compact) :
    (isWordChar c || c = '.') = true := by
  cases s with
  | number value =>
    cases hinf : value.isInfinite with
    | true =>
      have hname : "inf".toList = ['i','n','f'] := rfl
      rw [compact,plain_of_infinite hs hinf,hname] at h
      simp only [List.mem_cons,List.not_mem_nil,or_false] at h
      rcases h with rfl | rfl | rfl <;> decide
    | false =>
      rw [compact,plain_of_finite hs hinf] at h
      rcases Decimal.mem_positional (Or.inl rfl) h with h | rfl
      · simp [isWordChar_of_isDigit h]
      · decide
  | identifier name =>
    obtain ⟨word,rfl⟩ := hs
    rw [compact,Word.name,String.toList_ofList] at h
    simp [word.chars_word c h]
  | negate | binary => cases hleaf

lemma compact_leaf_ne_nil (hs : s.Lexical) (hleaf : s.IsLeaf) : s.compact ≠ [] := by
  cases s with
  | number value =>
    cases hinf : value.isInfinite with
    | true =>
      rw [compact,plain_of_infinite hs hinf]
      decide
    | false =>
      rw [compact,plain_of_finite hs hinf,Decimal.positional_eq]
      exact List.append_ne_nil_of_left_ne_nil (Decimal.wholeDigits_ne_nil _) _
  | identifier name =>
    obtain ⟨word,rfl⟩ := hs
    simp [compact,Word.name,Word.chars]
  | negate | binary => cases hleaf

/-- Only operations start with a parenthesis. -/
lemma compact_leaf_append_ne (hs : s.Lexical) (hleaf : s.IsLeaf) (u v : List Char) :
    s.compact ++ u ≠ '(' :: v := by
  intro h
  obtain ⟨c,tail,hc⟩ := List.exists_cons_of_ne_nil (compact_leaf_ne_nil hs hleaf)
  have hword := mem_compact_leaf hs hleaf (c := c) (by simp [hc])
  rw [hc] at h
  obtain ⟨rfl,-⟩ := List.cons.inj h
  exact absurd hword (by decide)

lemma startsWithout_of_breaks (h : Breaks u) : StartsWithout (fun c => isWordChar c || c = '.') u := by
  intro c hc
  obtain ⟨hword,hpoint⟩ := h c hc
  simp [hword,hpoint]

/-- Leaves that are written alike are the same, infinity and its name apart. -/
lemma named_of_compact_leaf (hs : s.Lexical) (ht : t.Lexical) (hleaf : s.IsLeaf) (hleaf' : t.IsLeaf)
    (h : s.compact = t.compact) : s.named = t.named := by
  cases s with
  | number x =>
    cases t with
    | number y => rw [Binary64.plain_injective hs ht (String.toList_injective h)]
    | identifier name =>
      obtain ⟨word,rfl⟩ := ht
      exact named_of_plain_eq hs h
    | negate | binary => cases hleaf'
  | identifier name =>
    cases t with
    | number y =>
      obtain ⟨word,rfl⟩ := hs
      exact (named_of_plain_eq ht h.symm).symm
    | identifier name' => rw [String.toList_injective h]
    | negate | binary => cases hleaf'
  | negate | binary => cases hleaf

/-- A leaf at the head of a text ends where its last token does. -/
lemma compact_unique_leaf (hs : s.Lexical) (ht : t.Lexical) (hleaf : s.IsLeaf) (hu : Breaks u) (hv : Breaks v)
    (h : s.compact ++ u = t.compact ++ v) : s.named = t.named ∧ u = v := by
  have hleaf' : t.IsLeaf := by
    cases t with
    | number | identifier => trivial
    | negate | binary => exact absurd h (compact_leaf_append_ne hs hleaf _ _)
  obtain ⟨hst,huv⟩ := run_unique h (fun c => mem_compact_leaf hs hleaf) (startsWithout_of_breaks hu)
    (fun c => mem_compact_leaf ht hleaf') (startsWithout_of_breaks hv)
  exact ⟨named_of_compact_leaf hs ht hleaf hleaf' hst,huv⟩

lemma breaks_space (rest : List Char) : Breaks (' ' :: rest) := breaks_cons.mpr (by decide)

lemma breaks_close (rest : List Char) : Breaks (')' :: rest) := breaks_cons.mpr (by decide)

/-- Two compact forms at the head of one text are forms of one shape, and end at the same place. -/
theorem compact_unique (hs : s.Lexical) (ht : t.Lexical) (hu : Breaks u) (hv : Breaks v)
    (h : s.compact ++ u = t.compact ++ v) : s.named = t.named ∧ u = v := by
  -- A negation and a subtraction start alike; they differ behind the first operand.
  induction s generalizing t u v with
  | number x => exact compact_unique_leaf hs ht trivial hu hv h
  | identifier name => exact compact_unique_leaf hs ht trivial hu hv h
  | negate operand ih =>
    cases t with
    | number | identifier => exact absurd h.symm (compact_leaf_append_ne ht trivial _ _)
    | negate operand' =>
      simp only [compact,List.cons_append,List.append_assoc,List.nil_append,List.cons.injEq,true_and] at h
      obtain ⟨hoperand,hrest⟩ := ih (t := operand') hs ht (breaks_close _) (breaks_close _) h
      exact ⟨by rw [named,named,hoperand],(List.cons.inj hrest).2⟩
    | binary o left right =>
      simp only [compact,List.cons_append,List.append_assoc,List.nil_append,List.cons.injEq,true_and] at h
      obtain ⟨-,hrest⟩ := ih hs ht.1 (breaks_close _) (breaks_space _) h.2
      simp at hrest
  | binary o left right ihl ihr =>
    cases t with
    | number | identifier => exact absurd h.symm (compact_leaf_append_ne ht trivial _ _)
    | negate operand =>
      simp only [compact,List.cons_append,List.append_assoc,List.nil_append,List.cons.injEq,true_and] at h
      obtain ⟨-,hrest⟩ := ihl (t := operand) hs.1 ht (breaks_space _) (breaks_close _) h.2
      simp at hrest
    | binary p left' right' =>
      simp only [compact,List.cons_append,List.append_assoc,List.nil_append,List.cons.injEq,true_and] at h
      obtain ⟨hsymbol,htext⟩ := h
      obtain ⟨hleft,hrest⟩ := ihl hs.1 ht.1 (breaks_space _) (breaks_space _) htext
      obtain ⟨hright,hend⟩ := ihr hs.2 ht.2 (breaks_close _) (breaks_close _)
        (List.cons.inj hrest).2
      exact ⟨by rw [named,named,symbol_injective hsymbol,hleft,hright],(List.cons.inj hend).2⟩

/-- Infinity and its name are written alike. -/
lemma compact_named (hs : s.Lexical) : s.named.compact = s.compact := by
  induction s with
  | number value =>
    cases hinf : value.isInfinite with
    | true => simp only [named,hinf,if_true,compact,plain_of_infinite hs hinf]
    | false => simp [named,hinf]
  | identifier name => rfl
  | negate operand ih => rw [named,compact,compact,ih hs]
  | binary o left right ihl ihr => rw [named,compact,compact,ihl hs.1,ihr hs.2]

end Grammar.Shape

/-- Compact forms tell the trees of texts apart, up to positions and the name of infinity. -/
theorem compact_eq_iff_named {limit limit' : Limit} {source source' : String} {tree tree' : Expr}
    (h : parse limit source = .ok tree) (h' : parse limit' source' = .ok tree') :
    tree.compact = tree'.compact ↔ tree.shape.named = tree'.shape.named := by
  have hlex := lexical_of_parse h
  have hlex' := lexical_of_parse h'
  rw [← String.toList_inj,Expr.toList_compact,Expr.toList_compact]
  constructor
  · intro heq
    exact (Shape.compact_unique hlex hlex' breaks_nil breaks_nil (by rw [heq])).1
  · intro heq
    rw [← Shape.compact_named hlex,heq,Shape.compact_named hlex']

/-- A numeral by itself is read as its value. -/
lemma parse_numeral (limit : Limit) (numeral : Numeral) :
    parse limit (String.ofList numeral.chars) = .ok (.number numeral.value .first) := by
  have h : parseText limit _ = _ :=
    parseText_of_sentence ⟨.single (.single (.number .none numeral)),.none⟩ (Nat.zero_le _)
  simpa [parse,Sentence.text,Derivation.text,Derivation.tree] using h

/-- A number out of range looks like an identifier, wherever the two stand. -/
theorem compact_eq_iff_named_overflow :
    parse .standard (String.ofList (List.replicate 309 '9')) =
        .ok (.number (.ofDigits (List.replicate 309 '9') []) ⟨1,1⟩) ∧
      parse (.ofRequest 1) "(inf)" = .ok (.identifier "inf" ⟨1,2⟩) ∧
      (Expr.number (.ofDigits (List.replicate 309 '9') []) ⟨1,1⟩).compact =
        (Expr.identifier "inf" ⟨1,2⟩).compact := by
  have hdigits : ∀ c ∈ List.replicate 309 '9', c.isDigit = true := by
    intro c hc
    rw [List.eq_of_mem_replicate hc]
    rfl
  have hnines : parse .standard (String.ofList (List.replicate 309 '9')) =
      .ok (.number (.ofDigits (List.replicate 309 '9') []) ⟨1,1⟩) :=
    parse_numeral .standard ⟨List.replicate 309 '9',[],List.cons_ne_nil _ _,hdigits,List.forall_mem_nil _⟩
  have hname : parse (.ofRequest 1) "(inf)" = .ok (.identifier "inf" ⟨1,2⟩) := by decide +kernel
  exact ⟨hnines,hname,(compact_eq_iff_named hnines hname).mpr (by decide +kernel)⟩

end Formula
