import Formula.Expr.Outline
import Formula.Presentation
import Formula.Proofs.CompactForm

/-! What the outline of a tree shows. Its lines can be read in one way only, level by level, and no line has
a line feed inside, so an outline is that of one tree, positions included. -/
namespace Formula
open Grammar Token

/-- The text stays on one line. -/
def OneLine (text : String) : Prop := '\n' ∉ text.toList

section Lines

@[simp] lemma oneLine_append (a b : String) : OneLine (a ++ b) ↔ OneLine a ∧ OneLine b := by
  simp [OneLine]

lemma toList_pushn (c : Char) (n : Nat) : ("".pushn c n).toList = List.replicate n c := by
  induction n with
  | zero => rfl
  | succ n ih =>
    have hpush : "".pushn c (n+1) = ("".pushn c n).push c := rfl
    rw [hpush,String.toList_push,ih,List.replicate_succ']

@[simp] lemma oneLine_outlineLine (level : Nat) (text : String) :
    OneLine (outlineLine level text) ↔ OneLine text := by
  simp [outlineLine,OneLine,toList_pushn,List.mem_replicate]

@[simp] lemma outlineLine_inj (level : Nat) (a b : String) :
    outlineLine level a = outlineLine level b ↔ a = b := by
  rw [outlineLine,outlineLine,String.append_right_inj]

/-- Lines that are joined by line feeds can be told from each other again. -/
lemma intercalate_injective {a b : List String} (ha : a ≠ []) (hb : b ≠ [])
    (hone : ∀ line ∈ a, OneLine line) (hone' : ∀ line ∈ b, OneLine line)
    (h : "\n".intercalate a = "\n".intercalate b) : a = b := by
  have hsplit {lines : List String} (hne : lines ≠ []) (hone : ∀ line ∈ lines, OneLine line) :
      ("\n".intercalate lines).toList.splitOn '\n' = lines.map String.toList := by
    rw [String.toList_intercalate]
    apply List.splitOn_intercalate
    · simpa [OneLine] using hone
    · simpa using hne
  have hlines := hsplit ha hone
  rw [h,hsplit hb hone'] at hlines
  exact (List.map_injective_iff.mpr fun s t => String.toList_injective) hlines.symm

end Lines

section Fields

/-- Word characters are graphic characters of ASCII. -/
lemma quotedChar_of_isWordChar {c : Char} (h : isWordChar c = true) : quotedChar c = [c] := by
  have hne {d : Char} (hd : isWordChar d = false) : c ≠ d := by
    rintro rfl
    rw [h] at hd
    cases hd
  obtain ⟨hlow,hhigh⟩ := toNat_of_isWordChar h
  have hseen : isObscure c = false := by
    simp only [isObscure,Bool.or_eq_false_iff,Bool.and_eq_false_iff,decide_eq_false_iff_not]
    exact ⟨by omega,Or.inl (by omega)⟩
  have hzero : c.toNat ≠ 0 := by omega
  simp only [quotedChar,hne (d := '"') (by decide),hne (d := '\\') (by decide),hne (d := '\n') (by decide),
    hne (d := '\r') (by decide),hne (d := '\t') (by decide),hzero,hseen,if_false,Bool.false_eq_true]

/-- A word in quotation marks is spelled as it is. -/
lemma toList_quoted (word : Word) : (quoted word.name).toList = '"' :: (word.chars ++ ['"']) := by
  have hspelled : word.chars.flatMap quotedChar = word.chars := by
    rw [List.flatMap_congr fun c hc => quotedChar_of_isWordChar (word.chars_word c hc),List.flatMap_singleton']
  rw [quoted,Word.name,String.toList_ofList,String.toList_ofList,hspelled]

lemma quoted_injective {word word' : Word} (h : quoted word.name = quoted word'.name) :
    word.name = word'.name := by
  have htext := congrArg String.toList h
  rw [toList_quoted,toList_quoted,List.cons.injEq] at htext
  rw [Word.name,Word.name,List.append_cancel_right htext.2]

lemma oneLine_quoted (word : Word) : OneLine (quoted word.name) := by
  intro h
  rw [toList_quoted] at h
  simp only [List.mem_cons,List.mem_append,List.not_mem_nil,or_false] at h
  rcases h with h | h | h
  · cases h
  · exact absurd (word.chars_word _ h) (by decide)
  · cases h

lemma oneLine_marked {value : Binary64} (hv : value.IsMagnitude) : OneLine value.marked := by
  intro h
  rw [Binary64.marked,hv.toList_signed] at h
  split at h
  · simp at h
  · split at h
    · exact absurd (Decimal.mem_exponential h) (by decide)
    · exact absurd (Decimal.mem_positional (Or.inr rfl) h) (by decide)

lemma oneLine_toString (n : Nat) : OneLine (toString n) := by
  intro h
  rw [Nat.toString_eq_repr] at h
  exact absurd (Decimal.isDigit_of_mem_repr h) (by decide)

lemma oneLine_name (o : Operator) : OneLine o.name := by
  cases o <;> simp [OneLine,Operator.name]

lemma Operator.name_injective {o p : Operator} (h : o.name = p.name) : o = p := by
  cases o <;> cases p <;> simp_all [name]

end Fields

namespace Position

lemma oneLine_outline (p : Position) (level : Nat) : ∀ line ∈ p.outline level, OneLine line := by
  simp only [outline,List.forall_mem_cons,oneLine_outlineLine,oneLine_append,oneLine_toString,and_true]
  simp [OneLine]

/-- A position at the head of some lines is determined by them. -/
lemma outline_append_inj {p q : Position} {level : Nat} {r s : List String} :
    p.outline level ++ r = q.outline level ++ s ↔ p = q ∧ r = s := by
  rcases p with ⟨line,column⟩
  rcases q with ⟨line',column'⟩
  simp [outline,Nat.repr_inj,and_assoc]

end Position

namespace Expr

variable {t u : Expr} {level : Nat} {mark : String} {r s : List String}

lemma oneLine_outlineLines (ht : t.shape.Lexical) (hmark : OneLine mark) :
    ∀ line ∈ t.outlineLines level mark, OneLine line := by
  have hcomma : OneLine "," := by simp [OneLine]
  have hclose : OneLine ")" := by simp [OneLine]
  induction t generalizing level mark with
  | number value p =>
    simp only [outlineLines,List.forall_mem_cons,List.forall_mem_append,oneLine_outlineLine,oneLine_append]
    exact ⟨by simp [OneLine],⟨oneLine_marked ht,hcomma⟩,p.oneLine_outline _,⟨hclose,hmark⟩,
      List.forall_mem_nil _⟩
  | identifier name p =>
    obtain ⟨word,rfl⟩ := ht
    simp only [outlineLines,List.forall_mem_cons,List.forall_mem_append,oneLine_outlineLine,oneLine_append]
    exact ⟨by simp [OneLine],⟨oneLine_quoted word,hcomma⟩,p.oneLine_outline _,⟨hclose,hmark⟩,
      List.forall_mem_nil _⟩
  | negate operand p ih =>
    simp only [outlineLines,List.forall_mem_cons,List.forall_mem_append,oneLine_outlineLine,oneLine_append]
    exact ⟨by simp [OneLine],⟨ih ht hcomma,p.oneLine_outline _⟩,⟨hclose,hmark⟩,
      List.forall_mem_nil _⟩
  | binary o left right p ihl ihr =>
    simp only [outlineLines,List.forall_mem_cons,List.forall_mem_append,oneLine_outlineLine,oneLine_append]
    exact ⟨by simp [OneLine],⟨oneLine_name o,hcomma⟩,
      ⟨⟨ihl ht.1 hcomma,ihr ht.2 hcomma⟩,p.oneLine_outline _⟩,⟨hclose,hmark⟩,List.forall_mem_nil _⟩

lemma outlineLines_ne_nil (t : Expr) (level : Nat) (mark : String) : t.outlineLines level mark ≠ [] := by
  cases t <;> simp [outlineLines]

/-- Two outlines at the head of the same lines are outlines of one tree, and end at the same line. -/
theorem outlineLines_unique (ht : t.shape.Lexical) (hu : u.shape.Lexical)
    (h : t.outlineLines level mark ++ r = u.outlineLines level mark ++ s) : t = u ∧ r = s := by
  -- The first line tells the kind of the node, and with it how many fields follow one level deeper.
  induction t generalizing u level mark r s with
  | number value p =>
    cases u with
    | number value' q =>
      simp only [outlineLines,List.cons_append,List.append_assoc,List.nil_append,List.cons.injEq,
        outlineLine_inj,String.append_left_inj,Position.outline_append_inj,true_and] at h
      obtain ⟨hvalue,rfl,hrest⟩ := h
      exact ⟨by rw [Binary64.marked_injective ht hu hvalue],hrest⟩
    | identifier | negate | binary => simp [outlineLines] at h
  | identifier name p =>
    cases u with
    | identifier name' q =>
      obtain ⟨word,rfl⟩ := ht
      obtain ⟨word',rfl⟩ := hu
      simp only [outlineLines,List.cons_append,List.append_assoc,List.nil_append,List.cons.injEq,
        outlineLine_inj,String.append_left_inj,Position.outline_append_inj,true_and] at h
      obtain ⟨hword,rfl,hrest⟩ := h
      exact ⟨by rw [quoted_injective hword],hrest⟩
    | number | negate | binary => simp [outlineLines] at h
  | negate operand p ih =>
    cases u with
    | negate operand' q =>
      simp only [outlineLines,List.append_assoc,List.cons_append,List.nil_append,List.cons.injEq,true_and] at h
      obtain ⟨rfl,hplace⟩ := ih (u := operand') ht hu h
      obtain ⟨rfl,hlast⟩ := Position.outline_append_inj.mp hplace
      exact ⟨rfl,(List.cons.inj hlast).2⟩
    | number | identifier | binary => simp [outlineLines] at h
  | binary o left right p ihl ihr =>
    cases u with
    | binary o' left' right' q =>
      simp only [outlineLines,List.append_assoc,List.cons_append,List.nil_append,List.cons.injEq,
        outlineLine_inj,String.append_left_inj,true_and] at h
      obtain ⟨hname,hlines⟩ := h
      obtain ⟨rfl,hright⟩ := ihl ht.1 hu.1 hlines
      obtain ⟨rfl,hplace⟩ := ihr ht.2 hu.2 hright
      obtain ⟨rfl,hlast⟩ := Position.outline_append_inj.mp hplace
      exact ⟨by rw [Operator.name_injective hname],(List.cons.inj hlast).2⟩
    | number | identifier | negate => simp [outlineLines] at h

theorem outline_injective (ht : t.shape.Lexical) (hu : u.shape.Lexical) (h : t.outline = u.outline) :
    t = u := by
  have hone {e : Expr} (he : e.shape.Lexical) : ∀ line ∈ e.outlineLines 0 "", OneLine line :=
    oneLine_outlineLines he (by simp [OneLine])
  have hlines := intercalate_injective (outlineLines_ne_nil t 0 "") (outlineLines_ne_nil u 0 "") (hone ht)
    (hone hu) h
  exact (outlineLines_unique (r := []) (s := []) ht hu (by rw [hlines])).1

lemma equals_iff (ht : t.shape.Lexical) (hu : u.shape.Lexical) : t.equals u = true ↔ t = u := by
  induction t generalizing u with
  | number x p =>
    cases u with
    | number y q => simp [equals,Binary64.IsMagnitude.equals_iff ht hu]
    | identifier | negate | binary => simp [equals]
  | identifier name p => cases u <;> simp [equals]
  | negate operand p ih =>
    cases u with
    | negate operand' q => simp [equals,ih (u := operand') ht hu]
    | number | identifier | binary => simp [equals]
  | binary o left right p ihl ihr =>
    cases u with
    | binary o' left' right' q => simp [equals,ihl ht.1 hu.1,ihr ht.2 hu.2,and_assoc]
    | number | identifier | negate => simp [equals]

end Expr

/-- Outlines tell the trees of texts apart, by every position and number in them. -/
theorem present_eq_iff_equals {limit limit' : Limit} {source source' : String} {tree tree' : Expr}
    (h : parse limit source = .ok tree) (h' : parse limit' source' = .ok tree') (settings settings' : Settings)
    (hdebug : settings.isEnabled .debug = true) (hdebug' : settings'.isEnabled .debug = true) :
    (tree.present settings = tree'.present settings' ↔ tree = tree') ∧
      (tree.equals tree' = true ↔ tree = tree') := by
  have hlex := lexical_of_parse h
  have hlex' := lexical_of_parse h'
  refine ⟨?_,Expr.equals_iff hlex hlex'⟩
  rw [Expr.present,Expr.present,if_pos hdebug,if_pos hdebug']
  constructor
  · exact Expr.outline_injective hlex hlex'
  · rintro rfl
    rfl

/-- Parentheses leave no node, but the identifier inside stands one column further. -/
theorem present_eq_iff_equals_parentheses :
    parse .standard "x" = .ok (.identifier "x" ⟨1,1⟩) ∧
      parse (.ofRequest 1) "(x)" = .ok (.identifier "x" ⟨1,2⟩) ∧
      (Expr.identifier "x" ⟨1,1⟩).present (Settings.empty.enable .debug) ≠
        (Expr.identifier "x" ⟨1,2⟩).present (Settings.standard.enable .debug) ∧
      (Expr.identifier "x" ⟨1,1⟩).equals (.identifier "x" ⟨1,2⟩) = false := by
  have hplain : parse .standard "x" = .ok (.identifier "x" ⟨1,1⟩) := by decide +kernel
  have hinside : parse (.ofRequest 1) "(x)" = .ok (.identifier "x" ⟨1,2⟩) := by decide +kernel
  obtain ⟨hpresent,hequals⟩ := present_eq_iff_equals hplain hinside (Settings.empty.enable .debug)
    (Settings.standard.enable .debug) rfl rfl
  refine ⟨hplain,hinside,?_,?_⟩
  · rw [Ne,hpresent]
    decide
  · rw [← Bool.not_eq_true,hequals]
    decide

end Formula
