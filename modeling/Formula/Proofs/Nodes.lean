import Formula.Proofs.Marks

/-! The nodes of a tree and the text they come from. Operations aside, a tree has one node for each mark of
its text, in the same order; an operation is where its left operand is. The text is gone through character by
character. -/
namespace Formula
open Grammar Token

namespace Position

/-- The position behind a text, counted out: its lines, and the characters behind its last line feed. -/
def behind (text : List Char) : Position :=
  ⟨1 + text.count '\n',1 + (text.rtakeWhile (· ≠ '\n')).length⟩

theorem first_past (text : List Char) : first.past text = behind text := by
  induction text using List.reverseRecOn with
  | nil => rfl
  | append_singleton text c ih =>
    rw [past_append,ih]
    by_cases hc : c = '\n' <;> simp [behind,after,hc,Nat.add_assoc]

end Position

namespace Expr

def isBinary : Expr → Bool
  | binary .. => true
  | _ => false

/-- The nodes that are no operations, in preorder. -/
def tokenNodes (e : Expr) : List Expr := e.nodes.filter (!·.isBinary)

/-- A node, its left operand, the left operand of that, and so on. -/
def spine : Expr → List Expr
  | e@(binary _ left _ _) => e :: left.spine
  | e => [e]

@[simp] theorem tokenNodes_number (value : Binary64) (p : Position) :
    (number value p).tokenNodes = [number value p] := rfl

@[simp] theorem tokenNodes_identifier (name : String) (p : Position) :
    (identifier name p).tokenNodes = [identifier name p] := rfl

@[simp] theorem tokenNodes_negate (operand : Expr) (p : Position) :
    (negate operand p).tokenNodes = negate operand p :: operand.tokenNodes := rfl

@[simp] theorem tokenNodes_binary (o : Operator) (left right : Expr) (p : Position) :
    (binary o left right p).tokenNodes = left.tokenNodes ++ right.tokenNodes := by
  simp [tokenNodes,nodes,isBinary]

/-- Every operation in the tree keeps the position of its left operand. -/
def Anchored : Expr → Prop
  | number _ _ => True
  | identifier _ _ => True
  | negate operand _ => operand.Anchored
  | binary _ left right p => left.Anchored ∧ right.Anchored ∧ p = left.position

lemma anchored_operation {left right : Expr} (hl : left.Anchored) (hr : right.Anchored) (o : Operator) :
    (operation o left right).Anchored := ⟨hl,hr,rfl⟩

/-- What holds of a tree and is passed on to operands holds of all nodes of the tree. -/
lemma forall_mem_nodes {P : Expr → Prop} (hnegate : ∀ {operand p}, P (negate operand p) → P operand)
    (hbinary : ∀ {o left right p}, P (binary o left right p) → P left ∧ P right) {e node : Expr} (h : P e)
    (hn : node ∈ e.nodes) : P node := by
  induction e with
  | number | identifier => rwa [List.mem_singleton.mp hn]
  | negate operand p ih =>
    rcases List.mem_cons.mp hn with rfl | hn
    · exact h
    · exact ih (hnegate h) hn
  | binary o left right p ihl ihr =>
    rcases List.mem_cons.mp hn with rfl | hn
    · exact h
    · rcases List.mem_append.mp hn with hn | hn
      · exact ihl (hbinary h).1 hn
      · exact ihr (hbinary h).2 hn

lemma Anchored.of_mem {e node : Expr} (h : e.Anchored) (hn : node ∈ e.nodes) : node.Anchored :=
  forall_mem_nodes id (fun h => ⟨h.1,h.2.1⟩) h hn

/-- In such a tree, the first node of a left spine that is no operation says where the spine starts. -/
lemma Anchored.exists_first {e : Expr} (h : e.Anchored) : ∃ first ∈ e.tokenNodes,
    e.spine.find? (!·.isBinary) = some first ∧ e.position = first.position := by
  induction e with
  | number value p => exact ⟨_,by simp,rfl,rfl⟩
  | identifier name p => exact ⟨_,by simp,rfl,rfl⟩
  | negate operand p ih => exact ⟨_,by simp,rfl,rfl⟩
  | binary o left right p ihl ihr =>
    obtain ⟨hl,-,rfl⟩ := h
    obtain ⟨first,hm,hf,hp⟩ := ihl hl
    exact ⟨first,by simp [hm],by simpa [spine,isBinary] using hf,hp⟩

lemma nodes_subset {node e : Expr} (h : node ∈ e.nodes) : node.nodes ⊆ e.nodes := by
  refine forall_mem_nodes (P := fun node => node.nodes ⊆ e.nodes) ?_ ?_ (List.Subset.refl _) h
  · intro operand p hsub
    exact fun x hx => hsub (List.mem_cons_of_mem _ hx)
  · intro o left right p hsub
    exact ⟨fun x hx => hsub (List.mem_cons_of_mem _ (List.mem_append_left _ hx)),
      fun x hx => hsub (List.mem_cons_of_mem _ (List.mem_append_right _ hx))⟩

lemma tokenNodes_subset {node e : Expr} (h : node ∈ e.nodes) : node.tokenNodes ⊆ e.tokenNodes :=
  List.filter_subset _ (nodes_subset h)

end Expr

/-- The node says what the mark says. -/
def Expr.Bears : Expr → Mark → Prop
  | number value _, .number numeral => value = numeral.value
  | identifier name _, .identifier word => name = word.name
  | negate _ _, .minus => True
  | _, _ => False

/-- The nodes of the marks in a text that stands behind another one and in front of a third, in order. -/
inductive Scanned (rest : List Char) : (before text : List Char) → List Expr → Prop where
  | nil {before : List Char} : Scanned rest before [] []
  | skip {before text : List Char} {c : Char} {nodes : List Expr}
      (free : ∀ mark : Mark, ¬mark.Heads before (c :: (text ++ rest)))
      (h : Scanned rest (before ++ [c]) text nodes) : Scanned rest before (c :: text) nodes
  | node {before text : List Char} {c : Char} {nodes : List Expr} (mark : Mark) (node : Expr)
      (heads : mark.Heads before (c :: (text ++ rest))) (bears : node.Bears mark)
      (position : node.position = Position.first.past before)
      (h : Scanned rest (before ++ [c]) text nodes) : Scanned rest before (c :: text) (node :: nodes)

namespace Scanned

variable {rest before a b text : List Char} {ns ms : List Expr}

lemma append (ha : Scanned (b ++ rest) before a ns) (hb : Scanned rest (before ++ a) b ms) :
    Scanned rest before (a ++ b) (ns ++ ms) := by
  induction ha with
  | nil => simpa using hb
  | skip free h ih => exact .skip (by simpa using free) (ih (by simpa using hb))
  | node mark node heads bears position h ih =>
    exact .node mark node (by simpa using heads) bears position (ih (by simpa using hb))

lemma blanks (h : ∀ c ∈ text, isBlank c = true) : Scanned rest before text [] := by
  induction text generalizing before with
  | nil => exact .nil
  | cons c text ih =>
    have hc := ofChar_blank (h c (by simp))
    exact .skip (not_heads (Or.inl hc)) (ih fun d hd => h d (by simp [hd]))

/-- What follows the first character of a token has no marks in it. -/
lemma inside {good : Char → Prop} {p : Char} (hp : good p) (ht : ∀ c ∈ text, good c)
    (free : ∀ {p c : Char}, good p → good c → ∀ (before text : List Char) (mark : Mark),
      ¬mark.Heads (before ++ [p]) (c :: text)) : Scanned rest (before ++ [p]) text [] := by
  induction text generalizing before p with
  | nil => exact .nil
  | cons c text ih =>
    have hc := ht c (by simp)
    exact .skip (free hp hc _ _) (ih hc fun d hd => ht d (by simp [hd]))

lemma number (hw : Detached before) (numeral : Numeral) (he : numeral.Ends rest) :
    Scanned rest before numeral.chars [.number numeral.value (Position.first.past before)] := by
  obtain ⟨c,tail,hc,hd⟩ := numeral.exists_digit
  have ht := numeral.chars_digits
  have hm : (Mark.number numeral).Heads before (numeral.chars ++ rest) := ⟨rest,rfl,hw,he⟩
  rw [hc] at ht hm ⊢
  refine .node (.number numeral) _ hm rfl rfl (inside (ht c (by simp)) (fun d hd => ht d (by simp [hd])) ?_)
  rintro p d hp (hd | rfl) before text
  · exact not_heads_digit (hp.imp_left isWordChar_of_isDigit) hd
  · exact not_heads (by decide)

lemma identifier (hw : Detached before) (word : Word) (he : word.Ends rest) :
    Scanned rest before word.chars [.identifier word.name (Position.first.past before)] := by
  have ht := word.chars_word
  refine .node (.identifier word) _ ⟨rest,rfl,hw.startsWithout,he⟩ rfl rfl
    (inside (ht _ (by simp [Word.chars])) (fun d hd => ht d (by simp [Word.chars,hd])) ?_)
  intro p d hp hd before text
  rcases isWordChar_cases hd with hd | hd
  · exact not_heads_digit (Or.inl hp) hd
  · exact not_heads_letter hp hd

end Scanned

namespace Grammar

/-- Behind a text where an operand is due, the marks in a derivation are the nodes of its tree. -/
theorem Derivation.scanned {s : Symbol} (d : Derivation s) {w rest : List Char} (hw : Due w) (he : d.Ends rest) :
    Scanned rest w d.text (d.tree (Position.first.past w)).tokenNodes := by
  induction d generalizing w rest with
  | number gap numeral =>
    have h := Scanned.number (due_gap hw gap).detached numeral he
    simpa [tree,text] using (Scanned.blanks gap.blank).append h
  | identifier gap word =>
    have h := Scanned.identifier (due_gap hw gap).detached word he
    simpa [tree,text] using (Scanned.blanks gap.blank).append h
  | negation gap operand ih =>
    have ho := ih (due_char (c := '-') (by decide) (by decide) w gap) he
    have hm : (Mark.minus).Heads (w ++ gap.chars) ('-' :: (operand.text ++ rest)) := ⟨_,rfl,due_gap hw gap⟩
    have h := Scanned.node .minus ((negation gap operand).tree (Position.first.past w)) hm trivial
      (by simp [tree,Expr.position]) (by simpa using ho)
    simpa [tree,text] using (Scanned.blanks gap.blank).append h
  | parentheses gap inner close ih =>
    have hb : Breaks (close.chars ++ [')'] ++ rest) := by
      rw [List.append_assoc]
      exact breaks_append close (breaks_cons.mpr (by decide))
    have hi := ih (due_char (c := '(') (by decide) (by decide) w gap) (inner.ends_of_breaks hb)
    have hc : Scanned rest (w ++ (gap.chars ++ '(' :: inner.text)) (close.chars ++ [')']) [] :=
      (Scanned.blanks close.blank).append (.skip (not_heads (by decide)) .nil)
    have ho : Scanned rest (w ++ gap.chars) ('(' :: (inner.text ++ (close.chars ++ [')']))) _ :=
      .skip (not_heads (by decide)) (.append (by simpa using hi) (by simpa using hc))
    simpa [tree,text] using (Scanned.blanks gap.blank).append ho
  | single operand ih => exact ih hw he
  | more left gap operator member right ihl ihr =>
    -- Behind the left operand none is due, so a minus sign that joins operands is no mark.
    have hb : Breaks (gap.chars ++ operator.symbol :: right.text ++ rest) := by
      rw [List.append_assoc]
      exact breaks_append gap (breaks_operator operator _)
    have hl := ihl hw (left.ends_of_breaks hb)
    have hr := ihr (due_operator (w ++ left.text) gap operator) he
    have ho : Scanned rest (w ++ left.text ++ gap.chars) (operator.symbol :: right.text) _ :=
      .skip (not_heads_operator (by simpa using not_due left w gap) operator) (by simpa using hr)
    simpa [tree,text,Expr.operation] using hl.append ((Scanned.blanks gap.blank).append ho)

/-- The operations in the tree of a derivation are where their left operands are. -/
lemma Derivation.anchored_tree {s : Symbol} (d : Derivation s) (p : Position) : (d.tree p).Anchored := by
  induction d generalizing p with
  | number | identifier => trivial
  | negation gap operand ih => exact ih _
  | parentheses gap inner close ih => exact ih _
  | single operand ih => exact ih p
  | more left gap operator member right ihl ihr => exact Expr.anchored_operation (ihl _) (ihr _) operator

end Grammar

lemma anchored_of_parse {limit : Limit} {source : String} {tree : Expr} (h : parse limit source = .ok tree) :
    tree.Anchored := by
  obtain ⟨sentence,-,-,rfl⟩ := sentence_of_parseText h
  exact sentence.body.anchored_tree .first

/-- The marks in a text that is read are the nodes of its tree. -/
theorem scanned_of_parse {limit : Limit} {source : String} {tree : Expr} (h : parse limit source = .ok tree) :
    Scanned [] [] source.toList tree.tokenNodes := by
  obtain ⟨sentence,ht,-,rfl⟩ := sentence_of_parseText h
  have hb := sentence.body.scanned due_nil
    (sentence.body.ends_of_breaks (breaks_append sentence.gap breaks_nil))
  rw [ht,Sentence.text]
  simpa using hb.append (.blanks sentence.gap.blank)

namespace Scanned

variable {rest before text : List Char} {nodes : List Expr}

/-- Each node comes from a mark in the text, and has its position. -/
lemma sound (h : Scanned rest before text nodes) {node : Expr} (hn : node ∈ nodes) :
    ∃ (mark : Mark) (u : List Char) (c : Char) (v : List Char), text = u ++ c :: v ∧
      mark.Heads (before ++ u) (c :: (v ++ rest)) ∧ node.Bears mark ∧
      node.position = Position.first.past (before ++ u) := by
  induction h with
  | nil => simp at hn
  | @skip before text c nodes free h ih =>
    obtain ⟨mark,u,d,v,rfl,hm,hb,hp⟩ := ih hn
    exact ⟨mark,c :: u,d,v,rfl,by simpa using hm,hb,by simpa using hp⟩
  | @node before text c nodes mark first heads bears position h ih =>
    rcases List.mem_cons.mp hn with rfl | hn
    · exact ⟨mark,[],c,text,rfl,by simpa using heads,bears,by simpa using position⟩
    · obtain ⟨mark,u,d,v,rfl,hm,hb,hp⟩ := ih hn
      exact ⟨mark,c :: u,d,v,rfl,by simpa using hm,hb,by simpa using hp⟩

/-- Each mark in the text has its node. -/
lemma complete (h : Scanned rest before text nodes) {mark : Mark} {u v : List Char} {c : Char}
    (ht : text = u ++ c :: v) (hm : mark.Heads (before ++ u) (c :: (v ++ rest))) :
    ∃ node ∈ nodes, node.Bears mark ∧ node.position = Position.first.past (before ++ u) := by
  induction h generalizing u with
  | nil => simp at ht
  | skip free h ih =>
    cases u with
    | nil =>
      cases ht
      exact absurd (by simpa using hm) (free mark)
    | cons d u =>
      cases ht
      simpa using ih rfl (by simpa using hm)
  | node other first heads bears position h ih =>
    cases u with
    | nil =>
      cases ht
      rw [List.append_nil] at hm ⊢
      rw [hm.unique heads]
      exact ⟨first,by simp,bears,position⟩
    | cons d u =>
      cases ht
      obtain ⟨node,hn,hb,hp⟩ := ih rfl (by simpa using hm)
      exact ⟨node,List.mem_cons_of_mem _ hn,hb,by simpa using hp⟩

/-- The nodes come in the order of their positions. -/
lemma ordered (h : Scanned rest before text nodes) :
    (nodes.map Expr.position).Pairwise Position.Before := by
  induction h with
  | nil => simp
  | skip free h ih => exact ih
  | @node before text c nodes mark first heads bears position h ih =>
    refine List.pairwise_cons.mpr ⟨?_,ih⟩
    intro p hp
    obtain ⟨node,hn,rfl⟩ := List.mem_map.mp hp
    obtain ⟨mark,u,d,v,-,-,-,hp⟩ := h.sound hn
    rw [position,hp,List.append_assoc,Position.past_append _ before]
    exact Position.before_past _ (by simp)

end Scanned

/-- A position is taken only once. -/
lemma filter_position {nodes : List Expr} (h : (nodes.map Expr.position).Pairwise Position.Before) {node : Expr}
    (hn : node ∈ nodes) : nodes.filter (·.position = node.position) = [node] := by
  have hne {p q : Position} (h : p.Before q) : p ≠ q := by
    rintro rfl
    unfold Position.Before at h
    omega
  induction nodes with
  | nil => simp at hn
  | cons first nodes ih =>
    obtain ⟨hf,hr⟩ := List.pairwise_cons.mp h
    rcases List.mem_cons.mp hn with rfl | hn
    · rw [List.filter_cons_of_pos (by simp),List.filter_eq_nil_iff.mpr]
      intro other ho
      simpa using (hne (hf _ (List.mem_map_of_mem ho))).symm
    · rw [List.filter_cons_of_neg (by simpa using hne (hf _ (List.mem_map_of_mem hn)))]
      exact ih hr hn

/-- The nodes of a tree that are no operations go through the marks of a text. -/
structure Expr.Transcribes (tree : Expr) (text : List Char) : Prop where
  /-- In preorder, the nodes are in the order of the text. -/
  ordered : (tree.tokenNodes.map Expr.position).Pairwise Position.Before
  /-- Each of them stands for a mark, and has the position of its first character. -/
  reads : ∀ node ∈ tree.tokenNodes, ∃ (mark : Mark) (before rest : List Char),
    text = before ++ (mark.chars ++ rest) ∧ mark.Stands before rest ∧ node.Bears mark ∧
      node.position = .behind before
  /-- Each mark is hit by exactly one node. -/
  hit : ∀ (mark : Mark) (before rest : List Char), text = before ++ (mark.chars ++ rest) →
    mark.Stands before rest →
      ∃ node, node.Bears mark ∧ tree.tokenNodes.filter (·.position = .behind before) = [node]
  /-- Each node starts with the first one on its left spine that is no operation. -/
  starts : ∀ node ∈ tree.nodes, ∃ first ∈ tree.tokenNodes,
    node.spine.find? (!·.isBinary) = some first ∧ node.position = first.position

/-- Reading a text loses none of its numbers, words and signs in front of operands, counts none twice, and
keeps their order. -/
theorem parse_transcribes (limit : Limit) (source : String) (tree : Expr) (h : parse limit source = .ok tree) :
    tree.Transcribes source.toList := by
  have hs := scanned_of_parse h
  refine ⟨hs.ordered,?_,?_,?_⟩
  · intro node hn
    obtain ⟨mark,u,c,v,ht,⟨rest,hr,hm⟩,hb,hp⟩ := hs.sound hn
    simp only [List.nil_append,List.append_nil] at hr hm hp
    exact ⟨mark,u,rest,by rw [ht,hr],hm,hb,by rw [hp,Position.first_past]⟩
  · intro mark before rest ht hm
    obtain ⟨c,tail,hc⟩ := mark.exists_cons
    have heads : mark.Heads ([] ++ before) (c :: (tail ++ rest ++ [])) := ⟨rest,by simp [hc],hm⟩
    obtain ⟨node,hn,hb,hp⟩ := hs.complete (by simp [ht,hc]) heads
    refine ⟨node,hb,?_⟩
    rw [← Position.first_past,← List.nil_append before,← hp]
    exact filter_position hs.ordered hn
  · intro node hn
    obtain ⟨first,hf,hfind,hp⟩ := ((anchored_of_parse h).of_mem hn).exists_first
    exact ⟨first,Expr.tokenNodes_subset hn hf,hfind,hp⟩

/-- `-(a1 - 2.50) * x` with a line feed behind `a1`. -/
def Expr.twoLines : Expr :=
  .binary .mul
    (.negate (.binary .sub (.identifier "a1" ⟨1,3⟩) (.number (.ofDigits ['2'] ['5','0']) ⟨2,4⟩) ⟨1,3⟩) ⟨1,1⟩)
    (.identifier "x" ⟨2,12⟩) ⟨1,1⟩

/-- The first minus sign, two words and a number have nodes of their own. The second minus sign and the star
have none, but their operations keep the positions of `a1` and of the first minus sign. -/
theorem parse_transcribes_twoLines :
    parse .standard "-(a1\n - 2.50) * x" = .ok .twoLines ∧
      Expr.twoLines.Transcribes "-(a1\n - 2.50) * x".toList ∧
      Expr.twoLines.tokenNodes.map Expr.position = [⟨1,1⟩,⟨1,3⟩,⟨2,4⟩,⟨2,12⟩] ∧
      (Expr.twoLines.nodes.filter Expr.isBinary).map Expr.position = [⟨1,1⟩,⟨1,3⟩] := by
  have h : parse .standard "-(a1\n - 2.50) * x" = .ok .twoLines := by decide +kernel
  exact ⟨h,parse_transcribes .standard _ _ h,rfl,rfl⟩

end Formula
