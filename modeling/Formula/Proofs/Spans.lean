import Formula.Proofs.Drawing

/-! The bytes of a position, step by step. Lines are looked up by the bytes they start at, and texts are cut
by bytes; no step goes below zero, leaves the text or cuts a character in two, and the range that comes out
is that of the character in the column, or of the end of the line. -/
namespace Formula

/-- What a step over the bytes of a text can break off with. -/
inductive ByteFault where
  | underflow
  | outOfRange
  | insideCharacter
  deriving DecidableEq, Repr

namespace ByteFault

/-- A difference, which must not be below zero. -/
def minus (a b : Nat) : Except ByteFault Nat := if b ≤ a then .ok (a-b) else .error underflow

end ByteFault

/-- The characters of the next bytes of a text, if a character ends behind them. -/
def takeBytes? : Nat → List Char → Option (List Char)
  | 0, _ => some []
  | _ + 1, [] => none
  | bytes + 1, c :: rest =>
    if c.utf8Size ≤ bytes + 1 then (takeBytes? (bytes + 1 - c.utf8Size) rest).map (c :: ·) else none

/-- The text from one byte to another. Both must lie in the text, in order, and between characters. -/
def slice (text : List Char) (start stop : Nat) : Except ByteFault (List Char) :=
  if stop < start || byteLength text < stop then .error .outOfRange
  else match (dropBytes? start text).bind (takeBytes? (stop - start)) with
    | some part => .ok part
    | none => .error .insideCharacter

/-- The bytes behind the line feeds of a text that starts at a byte. -/
def feedEnds (start : Nat) : List Char → List Nat
  | [] => []
  | c :: rest =>
    if c = '\n' then (start + c.utf8Size) :: feedEnds (start + c.utf8Size) rest
    else feedEnds (start + c.utf8Size) rest

/-- The byte at which a line starts, by its index. One more line seems to start at the end of the text. -/
def lineStart? (text : List Char) (index : Nat) : Option Nat :=
  (0 :: (feedEnds 0 text ++ [byteLength text]))[index]?

/-- The bytes of a line, up to the start of the next. -/
def lineRange? (text : List Char) (index : Nat) : Option (Nat × Nat) :=
  (lineStart? text index).bind fun start => (lineStart? text (index + 1)).map fun stop => (start,stop)

namespace Source

/-- The range of a position, with every step checked. -/
def checkedSpan (source : Source) (position : Position) : Except ByteFault (Option (Nat × Nat)) := do
  if position.line = 0 then
    return none
  let index ← ByteFault.minus position.line 1
  match lineRange? source.chars index with
  | none => return none
  | some (first,last) =>
    let text ← slice source.chars first last
    let contentEnd := first + byteLength (text.rdropWhile Line.isBreak)
    let skip ← ByteFault.minus (max position.column 1) 1
    let column := if skip < text.length then first + byteLength (text.take skip) else contentEnd
    let start := min column contentEnd
    let rest ← slice source.chars start (byteLength source.chars)
    match rest with
    | [] => return some (start,start)
    | c :: _ => return some (start,if Line.isBreak c then start else start + c.utf8Size)

end Source

section Cutting

lemma takeBytes?_append (a b : List Char) : takeBytes? (byteLength a) (a ++ b) = some a := by
  induction a with
  | nil => cases b <;> rfl
  | cons c a ih =>
    obtain ⟨n,hn,hle,ha⟩ := byteLength_cons_succ c a
    rw [hn,List.cons_append,takeBytes?,if_pos hle,ha,ih]
    rfl

/-- Between two characters, a text can be cut. -/
lemma slice_append (a b c : List Char) :
    slice (a ++ (b ++ c)) (byteLength a) (byteLength a + byteLength b) = .ok b := by
  have hrange : (byteLength a + byteLength b < byteLength a ||
      byteLength (a ++ (b ++ c)) < byteLength a + byteLength b) = false := by
    simp only [byteLength_append,Bool.or_eq_false_iff,decide_eq_false_iff_not]
    omega
  have hpart : takeBytes? (byteLength a + byteLength b - byteLength a) (b ++ c) = some b := by
    rw [Nat.add_sub_cancel_left,takeBytes?_append]
  simp only [slice,hrange,dropBytes?_append,Option.bind_some,hpart,Bool.false_eq_true,if_false]

lemma slice_rest (a b : List Char) : slice (a ++ b) (byteLength a) (byteLength (a ++ b)) = .ok b := by
  have h := slice_append a b []
  rw [List.append_nil] at h
  rw [byteLength_append]
  exact h

end Cutting

section Starts

/-- Lines start at the first byte and behind every line feed. -/
lemma starts_placeLines (start : Nat) (text : List Char) :
    (placeLines start (splitLines text)).map Line.start = start :: feedEnds start text := by
  induction text generalizing start with
  | nil => rfl
  | cons c text ih =>
    by_cases hc : c = '\n'
    · subst hc
      have hsplit : splitLines ('\n' :: text) = ['\n'] :: splitLines text := by simp [splitLines,splitAfter]
      rw [hsplit,placeLines,List.map_cons,byteLength_cons,byteLength_nil,Nat.add_zero,ih]
      simp [feedEnds]
    · obtain ⟨piece,more,hpiece⟩ := exists_first_line text
      have hsplit := splitLines_row ⟨[c],by simpa using Ne.symm hc⟩ hpiece
      have hmore := ih (start + c.utf8Size)
      rw [hpiece,placeLines,List.map_cons,List.cons.injEq] at hmore
      simp only [List.cons_append,List.nil_append] at hsplit
      rw [hsplit,placeLines,List.map_cons,byteLength_cons,← Nat.add_assoc,hmore.2,feedEnds,if_neg hc]

/-- Where the pieces of a text start, and where the last one ends. -/
def bounds (start : Nat) (pieces : List (List Char)) : List Nat :=
  (placeLines start pieces).map Line.start ++ [start + byteLength pieces.flatten]

lemma bounds_cons (start : Nat) (piece : List Char) (pieces : List (List Char)) :
    bounds start (piece :: pieces) = start :: bounds (start + byteLength piece) pieces := by
  simp [bounds,placeLines,Nat.add_assoc]

lemma head_bounds (start : Nat) (pieces : List (List Char)) : (bounds start pieces)[0]? = some start := by
  cases pieces with
  | nil => simp [bounds,placeLines]
  | cons piece pieces => rw [bounds_cons,List.getElem?_cons_zero]

/-- A piece goes from one bound to the next. -/
lemma bounds_of_piece (start : Nat) (pieces : List (List Char)) (index : Nat) :
    ((bounds start pieces)[index]?.bind fun first => (bounds start pieces)[index+1]?.map fun last => (first,last)) =
      (placeLines start pieces)[index]?.map fun line => (line.start,line.start + byteLength line.text) := by
  induction pieces generalizing start index with
  | nil => cases index <;> simp [bounds,placeLines]
  | cons piece pieces ih =>
    rw [bounds_cons,placeLines]
    cases index with
    | zero => simp [head_bounds]
    | succ index =>
      simp only [List.getElem?_cons_succ]
      exact ih _ index

/-- Each line goes from where it starts to where the next one starts. -/
theorem lineRange?_eq (text : List Char) (index : Nat) :
    lineRange? text index = (lines text)[index]?.map fun line => (line.start,line.start + byteLength line.text) := by
  have hbounds : 0 :: (feedEnds 0 text ++ [byteLength text]) = bounds 0 (splitLines text) := by
    have hflatten : (splitLines text).flatten = text := flatten_splitAfter _ text
    rw [bounds,starts_placeLines,hflatten,Nat.zero_add,List.cons_append]
  rw [lines,← bounds_of_piece 0 (splitLines text) index,← hbounds]
  rfl

end Starts

namespace Line

/-- The first byte of a column: what stands in front of it inside the content decides. -/
lemma column_start (line : Line) (skip : Nat) :
    (if skip < line.text.length then min (line.start + byteLength (line.text.take skip)) line.contentEnd
      else line.contentEnd) = line.start + byteLength (line.content.take skip) := by
  obtain ⟨ending,hending,-⟩ := line.exists_ending
  unfold contentEnd
  by_cases hskip : skip ≤ line.content.length
  · have htake : line.text.take skip = line.content.take skip := by
      rw [hending,List.take_append_of_le_length hskip]
    have hle : byteLength (line.content.take skip) ≤ byteLength line.content :=
      byteLength_le_of_isPrefix (List.take_prefix skip line.content)
    split
    · rw [htake]
      omega
    · have hall : line.content.take skip = line.content := by
        apply List.take_of_length_le
        rw [hending,List.length_append] at *
        omega
      rw [hall]
  · have hall : line.content.take skip = line.content := List.take_of_length_le (by omega)
    have hle : byteLength line.content ≤ byteLength (line.text.take skip) := by
      apply byteLength_le_of_isPrefix
      exact List.prefix_of_prefix_length_le ⟨ending,hending.symm⟩ (List.take_prefix skip line.text)
        (by simp [hending]; omega)
    rw [hall]
    split <;> omega

end Line

namespace Source

variable {source : Source}

/-- Wherever a column starts, the text can be cut in two. -/
lemma exists_cut {i : Nat} {line : Line} (hline : (lines source.chars)[i]? = some line) (skip : Nat) :
    ∃ a b, source.chars = a ++ b ∧ line.start + byteLength (line.content.take skip) = byteLength a := by
  obtain ⟨front,back,hchars,hstart,-⟩ := exists_of_line hline
  obtain ⟨ending,hending,-⟩ := line.exists_ending
  refine ⟨front ++ line.content.take skip,line.content.drop skip ++ (ending ++ back),?_,?_⟩
  · rw [hchars,hending]
    simp only [List.append_assoc]
    rw [← List.append_assoc (line.content.take skip),List.take_append_drop]
  · rw [byteLength_append,hstart]

/-- No step of the way to a range fails. -/
theorem checkedSpan_eq (source : Source) (position : Position) :
    source.checkedSpan position = .ok (source.span position) := by
  obtain ⟨number,column⟩ := position
  cases number with
  | zero => rfl
  | succ i =>
    have hindex : ByteFault.minus (i+1) 1 = .ok i := by simp [ByteFault.minus]
    have hskip : ByteFault.minus (max column 1) 1 = .ok (max column 1 - 1) := by
      rw [ByteFault.minus,if_pos (by omega)]
    cases hline : (lines source.chars)[i]? with
    | none =>
      simp only [checkedSpan,span,hindex,lineRange?_eq,hline,bind,Except.bind,Nat.succ_ne_zero,if_false,
        Option.map_none,Nat.add_sub_cancel]
      rfl
    | some line =>
      obtain ⟨front,back,hchars,hstart,-⟩ := exists_of_line hline
      have htext : slice source.chars line.start (line.start + byteLength line.text) = .ok line.text := by
        rw [hchars,hstart]
        exact slice_append front line.text back
      obtain ⟨a,b,hcut,ha⟩ := exists_cut hline (max column 1 - 1)
      have hrest : slice source.chars (byteLength a) (byteLength source.chars) = .ok b := by
        rw [hcut]
        exact slice_rest a b
      have hdrop : dropBytes? (byteLength a) source.chars = some b := by
        rw [hcut]
        exact dropBytes?_append a b
      have hend : line.start + byteLength (line.text.rdropWhile Line.isBreak) = line.contentEnd := rfl
      have hcolumn := line.column_start (max column 1 - 1)
      rw [ha] at hcolumn
      have hmin : min (if max column 1 - 1 < line.text.length then
          line.start + byteLength (line.text.take (max column 1 - 1)) else line.contentEnd) line.contentEnd =
          byteLength a := by
        rw [← hcolumn]
        split <;> simp
      simp only [checkedSpan,span,hindex,hskip,lineRange?_eq,hline,htext,hend,hmin,hrest,hcolumn,hdrop,bind,
        Except.bind,Nat.succ_ne_zero,if_false,Option.map_some,Nat.add_sub_cancel]
      cases b <;> rfl

end Source

section Rows

lemma Page.count_feeds (page : Page) : page.text.count '\n' = page.rows.length := by
  obtain ⟨rows,last⟩ := page
  have hrow (row : Row) : row.chars.count '\n' = 0 := List.count_eq_zero.mpr row.plain
  induction rows with
  | nil => exact hrow last
  | cons row rows ih =>
    simp only [text,front,List.map_cons,List.flatten_cons,Row.ended,List.append_assoc,List.count_append,hrow,
      List.count_singleton_self,List.length_cons] at ih ⊢
    omega

/-- There is one line more than there are line feeds. -/
lemma length_lines (text : List Char) : (lines text).length = text.count '\n' + 1 := by
  obtain ⟨page,rfl⟩ := Page.exists_page text
  rw [lines,length_placeLines,splitLines_text,page.count_feeds]
  simp

/-- The page is a text up to the end of one of its lines, the line feed apart. -/
def Page.EndsLine (page : Page) (text : List Char) (number : Nat) : Prop :=
  page.rows.length + 1 = number ∧ ∃ back, text = page.text ++ back ∧ ∀ c ∈ back.head?, c = '\n'

lemma exists_endsLine {text : List Char} {number : Nat} (hne : number ≠ 0) (hle : number ≤ 1 + text.count '\n') :
    ∃ page : Page, page.EndsLine text number := by
  obtain ⟨⟨rows,last⟩,rfl⟩ := Page.exists_page text
  rw [Page.count_feeds] at hle
  obtain ⟨i,rfl⟩ : ∃ i, number = i+1 := ⟨number-1,by omega⟩
  by_cases hi : i < rows.length
  · obtain ⟨front,row,rest,rfl,hfront⟩ : ∃ front row rest, rows = front ++ row :: rest ∧ front.length = i :=
      ⟨rows.take i,rows[i],rows.drop (i+1),by rw [List.getElem_cons_drop,List.take_append_drop],by simp; omega⟩
    refine ⟨⟨front,row⟩,by rw [hfront],'\n' :: (Page.mk rest last).text,?_,by simp⟩
    simp [Page.text,Page.front,Row.ended]
  · refine ⟨⟨rows,last⟩,?_,[],by simp,by simp⟩
    simp only at hle ⊢
    omega

/-- A row without the carriage returns at its end. -/
def Row.content (row : Row) : List Char := row.chars.rdropWhile Line.isBreak

lemma Row.plain_content (row : Row) : '\n' ∉ row.content := fun h =>
  row.plain ((List.rdropWhile_prefix Line.isBreak row.chars).subset h)

/-- The line that a page ends with. -/
lemma line_of_endsLine {page : Page} {text : List Char} {number : Nat} (h : page.EndsLine text number) :
    ∃ line : Line, (lines text)[number-1]? = some line ∧ line.start = byteLength page.front ∧
      line.content = page.last.content := by
  obtain ⟨rfl,back,rfl,hback⟩ := h
  cases back with
  | nil => exact ⟨_,line_of_page page (show splitLines [] = [[]] from rfl),rfl,by simp [Line.content_eq,Row.content]⟩
  | cons c back =>
    obtain rfl : c = '\n' := hback c rfl
    have hfeed : splitLines ('\n' :: back) = ['\n'] :: splitLines back := by simp [splitLines,splitAfter]
    refine ⟨_,line_of_page page hfeed,rfl,?_⟩
    rw [Line.content_eq,List.rdropWhile_concat_pos _ _ _ (by decide),Row.content]

end Rows

namespace Source

variable {source : Source}

/-- There is a range for every line that there is. -/
lemma span_eq_none_iff (source : Source) (position : Position) :
    source.span position = none ↔ position.line = 0 ∨ 1 + source.chars.count '\n' < position.line := by
  obtain ⟨number,column⟩ := position
  cases number with
  | zero => simp [span]
  | succ i =>
    have hlength := length_lines source.chars
    cases hline : (lines source.chars)[i]? with
    | none =>
      have hle := List.getElem?_eq_none_iff.mp hline
      simp only [span,hline,Nat.add_sub_cancel,Nat.succ_ne_zero,if_false,false_or,true_iff]
      omega
    | some line =>
      obtain ⟨hlt,-⟩ := List.getElem?_eq_some_iff.mp hline
      simp only [span_of_line hline,reduceCtorEq,Nat.succ_ne_zero,false_or,false_iff]
      omega

end Source

/-- Every position has its range computed without a fault. There is none where there is no line. Else the
range starts with the character in the column, or at the end of the content of the line if the column lies
behind it, and it holds this one character, unless that is a carriage return. -/
theorem span_of_position (source : Source) (position : Position) :
    source.checkedSpan position = .ok (source.span position) ∧
    (source.span position = none ↔ position.line = 0 ∨ 1 + source.chars.count '\n' < position.line) ∧
    (position.line ≠ 0 → position.line ≤ 1 + source.chars.count '\n' →
      ∃ page : Page, page.EndsLine source.chars position.line) ∧
    ∀ page : Page, page.EndsLine source.chars position.line → ∃ start stop : Nat,
      source.span position = some (start,stop) ∧
      (∀ a c b, page.last.content = a ++ c :: b → a.length + 1 = max position.column 1 →
        start = byteLength page.front + byteLength a ∧
        stop = if c = '\r' then start else start + c.utf8Size) ∧
      (page.last.content.length < max position.column 1 →
        start = byteLength page.front + byteLength page.last.content ∧ stop = start) := by
  refine ⟨source.checkedSpan_eq position,source.span_eq_none_iff position,exists_endsLine,?_⟩
  intro page hpage
  obtain ⟨line,hline,hstart,hcontent⟩ := line_of_endsLine hpage
  obtain ⟨hnumber,-⟩ := hpage
  have hspan := Source.span_of_line hline position.column
  rw [show position.line - 1 + 1 = position.line by omega,hstart,hcontent] at hspan
  refine ⟨_,_,hspan,?_,?_⟩
  · intro a c b hsplit ha
    have htake : page.last.content.take (position.column-1) = a := by
      rw [hsplit]
      exact List.take_left' (by omega)
    have hdrop : page.last.content.drop (position.column-1) = c :: b := by
      rw [hsplit]
      exact List.drop_left' (by omega)
    have hfeed : c ≠ '\n' := by
      rintro rfl
      exact page.last.plain_content (by simp [hsplit])
    rw [Source.columnRange,htake,hdrop]
    refine ⟨rfl,?_⟩
    by_cases hc : c = '\r'
    · simp [Source.stopAt,Line.isBreak,hc]
    · simp [Source.stopAt,Line.isBreak,hc,hfeed,Nat.add_assoc]
  · intro hbehind
    rw [Source.columnRange,List.take_of_length_le (by omega),List.drop_of_length_le (by omega)]
    exact ⟨rfl,rfl⟩

/-- Two rows, the second with a carriage return at its end. -/
def Page.twoRows : Page := ⟨[⟨['a'],by decide⟩],⟨['(','é','\r'],by decide⟩⟩

/-- A character of two bytes in the second line, the far end of that line, and a line that is not there. -/
theorem span_of_position_second_line :
    Source.span ⟨"input","a\n(é\r\n)"⟩ ⟨2,2⟩ = some (3,5) ∧
    Source.span ⟨"input","a\n(é\r\n)"⟩ ⟨2,18446744073709551615⟩ = some (5,5) ∧
    Source.span ⟨"input","a\n(é\r\n)"⟩ ⟨4,0⟩ = none := by
  have hpage : Page.twoRows.EndsLine (Source.chars ⟨"input","a\n(é\r\n)"⟩) 2 :=
    ⟨rfl,['\n',')'],by decide,by simp⟩
  refine ⟨?_,?_,?_⟩
  · obtain ⟨start,stop,hspan,hinside,-⟩ :=
      (span_of_position ⟨"input","a\n(é\r\n)"⟩ ⟨2,2⟩).2.2.2 Page.twoRows hpage
    obtain ⟨rfl,rfl⟩ := hinside ['('] 'é' [] (by decide) rfl
    exact hspan
  · obtain ⟨start,stop,hspan,-,hbehind⟩ :=
      (span_of_position ⟨"input","a\n(é\r\n)"⟩ ⟨2,18446744073709551615⟩).2.2.2 Page.twoRows hpage
    obtain ⟨rfl,rfl⟩ := hbehind (by decide)
    exact hspan
  · exact (span_of_position ⟨"input","a\n(é\r\n)"⟩ ⟨4,0⟩).2.1.mpr (Or.inr (by decide))

end Formula
