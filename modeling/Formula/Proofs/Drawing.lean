import Formula.Diagnostic.Render
import Formula.Proofs.Labels

/-! What the drawing of a failure shows: it depends on the contents of the lines of a text, and neither on
how they end nor on the bytes they start at. -/
namespace Formula

namespace Source

variable {source : Source}

/-- The bytes of the character in a column, counted from the start of its line. -/
def columnRange (content : List Char) (column : Nat) : Nat × Nat :=
  (byteLength (content.take (column-1)),
    stopAt (byteLength (content.take (column-1))) (content.drop (column-1)))

lemma span_column (source : Source) (i column : Nat) :
    source.span ⟨i,column⟩ = source.span ⟨i,column-1+1⟩ := by
  have hskip : max column 1 - 1 = max (column-1+1) 1 - 1 := by omega
  simp only [span,hskip]

/-- The range of a column is that in the content of its line. -/
theorem span_of_line {i : Nat} {line : Line} (hline : (lines source.chars)[i]? = some line) (column : Nat) :
    source.span ⟨i+1,column⟩ = some (line.start + (columnRange line.content column).1,
      line.start + (columnRange line.content column).2) := by
  rw [span_column]
  by_cases hin : column-1 < line.content.length
  · obtain ⟨ending,hending,-⟩ := line.exists_ending
    have hcontent := List.take_append_drop (column-1) line.content
    have hlength : (line.content.take (column-1)).length = column-1 := by
      rw [List.length_take]
      omega
    rw [columnRange]
    generalize line.content.take (column-1) = a at hcontent hlength ⊢
    cases hdrop : line.content.drop (column-1) with
    | nil =>
      rw [List.drop_eq_nil_iff] at hdrop
      omega
    | cons c b =>
      rw [hdrop] at hcontent
      have htext : line.text = a ++ c :: (b ++ ending) := by simpa [← hcontent] using hending
      have hspan := span_of_inside hline htext (by omega)
      rw [hlength] at hspan
      rw [hspan]
      simp only [stopAt]
      split <;> simp [Nat.add_assoc]
  · have hspan := span_of_behind hline (Nat.le_of_not_lt hin)
    rw [hspan,columnRange,List.take_of_length_le (by omega),List.drop_of_length_le (by omega)]
    rfl

end Source

section Lookup

/-- Lines start one behind the other. -/
lemma placeLines_append (start : Nat) (a b : List (List Char)) :
    placeLines start (a ++ b) = placeLines start a ++ placeLines (start + byteLength a.flatten) b := by
  induction a generalizing start with
  | nil => simp [placeLines]
  | cons text a ih => simp [placeLines,ih,Nat.add_assoc]

lemma start_le_of_mem {start : Nat} {pieces : List (List Char)} {line : Line}
    (h : line ∈ placeLines start pieces) : line.start ≤ start + byteLength pieces.flatten := by
  induction pieces generalizing start with
  | nil => simp [placeLines] at h
  | cons text pieces ih =>
    simp only [placeLines,List.mem_cons] at h
    simp only [List.flatten_cons,byteLength_append]
    rcases h with rfl | h
    · simp
    · have := ih h
      omega

@[simp] theorem length_placeLines (start : Nat) (pieces : List (List Char)) :
    (placeLines start pieces).length = pieces.length := by
  induction pieces generalizing start with
  | nil => rfl
  | cons text pieces ih => simp [placeLines,ih]

lemma Line.contentEnd_lt {line : Line} {row : Row} (h : line.text = row.ended) :
    line.contentEnd < line.start + byteLength line.text := by
  obtain ⟨ending,hending,-⟩ := line.exists_ending
  have hne : ending ≠ [] := by
    rintro rfl
    exact Line.content_ne_text h (by simpa using hending.symm)
  have hpos := byteLength_pos hne
  rw [Line.contentEnd,hending,byteLength_append]
  omega

/-- A byte of the content of a line lies in this line, and so does the byte behind the content. -/
theorem lineAt_of_content {text : List Char} {i offset : Nat} {line : Line}
    (hline : (lines text)[i]? = some line) (hstart : line.start ≤ offset) (hstop : offset ≤ line.contentEnd) :
    lineAt text offset = (i+1,line) := by
  obtain ⟨front,back,hs,hi,hfront⟩ := exists_of_placeLines hline
  have hlines : lines text =
      placeLines 0 front ++ line :: placeLines (line.start + byteLength line.text) back := by
    rw [lines,hs,placeLines_append,placeLines,← hfront]
  have hbefore : ∀ x ∈ placeLines 0 front, decide (x.start ≤ offset) = true := by
    intro x hx
    have := start_le_of_mem hx
    rw [decide_eq_true_eq]
    omega
  have hbehind : (placeLines (line.start + byteLength line.text) back).takeWhile (·.start ≤ offset) = [] := by
    cases back with
    | nil => rfl
    | cons text back =>
      -- The next line starts behind a line feed, which is no part of the content.
      obtain hnil | ⟨row,hrow⟩ := ended_of_splitLines hs
      · cases hnil
      · have := Line.contentEnd_lt hrow
        rw [placeLines,List.takeWhile_cons_of_neg]
        rw [decide_eq_true_eq]
        dsimp only
        omega
  have htake : (lines text).takeWhile (·.start ≤ offset) = placeLines 0 front ++ [line] := by
    rw [hlines,List.takeWhile_append_of_pos hbefore,List.takeWhile_cons_of_pos (by simpa using hstart),hbehind]
  simp [lineAt,htake,hi]

lemma charsWithin_append (a b : List Char) : charsWithin (byteLength a) (a ++ b) = a.length := by
  induction a with
  | nil =>
    cases b with
    | nil => rfl
    | cons c b =>
      have := c.utf8Size_pos
      simp [charsWithin]
      omega
  | cons c a ih => simp [charsWithin,ih]

/-- The position of a byte inside the content of a line counts the characters in front of it. -/
lemma locate_of_content {text front rest : List Char} {i : Nat} {line : Line}
    (hline : (lines text)[i]? = some line) (hcontent : line.content = front ++ rest) :
    locate text (line.start + byteLength front) = ⟨i+1,front.length+1⟩ := by
  obtain ⟨ending,hending,-⟩ := line.exists_ending
  have hstop : line.start + byteLength front ≤ line.contentEnd := by
    rw [Line.contentEnd,hcontent,byteLength_append]
    omega
  have htext : line.text = front ++ (rest ++ ending) := by rw [hending,hcontent,List.append_assoc]
  simp only [locate,lineAt_of_content hline (Nat.le_add_right _ _) hstop,Nat.add_sub_cancel_left]
  rw [htext,charsWithin_append]

end Lookup

namespace Diagnostic

namespace Cell

/-- The cell, so many bytes further on. -/
def shift (k : Nat) (cell : Cell) : Cell := { cell with start := k + cell.start }

variable (k : Nat) (cell : Cell) (first last : Nat)

@[simp] theorem drawn_shift : (cell.shift k).drawn = cell.drawn := rfl

@[simp] theorem overlaps_shift :
    (cell.shift k).overlaps (k + first) (k + last) = cell.overlaps first last := by
  simp [overlaps,shift,Nat.add_assoc]

@[simp] theorem caret_shift : (cell.shift k).caret (k + first) (k + last) = cell.caret first last := by
  rw [caret,caret,overlaps_shift]
  simp [shift]

end Cell

lemma cellsFrom_shift (k start : Nat) (chars : List (Char × Nat)) :
    cellsFrom (k + start) chars = (cellsFrom start chars).map (Cell.shift k) := by
  induction chars generalizing start with
  | nil => rfl
  | cons c chars ih => simp [cellsFrom,Cell.shift,Nat.add_assoc,ih]

/-- What is drawn of a line hangs on the bytes of the label as counted from the start of the line. -/
lemma snippet_shift (k : Nat) (text : List Char) (start stop : Nat) (message : String) :
    snippet ⟨k,text⟩ ⟨k + start,k + stop,message⟩ = snippet ⟨0,text⟩ ⟨start,stop,message⟩ := by
  have hlast : max (k + stop) (k + start + 1) = k + max stop (start + 1) := by omega
  have hcells := cellsFrom_shift k 0 (withWidths 0 (drawnText text))
  have hfinish : (⟨' ',k + byteLength (drawnText text),1,1⟩ : Cell) =
      Cell.shift k ⟨' ',byteLength (drawnText text),1,1⟩ := rfl
  rw [Nat.add_zero] at hcells
  simp only [snippet,hlast,hcells,hfinish,Nat.zero_add,List.map_map,List.map_append,List.map_cons,
    List.map_nil,Function.comp_def,Cell.drawn_shift,Cell.overlaps_shift,Cell.caret_shift]

/-- A line end is not drawn. -/
lemma drawnText_append (content : List Char) {ending : List Char} (h : ∀ c ∈ ending, Line.isBreak c = true) :
    drawnText (content ++ ending) = drawnText content := by
  have hdrop : ∀ c ∈ ending.reverse, (c = '\n' || c = '\r' || c.toNat = 0) = true := by
    intro c hc
    have := h c (List.mem_reverse.mp hc)
    simp only [Line.isBreak] at this
    simp [this]
  rw [drawnText,drawnText,List.reverse_append,List.dropWhile_append_of_pos hdrop]

lemma snippet_of_content (line : Line) (start stop : Nat) (message : String) :
    snippet line ⟨line.start + start,line.start + stop,message⟩ =
      snippet ⟨0,line.content⟩ ⟨start,stop,message⟩ := by
  obtain ⟨ending,hending,hbreaks⟩ := line.exists_ending
  have hdrawn : drawnText line.text = drawnText line.content := by
    rw [hending,drawnText_append _ hbreaks]
  rw [snippet_shift line.start line.text]
  simp only [snippet,hdrawn]

end Diagnostic

namespace Source
open Diagnostic

variable {a b : Source}

/-- Lines with one content are drawn alike wherever they stand in their texts. -/
lemma labelRows_of_line (hname : a.name = b.name) {i : Nat} {line line' : Line}
    (ha : (lines a.chars)[i]? = some line) (hb : (lines b.chars)[i]? = some line')
    (hcontent : line.content = line'.content) (front rest : List Char) (hfront : line.content = front ++ rest)
    (stop : Nat) (message : String) :
    labelRows a ⟨line.start + byteLength front,line.start + stop,message⟩ =
      labelRows b ⟨line'.start + byteLength front,line'.start + stop,message⟩ := by
  have hfront' := hcontent ▸ hfront
  have hend (line : Line) (h : line.content = front ++ rest) :
      line.start + byteLength front ≤ line.contentEnd := by
    rw [Line.contentEnd,h,byteLength_append]
    omega
  unfold labelRows
  simp only [lineAt_of_content ha (Nat.le_add_right _ _) (hend line hfront),
    lineAt_of_content hb (Nat.le_add_right _ _) (hend line' hfront'),locate_of_content ha hfront,
    locate_of_content hb hfront',snippet_of_content,hcontent,hname]

/-- A failure is drawn alike over texts whose lines have the same contents. -/
theorem sheet_of_contents (hname : a.name = b.name)
    (h : (lines a.chars).map Line.content = (lines b.chars).map Line.content) (failure : Failure) :
    a.sheet failure = b.sheet failure := by
  obtain ⟨message,⟨number,column⟩⟩ := failure
  cases number with
  | zero => simp [sheet,diagnostic,span,draw]
  | succ i =>
    have hi : (lines a.chars)[i]?.map Line.content = (lines b.chars)[i]?.map Line.content := by
      rw [← List.getElem?_map,h,List.getElem?_map]
    cases ha : (lines a.chars)[i]? with
    | none =>
      have hb : (lines b.chars)[i]? = none := by simpa [ha] using hi.symm
      simp [sheet,diagnostic,span,draw,ha,hb]
    | some line =>
      obtain ⟨line',hb,hcontent⟩ : ∃ line', (lines b.chars)[i]? = some line' ∧ line'.content = line.content := by
        simpa [ha] using hi.symm
      have hrows := labelRows_of_line hname ha hb hcontent.symm (line.content.take (column-1))
        (line.content.drop (column-1)) (List.take_append_drop _ _).symm
      simp only [sheet,diagnostic,span_of_line ha,span_of_line hb,hcontent,draw,headline,columnRange,
        List.flatMap_cons,List.flatMap_nil,hrows]

end Source
end Formula
