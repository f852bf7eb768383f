import Formula.Proofs.Spans

/-! Where a drawing says that its label is. The place is counted back from the first byte of the label, and it
is the position that was asked for, with its column brought into the line. Over a text that is turned down, it
is the position of the rejection itself. -/
namespace Formula

namespace Source

variable {source : Source}

/-- A position of a source, as it is written. -/
def locus (source : Source) (p : Position) : String :=
  source.name ++ ":" ++ toString p.line ++ ":" ++ toString p.column

section Columns

variable (content : List Char) (column : Nat)

/-- The column, brought between the first one and the one behind the content. -/
def clampColumn : Nat := min (max column 1) (content.length+1)

/-- Clamping leaves the range of a column as it is. -/
lemma columnRange_clamp : columnRange content (clampColumn content column) = columnRange content column := by
  by_cases hin : column ≤ content.length+1
  · have hskip : clampColumn content column - 1 = column - 1 := by
      unfold clampColumn
      omega
    rw [columnRange,hskip,columnRange]
  · have hskip : clampColumn content column - 1 = content.length := by
      unfold clampColumn
      omega
    rw [columnRange,hskip,columnRange,List.take_length,List.drop_length,List.take_of_length_le (by omega),
      List.drop_of_length_le (by omega)]

/-- The range of a column is in order and inside the content. -/
lemma columnRange_le : (columnRange content column).1 ≤ (columnRange content column).2 ∧
    (columnRange content column).2 ≤ byteLength content := by
  have hcontent : byteLength content = byteLength (content.take (column-1)) +
      byteLength (content.drop (column-1)) := by
    rw [← byteLength_append,List.take_append_drop]
  rw [hcontent,columnRange]
  cases content.drop (column-1) with
  | nil => simp [stopAt]
  | cons c rest =>
    simp only [stopAt,byteLength_cons]
    split <;> omega

/-- The characters in front of a column, counted from one, give the clamped column. -/
lemma length_take_column : (content.take (column-1)).length + 1 = clampColumn content column := by
  rw [List.length_take,clampColumn]
  omega

end Columns

/-- The first byte of a column leads back to the line and to the clamped column. -/
lemma locate_column {text : List Char} {i : Nat} {line : Line} (hline : (lines text)[i]? = some line)
    (column : Nat) : locate text (line.start + (columnRange line.content column).1) =
      ⟨i+1,clampColumn line.content column⟩ := by
  have h := locate_of_content hline (List.take_append_drop (column-1) line.content).symm
  rw [length_take_column] at h
  exact h

/-- Where there is a label, its line is there, and the label has the range of its column. -/
lemma line_of_label {failure : Failure} {label : Label} (h : label ∈ (source.diagnostic failure).labels) :
    ∃ (i : Nat) (line : Line), failure.position.line = i+1 ∧ (lines source.chars)[i]? = some line ∧
      (source.diagnostic failure).labels = [label] ∧ (source.diagnostic failure).notes = [] ∧
      label.start = line.start + (columnRange line.content failure.position.column).1 ∧
      label.stop = line.start + (columnRange line.content failure.position.column).2 := by
  cases hspan : source.span failure.position with
  | none => simp [diagnostic,hspan] at h
  | some range =>
    obtain ⟨label',hlabels,hnotes,hstart,hstop⟩ := diagnostic_of_span failure hspan
    rw [hlabels,List.mem_singleton] at h
    subst h
    have hsome := mt (source.span_eq_none_iff failure.position).mpr (by rw [hspan]; simp)
    obtain ⟨i,hi⟩ : ∃ i, failure.position.line = i+1 := ⟨failure.position.line-1,by omega⟩
    have hlt : i < (lines source.chars).length := by
      rw [length_lines]
      omega
    refine ⟨i,(lines source.chars)[i],hi,List.getElem?_eq_getElem hlt,hlabels,hnotes,?_⟩
    have hline := span_of_line (List.getElem?_eq_getElem hlt) failure.position.column
    rw [← hi,hspan,Option.some.injEq,Prod.mk.injEq] at hline
    exact ⟨hstart.trans hline.1,hstop.trans hline.2⟩

lemma message_diagnostic (source : Source) (failure : Failure) :
    (source.diagnostic failure).message = failure.message := by
  unfold diagnostic
  split <;> rfl

/-- A label names the position of its failure as it was reported. -/
lemma message_of_label {failure : Failure} {label : Label} (h : label ∈ (source.diagnostic failure).labels) :
    label.message = "line " ++ toString failure.position.line ++ ", column " ++
      toString failure.position.column := by
  unfold diagnostic at h
  split at h
  · rw [List.mem_singleton.mp h]
  · cases h

/-- The place of a label is on the line of its failure, in the column brought into that line. -/
lemma locate_of_label {failure : Failure} {label : Label} (h : label ∈ (source.diagnostic failure).labels) :
    ∃ (i : Nat) (line : Line), failure.position.line = i+1 ∧ (lines source.chars)[i]? = some line ∧
      locate source.chars label.start = ⟨i+1,clampColumn line.content failure.position.column⟩ := by
  obtain ⟨i,line,hnumber,hline,-,-,hstart,-⟩ := line_of_label h
  exact ⟨i,line,hnumber,hline,by rw [hstart,locate_column hline]⟩

end Source

namespace Diagnostic

/-- How a drawing begins: with what is wrong, and below that with a name and a place. -/
def opening (colored : Bool) (name message : String) (place : Position) : String :=
  ((Stroke.dip .header).shown colored ++ "error[E001]" ++ (Stroke.dip .message).shown colored ++ ": " ++
    message ++ Stroke.wipe.shown colored ++ "\n") ++
  ("".pushn ' ' ((toString place.line).length+1) ++
    (Stroke.dip .border).shown colored ++ "┌─" ++ Stroke.wipe.shown colored) ++
  (" " ++ name ++ ":" ++ toString place.line ++ ":" ++ toString place.column ++ "\n")

/-- How the drawing of a label ends: with the position as it was reported, and an empty line. -/
def closing (colored : Bool) (reported : Position) : String :=
  (Stroke.dip .mark).shown colored ++ "line " ++ toString reported.line ++ ", column " ++
    toString reported.column ++ Stroke.wipe.shown colored ++ "\n\n"

/-- What is drawn in front of the place of a label: the headline, and the corner of the frame. -/
def lead (diagnostic : Diagnostic) (number : Nat) : Sheet :=
  diagnostic.headline ++ .write (Cell.blanks ((toString number).length+1)) :: Sheet.inInk .border "┌─"

/-- The rows of a label start with its place, as counted back from its first byte, and end with its
message. -/
lemma exists_labelRows (source : Source) (label : Label) : ∃ rows : Sheet, labelRows source label =
    .write (Cell.blanks ((toString (locate source.chars label.start).line).length+1)) ::
      (Sheet.inInk .border "┌─" ++
        .write (" " ++ (source.locus (locate source.chars label.start) ++ "\n")) ::
          (rows ++ (Sheet.inInk .mark label.message ++ [.write "\n"]))) := by
  let number := toString (locate source.chars label.start).line
  let gutter : Sheet := [.write (Cell.blanks (number.length+1))]
  let drawn := snippet (lineAt source.chars label.start).2 label
  refine ⟨gutter ++ Sheet.inInk .border "│" ++ [.write "\n"] ++ Sheet.inInk .border number ++ [.write " "] ++
    Sheet.inInk .border "│" ++ [.write " "] ++ drawn.1 ++ [.write "\n"] ++ gutter ++ Sheet.inInk .border "│" ++
    [.write " "] ++ drawn.2 ++ [.write " "],?_⟩
  unfold labelRows Source.locus
  simp only [List.append_assoc,String.append_assoc]
  rfl

/-- A drawing with a label starts with its headline and the place of the label, and ends with its message. -/
lemma draw_of_label (source : Source) {diagnostic : Diagnostic} {label : Label}
    (hlabels : diagnostic.labels = [label]) (hnotes : diagnostic.notes = []) :
    ∃ rows : Sheet, diagnostic.draw source = diagnostic.lead (locate source.chars label.start).line ++
      .write (" " ++ (source.locus (locate source.chars label.start) ++ "\n")) ::
        (rows ++ (Sheet.inInk .mark label.message ++ [.write "\n",.write "\n"])) := by
  obtain ⟨rows,hrows⟩ := exists_labelRows source label
  refine ⟨rows,?_⟩
  rw [draw,hlabels,hnotes,List.flatMap_singleton,hrows,lead]
  simp

end Diagnostic

lemma Sheet.shown_append (colored : Bool) (a b : Sheet) :
    Sheet.shown colored (a ++ b) = Sheet.shown colored a ++ Sheet.shown colored b := by
  simp [shown]

/-- With colors or without, the place of a label stands behind the corner of the frame, and the position
that was reported stands at the end. -/
lemma Source.render_of_label {source : Source} {failure : Failure} {label : Label}
    (h : label ∈ (source.diagnostic failure).labels) (colored : Bool) :
    ∃ body : String, source.render colored failure =
      ((source.diagnostic failure).lead (locate source.chars label.start).line).shown colored ++
        (" " ++ (source.locus (locate source.chars label.start) ++ "\n")) ++
        (body ++ Diagnostic.closing colored failure.position) := by
  obtain ⟨i,line,-,-,hlabels,hnotes,-,-⟩ := line_of_label h
  obtain ⟨rows,hrows⟩ := Diagnostic.draw_of_label source hlabels hnotes
  refine ⟨Sheet.shown colored rows,?_⟩
  rw [render,sheet,hrows,message_of_label h,Sheet.shown_append,String.append_assoc]
  simp [Sheet.shown,Stroke.shown,Sheet.inInk,Diagnostic.closing,String.append_assoc]

/-- What is drawn in front of the place and the place itself, spelled out. -/
lemma Source.opening_eq (source : Source) (failure : Failure) (colored : Bool) (place : Position) :
    ((source.diagnostic failure).lead place.line).shown colored ++ (" " ++ (source.locus place ++ "\n")) =
      Diagnostic.opening colored source.name failure.message place := by
  simp [Diagnostic.lead,Diagnostic.headline,Diagnostic.severity,Diagnostic.code,Diagnostic.Cell.blanks,
    source.message_diagnostic,Sheet.shown,Stroke.shown,Sheet.inInk,Source.locus,Diagnostic.opening,
    String.append_assoc]

namespace Source

section Rejected

variable {source : Source} {limit : Limit} {rejection : Rejection}

/-- Where a text is cut, the position lies in its line, unless the cut is behind carriage returns or in front
of a line end. -/
lemma column_le_of_cut {before rest : List Char} (h : source.chars = before ++ rest)
    (hrest : ∀ c ∈ rest.head?, Line.isBreak c = false) (hend : rest = [] → before.getLast? ≠ some '\r') {i : Nat}
    {line : Line} (hi : (Position.first.past before).line = i+1) (hline : (lines source.chars)[i]? = some line) :
    (Position.first.past before).column ≤ line.content.length+1 := by
  obtain ⟨page,rfl⟩ := Page.exists_page before
  rw [page.past_text] at hi ⊢
  obtain rfl : page.rows.length = i := Nat.add_right_cancel hi
  cases rest with
  | nil =>
    rw [h,line_of_page page (show splitLines [] = [[]] from rfl),Option.some.injEq] at hline
    have hcontent : line.content = page.last.chars := by
      rw [← hline,Line.content_eq,List.append_nil,List.rdropWhile_eq_self_iff]
      intro hne hbreak
      have hlast : page.last.chars.getLast hne ∈ page.last.chars := List.getLast_mem hne
      rcases Bool.or_eq_true_iff.mp hbreak with hfeed | hreturn
      · rw [of_decide_eq_true hfeed] at hlast
        exact page.last.plain hlast
      · apply hend rfl
        rw [Page.text,List.getLast?_append_of_ne_nil _ hne,List.getLast?_eq_some_getLast hne,
          of_decide_eq_true hreturn]
    exact Nat.le_of_eq (by rw [hcontent])
  | cons c rest =>
    obtain ⟨piece,more,hpiece⟩ := exists_first_line rest
    have hc := hrest c rfl
    have hplain : '\n' ∉ [c] := by
      intro hmem
      rw [← List.mem_singleton.mp hmem] at hc
      exact absurd hc (by decide)
    have hfirst : splitLines (c :: rest) = (c :: piece) :: more := splitLines_row ⟨[c],hplain⟩ hpiece
    rw [h,line_of_page page hfirst,Option.some.injEq] at hline
    rw [← hline,Line.content_eq,rdropWhile_append_cons _ hc,List.length_append]
    exact Nat.succ_le_succ (Nat.le_add_right _ _)

/-- The position that a text is turned down at has a label. -/
lemma exists_label_of_rejected (h : parse limit source.text = .error rejection) :
    ∃ label, label ∈ (source.diagnostic rejection.failure).labels := by
  have labelled {start stop : Nat} (hspan : source.span rejection.position = some (start,stop)) :
      ∃ label, label ∈ (source.diagnostic rejection.failure).labels := by
    obtain ⟨label,hlabels,-⟩ := diagnostic_of_span rejection.failure hspan
    exact ⟨label,by rw [hlabels]; exact List.mem_singleton_self _⟩
  rcases Grammar.parseText_error_cases h with ⟨-,rfl⟩ | ⟨-,rfl⟩ | ⟨before,c,rest,deep,hsource,hobs,rfl⟩
  · obtain ⟨stop,hspan⟩ := source.span_of_first
    exact labelled hspan
  · exact labelled source.span_of_end
  · exact labelled (span_of_char hsource (isBreak_of_not_isBlank hobs.head_solid))

/-- That position is in its line, unless it is behind carriage returns at the end of the text. -/
lemma column_of_rejected (h : parse limit source.text = .error rejection) :
    1 ≤ rejection.position.column ∧ (source.chars.getLast? ≠ some '\r' → ∀ (i : Nat) (line : Line),
      rejection.position.line = i+1 → (lines source.chars)[i]? = some line →
        rejection.position.column ≤ line.content.length+1) := by
  have counted (before : List Char) : 1 ≤ (Position.first.past before).column := by
    obtain ⟨page,rfl⟩ := Page.exists_page before
    rw [page.past_text]
    exact Nat.le_add_left _ _
  rcases Grammar.parseText_error_cases h with ⟨-,rfl⟩ | ⟨-,rfl⟩ | ⟨before,c,rest,deep,hsource,hobs,rfl⟩
  · exact ⟨Nat.le_refl 1,fun _ i line _ _ => Nat.le_add_left _ _⟩
  · refine ⟨counted _,fun hend i line hi hline => ?_⟩
    exact column_le_of_cut (List.append_nil _).symm (by simp) (fun _ => hend) hi hline
  · refine ⟨counted _,fun _ i line hi hline => ?_⟩
    have hc := isBreak_of_not_isBlank hobs.head_solid
    exact column_le_of_cut hsource (by simpa using hc) (by simp) hi hline

/-- The drawing of a text that is turned down begins with the message and the name, and with the place of the
rejection, which it ends with as well. -/
theorem render_of_rejected (source : Source) (h : parse limit source.text = .error rejection) (colored : Bool) :
    ∃ (place : Position) (body : String), source.render colored rejection.failure =
        Diagnostic.opening colored source.name rejection.cause.message place ++
          (body ++ Diagnostic.closing colored rejection.position) ∧
      place.line = rejection.position.line ∧ place.column ≤ rejection.position.column ∧
      (source.chars.getLast? ≠ some '\r' → place = rejection.position) := by
  obtain ⟨label,hlabel⟩ := exists_label_of_rejected h
  obtain ⟨hpositive,hinside⟩ := column_of_rejected h
  obtain ⟨i,line,hnumber,hline,hlocate⟩ := locate_of_label hlabel
  obtain ⟨body,hrender⟩ := render_of_label hlabel colored
  rw [opening_eq] at hrender
  have hclamp : clampColumn line.content rejection.position.column ≤ rejection.position.column := by
    unfold clampColumn
    omega
  refine ⟨_,body,hrender,by rw [hlocate]; exact hnumber.symm,by rw [hlocate]; exact hclamp,?_⟩
  intro hend
  have hcolumn := hinside hend i line hnumber hline
  have hsame : clampColumn line.content rejection.position.column = rejection.position.column := by
    unfold clampColumn
    omega
  rw [hlocate]
  exact congrArg₂ Position.mk hnumber.symm hsame

end Rejected
end Source

/-- A drawing names the line that was asked for, and the column, brought into the content of that line. The
label lies on the line with both of its ends, and to ask for the place that is named gives its range again. -/
theorem locus_of_label (source : Source) (failure : Failure) (label : Label)
    (h : label ∈ (source.diagnostic failure).labels) :
    ∃ (page : Page) (shown : Position), page.EndsLine source.chars failure.position.line ∧
      shown.line = failure.position.line ∧
      shown.column = min (max failure.position.column 1) (page.last.content.length+1) ∧
      locate source.chars label.start = shown ∧
      (∀ colored, ∃ rest : String, source.render colored failure =
        ((source.diagnostic failure).lead shown.line).shown colored ++
          (" " ++ (source.locus shown ++ "\n")) ++ rest) ∧
      byteLength page.front ≤ label.start ∧ label.start ≤ label.stop ∧
      label.stop ≤ byteLength page.front + byteLength page.last.content ∧
      (locate source.chars label.stop).line = failure.position.line ∧
      ∀ message, ∃ again : Label, (source.diagnostic ⟨message,shown⟩).labels = [again] ∧
        again.start = label.start ∧ again.stop = label.stop := by
  obtain ⟨i,line,hnumber,hline,hlabels,-,hstart,hstop⟩ := Source.line_of_label h
  have hlength := length_lines source.chars
  have hi := (List.getElem?_eq_some_iff.mp hline).1
  obtain ⟨page,hpage⟩ : ∃ page : Page, page.EndsLine source.chars (i+1) := exists_endsLine (by omega) (by omega)
  obtain ⟨line',hline',hfront,hcontent⟩ := line_of_endsLine hpage
  obtain rfl : line = line' := by
    rw [Nat.add_sub_cancel,hline,Option.some.injEq] at hline'
    exact hline'
  have hlocate := Source.locate_column hline failure.position.column
  rw [← hstart] at hlocate
  obtain ⟨hordered,hinside⟩ := Source.columnRange_le line.content failure.position.column
  have hends : line.start ≤ label.stop ∧ label.stop ≤ line.contentEnd := by
    unfold Line.contentEnd
    omega
  refine ⟨page,⟨i+1,Source.clampColumn line.content failure.position.column⟩,by rw [hnumber]; exact hpage,
    hnumber.symm,by rw [Source.clampColumn,hcontent],hlocate,?_,?_,?_,?_,?_,?_⟩
  · intro colored
    obtain ⟨body,hrender⟩ := Source.render_of_label h colored
    rw [hlocate] at hrender
    exact ⟨_,hrender⟩
  · omega
  · omega
  · rw [← hfront,← hcontent]
    omega
  · rw [locate,lineAt_of_content hline hends.1 hends.2,hnumber]
  · intro message
    have hspan := Source.span_of_line hline (Source.clampColumn line.content failure.position.column)
    rw [Source.columnRange_clamp,← hstart,← hstop] at hspan
    obtain ⟨again,hagain,-,hsame⟩ := Source.diagnostic_of_span ⟨message,⟨i+1,_⟩⟩ hspan
    exact ⟨again,hagain,hsame⟩

/-- A column far behind the second line is named as the one behind its two characters. -/
theorem locus_of_label_behind_line :
    (Source.diagnostic ⟨"calc.txt","a\n(é\r\n)"⟩ ⟨"unexpected token",⟨2,9⟩⟩).labels =
      [⟨5,5,"line 2, column 9"⟩] ∧
    (∃ rest, Source.render ⟨"calc.txt","a\n(é\r\n)"⟩ false ⟨"unexpected token",⟨2,9⟩⟩ =
      "error[E001]: unexpected token\n  ┌─ calc.txt:2:3\n" ++ rest) ∧
    ∃ again : Label, (Source.diagnostic ⟨"calc.txt","a\n(é\r\n)"⟩ ⟨"again",⟨2,3⟩⟩).labels = [again] ∧
      again.start = 5 ∧ again.stop = 5 := by
  have hlabels : (Source.diagnostic ⟨"calc.txt","a\n(é\r\n)"⟩ ⟨"unexpected token",⟨2,9⟩⟩).labels =
      [⟨5,5,"line 2, column 9"⟩] := by decide +kernel
  obtain ⟨page,shown,-,-,-,hlocate,hrender,-,-,-,-,hagain⟩ :=
    locus_of_label ⟨"calc.txt","a\n(é\r\n)"⟩ ⟨"unexpected token",⟨2,9⟩⟩ ⟨5,5,"line 2, column 9"⟩
      (by rw [hlabels]; exact List.mem_singleton_self _)
  obtain rfl : shown = ⟨2,3⟩ := hlocate.symm.trans (by decide +kernel)
  refine ⟨hlabels,?_,hagain "again"⟩
  obtain ⟨rest,hrest⟩ := hrender false
  exact ⟨rest,hrest.trans (congrArg (· ++ rest) (by decide +kernel))⟩

end Formula
