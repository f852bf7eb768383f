import Formula.Diagnostic.Basic
import Formula.Front
import Formula.Proofs.Lines
import Formula.Proofs.Nesting

/-! What the diagnostic of a text that is turned down points at. -/
namespace Formula

namespace Source

variable {source : Source}

/-- Where a range that starts in front of this text stops: behind the first character, unless that breaks
the line. -/
def stopAt (start : Nat) : List Char → Nat
  | [] => start
  | c :: _ => if Line.isBreak c then start else start + c.utf8Size

/-- A range starts inside its line, and the character there tells where it stops. -/
lemma span_of_start {i n start : Nat} {line : Line} {rest : List Char}
    (hline : (lines source.chars)[i]? = some line)
    (hstart : (if n < line.text.length then min (line.start + byteLength (line.text.take n)) line.contentEnd
      else line.contentEnd) = start)
    (hrest : dropBytes? start source.chars = some rest) :
    source.span ⟨i+1,n+1⟩ = some (start,stopAt start rest) := by
  have hskip : max (n+1) 1 - 1 = n := by omega
  simp only [span,Nat.add_eq_zero_iff,Nat.one_ne_zero,and_false,if_false,Nat.add_sub_cancel,hline,
    hskip,hstart,hrest]
  cases rest <;> rfl

/-- The range of a character inside the content of its line. -/
theorem span_of_inside {i : Nat} {line : Line} (hline : (lines source.chars)[i]? = some line)
    {a b : List Char} {c : Char} (htext : line.text = a ++ c :: b) (hin : a.length < line.content.length) :
    source.span ⟨i+1,a.length+1⟩ =
      some (line.start + byteLength a,
        if Line.isBreak c then line.start + byteLength a else line.start + byteLength a + c.utf8Size) := by
  obtain ⟨front,ending,back,hchars,hfront,hending,-⟩ := exists_around_content hline
  have hcontent : byteLength a ≤ byteLength line.content := by
    apply byteLength_le_of_isPrefix
    exact List.prefix_of_prefix_length_le ⟨c :: b,htext.symm⟩ ⟨ending,hending.symm⟩ (Nat.le_of_lt hin)
  have hrest : dropBytes? (line.start + byteLength a) source.chars = some (c :: (b ++ back)) := by
    rw [hchars,htext,hfront,← byteLength_append]
    simpa using dropBytes?_append (front ++ a) (c :: (b ++ back))
  refine span_of_start hline ?_ hrest
  have htake : line.text.take a.length = a := by simp [htext]
  rw [if_pos (by simp [htext]),htake]
  unfold Line.contentEnd
  omega

/-- A column behind the content stands for the end of the content. -/
theorem span_of_behind {i : Nat} {line : Line} (hline : (lines source.chars)[i]? = some line) {n : Nat}
    (hn : line.content.length ≤ n) : source.span ⟨i+1,n+1⟩ = some (line.contentEnd,line.contentEnd) := by
  obtain ⟨front,ending,back,hchars,hfront,hending,hbreak⟩ := exists_around_content hline
  have hrest : dropBytes? line.contentEnd source.chars = some (ending ++ back) := by
    rw [hchars,hending,Line.contentEnd,hfront,← byteLength_append]
    simpa using dropBytes?_append (front ++ line.content) (ending ++ back)
  have hspan := span_of_start (n := n) hline ?_ hrest
  · rw [hspan]
    cases htail : ending ++ back with
    | nil => rfl
    | cons c tail => simp [stopAt,hbreak c (by simp [htail])]
  · split
    · have hle : byteLength line.content ≤ byteLength (line.text.take n) := by
        apply byteLength_le_of_isPrefix
        exact List.prefix_of_prefix_length_le ⟨ending,hending.symm⟩ (List.take_prefix n line.text)
          (by simp [hending]; omega)
      unfold Line.contentEnd
      omega
    · rfl

/-- The range of a character that breaks no line. -/
lemma span_of_char {before rest : List Char} {c : Char} (h : source.chars = before ++ c :: rest)
    (hc : Line.isBreak c = false) :
    source.span (Position.first.past before) = some (byteLength before,byteLength before + c.utf8Size) := by
  obtain ⟨page,rfl⟩ := Page.exists_page before
  obtain ⟨piece,more,hpiece⟩ := exists_first_line rest
  have hplain : '\n' ∉ [c] := by
    intro hmem
    rw [← List.mem_singleton.mp hmem] at hc
    exact absurd hc (by decide)
  have hfirst : splitLines (c :: rest) = (c :: piece) :: more := splitLines_row ⟨[c],hplain⟩ hpiece
  have hline := line_of_page page hfirst
  rw [← h] at hline
  have hspan := span_of_inside hline rfl (by simp [Line.content_eq,rdropWhile_append_cons _ hc])
  rw [page.past_text,hspan]
  simp [Page.text,hc]

/-- At the end of a text, the carriage returns it ends with are left out. -/
lemma span_of_end (source : Source) : source.span (Position.first.past source.chars) =
    some (byteLength (source.chars.rdropWhile (· = '\r')),
      byteLength (source.chars.rdropWhile (· = '\r'))) := by
  obtain ⟨page,hpage⟩ := Page.exists_page source.chars
  have hline := line_of_page page (show splitLines [] = [[]] from rfl)
  rw [List.append_nil,List.append_nil,hpage] at hline
  have hcontent : Line.content ⟨byteLength page.front,page.last.chars⟩ =
      page.last.chars.rdropWhile (· = '\r') := by
    rw [Line.content_eq]
    apply rdropWhile_congr
    intro c hc
    have hne : c ≠ '\n' := fun h => page.last.plain (h ▸ hc)
    simp [Line.isBreak,hne]
  have hend : Line.contentEnd ⟨byteLength page.front,page.last.chars⟩ =
      byteLength (source.chars.rdropWhile (· = '\r')) := by
    rw [Line.contentEnd,hcontent,← hpage,page.rdropWhile_text,byteLength_append]
  have hspan := span_of_behind hline (List.rdropWhile_prefix _ _).length_le
  rw [hend] at hspan
  rw [← hpage,page.past_text,hpage]
  exact hspan

lemma span_of_first (source : Source) : ∃ stop, source.span .first = some (0,stop) := by
  obtain ⟨piece,more,hpiece⟩ := exists_first_line source.chars
  have hline : (lines source.chars)[0]? = some ⟨0,piece⟩ := line_of_page ⟨[],.empty⟩ hpiece
  by_cases hcontent : Line.content ⟨0,piece⟩ = []
  · refine ⟨0,?_⟩
    have hspan := span_of_behind hline (Nat.le_of_eq (congrArg List.length hcontent))
    simpa [Line.contentEnd,hcontent,Position.first] using hspan
  · obtain ⟨ending,hending,-⟩ := Line.exists_ending ⟨0,piece⟩
    obtain ⟨c,content,hc⟩ := List.exists_cons_of_ne_nil hcontent
    have htext : piece = [] ++ c :: (content ++ ending) := by simpa [hc] using hending
    exact ⟨_,span_of_inside hline htext (by simp [hc])⟩

lemma diagnostic_of_span (failure : Failure) {start stop : Nat}
    (h : source.span failure.position = some (start,stop)) :
    ∃ label : Label, (source.diagnostic failure).labels = [label] ∧ (source.diagnostic failure).notes = [] ∧
      label.start = start ∧ label.stop = stop := by
  rw [diagnostic,h]
  exact ⟨_,rfl,rfl,rfl,rfl⟩

end Source

lemma isBreak_of_not_isBlank {c : Char} (h : isBlank c = false) : Line.isBreak c = false := by
  simp_all [isBlank,Line.isBreak]

/-- A text that is turned down gets one label and no note. The label covers the one character that is in
the way. At the end of the text it is empty, in front of the carriage returns there, and for a blank text
it starts at the first byte. -/
theorem diagnostic_of_rejected (limit : Limit) (source : Source) (rejection : Rejection)
    (h : parse limit source.text = .error rejection) :
    ∃ label : Label, (source.diagnostic rejection.failure).labels = [label] ∧
      (source.diagnostic rejection.failure).notes = [] ∧
      (rejection.cause = .badToken ∨ rejection.cause = .nesting →
        ∃ (before : List Char) (c : Char) (rest : List Char), source.chars = before ++ c :: rest ∧
          rejection.position = Position.first.past before ∧
          label.start = byteLength before ∧ label.stop = byteLength before + c.utf8Size) ∧
      (rejection.cause = .endOfInput → rejection.position = Position.first.past source.chars ∧
        label.start = byteLength (source.chars.rdropWhile (· = '\r')) ∧ label.stop = label.start) ∧
      (rejection.cause = .emptyInput → label.start = 0) := by
  rcases Grammar.parseText_error_cases h with
    ⟨-,rfl⟩ | ⟨-,rfl⟩ | ⟨before,c,rest,deep,hsource,hobs,hrejection⟩
  · obtain ⟨stop,hspan⟩ := source.span_of_first
    obtain ⟨label,hlabels,hnotes,hstart,-⟩ :=
      Source.diagnostic_of_span (Rejection.failure ⟨.emptyInput,.first⟩) hspan
    exact ⟨label,hlabels,hnotes,by simp,by simp,fun _ => hstart⟩
  · obtain ⟨label,hlabels,hnotes,hstart,hstop⟩ :=
      Source.diagnostic_of_span (Rejection.failure ⟨.endOfInput,Position.first.past source.chars⟩)
        source.span_of_end
    exact ⟨label,hlabels,hnotes,by simp,fun _ => ⟨rfl,hstart,hstop.trans hstart.symm⟩,by simp⟩
  · have hp : rejection.position = Position.first.past before := by rw [hrejection]
    have hspan := Source.span_of_char hsource (isBreak_of_not_isBlank hobs.head_solid)
    rw [← hp] at hspan
    obtain ⟨label,hlabels,hnotes,hstart,hstop⟩ := Source.diagnostic_of_span rejection.failure hspan
    refine ⟨label,hlabels,hnotes,fun _ => ⟨before,c,rest,hsource,hp,hstart,hstop⟩,?_,?_⟩
    · cases deep <;> simp [hrejection]
    · cases deep <;> simp [hrejection]

/-- A character of two bytes in the second line. -/
theorem diagnostic_of_rejected_second_line :
    parse .standard "1 +\r\n é" = .error ⟨.badToken,⟨2,2⟩⟩ ∧
    ∃ label : Label,
      (Source.diagnostic ⟨"input","1 +\r\n é"⟩ (Rejection.failure ⟨.badToken,⟨2,2⟩⟩)).labels = [label] ∧
      ∃ (before : List Char) (c : Char) (rest : List Char), "1 +\r\n é".toList = before ++ c :: rest ∧
        ⟨2,2⟩ = Position.first.past before ∧
        label.start = byteLength before ∧ label.stop = byteLength before + c.utf8Size := by
  have hbad : parse .standard "1 +\r\n é" = .error ⟨.badToken,⟨2,2⟩⟩ := by decide +kernel
  obtain ⟨label,hlabels,-,hchar,-⟩ := diagnostic_of_rejected .standard ⟨"input","1 +\r\n é"⟩ _ hbad
  exact ⟨hbad,label,hlabels,hchar (Or.inl rfl)⟩

end Formula
