import Formula.Proofs.ExitStatus
import Formula.Proofs.Lines

/-! Settings of presentation change nothing but the presentation. What is drawn in color is, its escape
sequences apart, what is drawn without, and the form in which trees are shown has no say in anything else. -/
namespace Formula

/-- The character that starts an escape sequence. -/
def escape : Char := '\x1b'

/-- A character between the bracket and the letter of an escape sequence. -/
def isParameter (c : Char) : Bool := c.isDigit || c = ';'

/-- What stands behind the escape sequence that a text starts with, if it does. -/
def behindSequence? : List Char → Option (List Char)
  | first :: '[' :: rest =>
    if first = escape then
      match rest.dropWhile isParameter with
      | 'm' :: tail => some tail
      | _ => none
    else none
  | _ => none

lemma length_lt_of_behindSequence? {text tail : List Char} (h : behindSequence? text = some tail) :
    tail.length < text.length := by
  unfold behindSequence? at h
  split at h
  · next first rest =>
    split at h
    · split at h
      · next tail' hdrop =>
        have hle := (List.dropWhile_suffix isParameter (l := rest)).length_le
        cases h
        rw [hdrop] at hle
        simp only [List.length_cons] at hle ⊢
        omega
      · cases h
    · cases h
  · cases h

/-- The text with all escape sequences deleted. -/
def withoutSequences : List Char → List Char
  | [] => []
  | c :: rest =>
    match _h : behindSequence? (c :: rest) with
    | some tail => withoutSequences tail
    | none => c :: withoutSequences rest
termination_by text => text.length
decreasing_by
  · exact length_lt_of_behindSequence? _h
  · simp

section Sequences

lemma behindSequence?_cons {c : Char} (hc : c ≠ escape) (rest : List Char) :
    behindSequence? (c :: rest) = none := by
  unfold behindSequence?
  split
  · next first tail heq =>
    cases heq
    rw [if_neg hc]
  · rfl

lemma withoutSequences_cons {c : Char} (hc : c ≠ escape) (rest : List Char) :
    withoutSequences (c :: rest) = c :: withoutSequences rest := by
  rw [withoutSequences]
  split
  · next tail h =>
    rw [behindSequence?_cons hc] at h
    cases h
  · rfl

/-- Text without an escape character stays as it is. -/
lemma withoutSequences_append {text : List Char} (h : escape ∉ text) (rest : List Char) :
    withoutSequences (text ++ rest) = text ++ withoutSequences rest := by
  induction text with
  | nil => rfl
  | cons c text ih =>
    simp only [List.mem_cons,not_or] at h
    rw [List.cons_append,withoutSequences_cons (Ne.symm h.1),ih h.2,List.cons_append]

/-- A sequence in front of a text is deleted. -/
lemma withoutSequences_sequence (parameters : List Char) (h : parameters.all isParameter = true)
    (rest : List Char) :
    withoutSequences (escape :: '[' :: (parameters ++ 'm' :: rest)) = withoutSequences rest := by
  have hdrop : (parameters ++ 'm' :: rest).dropWhile isParameter = 'm' :: rest := by
    rw [List.dropWhile_append_of_pos (List.all_eq_true.mp h),List.dropWhile_cons_of_neg (by decide)]
  have hbehind : behindSequence? (escape :: '[' :: (parameters ++ 'm' :: rest)) = some rest := by
    simp [behindSequence?,hdrop]
  rw [withoutSequences]
  split
  · next tail htail =>
    rw [hbehind,Option.some.injEq] at htail
    rw [htail]
  · next hnone =>
    rw [hbehind] at hnone
    cases hnone

lemma withoutSequences_reset (rest : List Char) :
    withoutSequences (resetCode.toList ++ rest) = withoutSequences rest :=
  withoutSequences_sequence ['0'] (by decide) rest

/-- Every ink is taken up by sequences. -/
lemma withoutSequences_code (ink : Ink) (rest : List Char) :
    withoutSequences (ink.code.toList ++ rest) = withoutSequences rest := by
  have bold := withoutSequences_sequence ['1'] (by decide)
  cases ink with
  | header =>
    have red := withoutSequences_sequence "38;5;9".toList (by decide) rest
    rw [Ink.code,String.toList_append,List.append_assoc,withoutSequences_reset]
    exact (bold _).trans red
  | message =>
    rw [Ink.code,String.toList_append,List.append_assoc,withoutSequences_reset]
    exact bold rest
  | border =>
    rw [Ink.code,String.toList_append,List.append_assoc,withoutSequences_reset]
    exact withoutSequences_sequence ['3','4'] (by decide) rest
  | mark =>
    rw [Ink.code,String.toList_append,List.append_assoc,withoutSequences_reset]
    exact withoutSequences_sequence ['3','1'] (by decide) rest

end Sequences

/-- The text has no escape character. -/
def Unescaped (text : String) : Prop := escape ∉ text.toList

instance (text : String) : Decidable (Unescaped text) := inferInstanceAs (Decidable (escape ∉ text.toList))

@[simp] theorem unescaped_append {a b : String} : Unescaped (a ++ b) ↔ Unescaped a ∧ Unescaped b := by
  simp [Unescaped]

lemma unescaped_toString (n : Nat) : Unescaped (toString n) := by
  intro h
  rw [Nat.toString_eq_repr,Nat.toList_repr] at h
  exact absurd (Nat.isDigit_of_mem_toDigits (by decide) (by decide) h) (by decide)

lemma unescaped_pushn {c : Char} (hc : c ≠ escape) (n : Nat) : Unescaped ("".pushn c n) := by
  induction n with
  | zero => simp [Unescaped,String.pushn,Nat.repeat]
  | succ n ih =>
    have hpush : "".pushn c (n+1) = ("".pushn c n).push c := rfl
    rw [Unescaped,hpush,String.toList_push,List.mem_append,not_or]
    exact ⟨ih,by simpa using Ne.symm hc⟩

/-- The stroke writes no escape character. -/
def Stroke.Unescaped : Stroke → Prop
  | write text => Formula.Unescaped text
  | dip _ => True
  | wipe => True

namespace Sheet

/-- Nothing on the sheet is written with an escape character. -/
def Unescaped (sheet : Sheet) : Prop := ∀ stroke ∈ sheet, stroke.Unescaped

@[simp] theorem unescaped_nil : Unescaped [] := by simp [Unescaped]

@[simp] theorem unescaped_cons {stroke : Stroke} {sheet : Sheet} :
    Unescaped (stroke :: sheet) ↔ stroke.Unescaped ∧ Unescaped sheet := by simp [Unescaped]

@[simp] theorem unescaped_sheet_append {a b : Sheet} : Unescaped (a ++ b) ↔ Unescaped a ∧ Unescaped b := by
  simp only [Unescaped,List.mem_append]
  constructor
  · intro h
    exact ⟨fun s hs => h s (Or.inl hs),fun s hs => h s (Or.inr hs)⟩
  · rintro ⟨ha,hb⟩ s (hs | hs)
    · exact ha s hs
    · exact hb s hs

@[simp] theorem unescaped_inInk {ink : Ink} {text : String} :
    Unescaped (inInk ink text) ↔ Formula.Unescaped text := by
  simp [inInk,Stroke.Unescaped]

lemma unescaped_shade {marked : Bool} {cells : List (String × Bool)}
    (h : ∀ cell ∈ cells, Formula.Unescaped cell.1) : Unescaped (shade marked cells) := by
  induction cells generalizing marked with
  | nil => cases marked <;> simp [shade,Stroke.Unescaped]
  | cons cell cells ih =>
    obtain ⟨text,inked⟩ := cell
    have htext := h (text,inked) (by simp)
    have hmore (marked : Bool) : Unescaped (shade marked cells) :=
      ih fun cell hcell => h cell (by simp [hcell])
    cases inked <;> cases marked <;> simp [shade,Stroke.Unescaped,htext,hmore]

/-- Without its sequences, a sheet in color or not is the sheet without color. -/
theorem withoutSequences_shown {sheet : Sheet} (h : sheet.Unescaped) (colored : Bool) :
    withoutSequences (sheet.shown colored).toList = (sheet.shown false).toList := by
  induction sheet with
  | nil => simp [shown,withoutSequences]
  | cons stroke sheet ih =>
    obtain ⟨hstroke,hsheet⟩ := unescaped_cons.mp h
    have split (colored : Bool) : (shown colored (stroke :: sheet)).toList =
        (stroke.shown colored).toList ++ (shown colored sheet).toList := by
      rw [shown,List.map_cons,String.join_cons,String.toList_append,shown]
    rw [split,split,← ih hsheet]
    cases stroke with
    | write text => exact withoutSequences_append hstroke _
    | dip ink =>
      cases colored with
      | true => exact withoutSequences_code ink _
      | false => rfl
    | wipe =>
      cases colored with
      | true => exact withoutSequences_reset _
      | false => rfl

end Sheet

section Drawing

/-- A line has no other characters than its text. -/
lemma mem_of_mem_line {text : List Char} {line : Line} (h : line ∈ lines text) {c : Char}
    (hc : c ∈ line.text) : c ∈ text := by
  obtain ⟨i,hi⟩ := List.mem_iff_getElem?.mp h
  obtain ⟨front,back,htext,-,-⟩ := exists_of_line hi
  rw [htext]
  simp [hc]

lemma mem_of_mem_lineAt {text : List Char} {offset : Nat} {c : Char} (hc : c ∈ (lineAt text offset).2.text) :
    c ∈ text := by
  unfold lineAt at hc
  cases hlast : ((lines text).takeWhile (·.start ≤ offset)).getLast? with
  | none => simpa [hlast] using hc
  | some line =>
    have hline : line ∈ lines text :=
      (List.takeWhile_prefix _).subset (List.mem_of_getLast? hlast)
    exact mem_of_mem_line hline (by simpa [hlast] using hc)

namespace Diagnostic

lemma mem_of_mem_drawnText {text : List Char} {c : Char} (h : c ∈ drawnText text) : c ∈ text := by
  unfold drawnText at h
  rw [List.mem_reverse] at h
  exact List.mem_reverse.mp ((List.dropWhile_suffix _).subset h)

lemma char_mem_of_mem_cellsFrom {start column : Nat} {text : List Char} {cell : Cell}
    (h : cell ∈ cellsFrom start (withWidths column text)) : cell.char ∈ text := by
  induction text generalizing start column with
  | nil => simp [withWidths,cellsFrom] at h
  | cons c text ih =>
    simp only [withWidths,cellsFrom,List.mem_cons] at h
    rcases h with rfl | h
    · simp
    · exact List.mem_cons_of_mem c (ih h)

namespace Cell

lemma unescaped_drawn {cell : Cell} (h : cell.char ≠ escape) : Unescaped cell.drawn := by
  unfold drawn
  split
  · exact unescaped_pushn (by decide) _
  · simpa [Unescaped] using Ne.symm h

lemma unescaped_caret (cell : Cell) (first last : Nat) : Unescaped (cell.caret first last) := by
  unfold caret
  split
  · exact unescaped_pushn (by decide) _
  · split
    · exact unescaped_pushn (by decide) _
    · simp [Unescaped]

end Cell

lemma unescaped_snippet {line : Line} (h : escape ∉ line.text) (label : Label) :
    (snippet line label).1.Unescaped ∧ (snippet line label).2.Unescaped := by
  constructor
  · apply Sheet.unescaped_shade
    intro cell hcell
    obtain ⟨source,hsource,rfl⟩ := List.mem_map.mp hcell
    apply Cell.unescaped_drawn
    rintro hescape
    exact h (mem_of_mem_drawnText (hescape ▸ char_mem_of_mem_cellsFrom hsource))
  · apply Sheet.unescaped_shade
    intro cell hcell
    obtain ⟨source,-,rfl⟩ := List.mem_map.mp hcell
    exact source.unescaped_caret _ _

lemma unescaped_labelRows {source : Source} (hname : Unescaped source.name) (htext : Unescaped source.text)
    {label : Label} (hlabel : Unescaped label.message) : (labelRows source label).Unescaped := by
  have hline : escape ∉ (lineAt source.chars label.start).2.text := fun h => htext (mem_of_mem_lineAt h)
  obtain ⟨hdrawn,hcarets⟩ := unescaped_snippet hline label
  have hblanks (n : Nat) : Unescaped (Cell.blanks n) := unescaped_pushn (by decide) n
  have hfixed : Unescaped "┌─" ∧ Unescaped "│" ∧ Unescaped "\n" ∧ Unescaped " " ∧ Unescaped ":" := by decide
  obtain ⟨hcorner,hbar,hfeed,hspace,hcolon⟩ := hfixed
  unfold labelRows
  simp only [Sheet.unescaped_inInk,Sheet.unescaped_sheet_append,Sheet.unescaped_cons,Sheet.unescaped_nil,
    Stroke.Unescaped,unescaped_append,unescaped_toString,hname,hlabel,hdrawn,hcarets,hblanks,hcorner,hbar,
    hfeed,hspace,hcolon,and_self]

lemma unescaped_noteRow {note : String} (h : Unescaped note) : (noteRow note).Unescaped := by
  have hfixed : Unescaped "=" ∧ Unescaped "\n" ∧ Unescaped " " := by decide
  simp only [noteRow,Sheet.unescaped_inInk,Sheet.unescaped_sheet_append,Sheet.unescaped_cons,Sheet.unescaped_nil,
    Stroke.Unescaped,unescaped_append,h,hfixed,and_self]

lemma unescaped_headline {diagnostic : Diagnostic} (h : Unescaped diagnostic.message) :
    diagnostic.headline.Unescaped := by
  have hfixed : Unescaped severity ∧ Unescaped "[" ∧ Unescaped code ∧ Unescaped "]" ∧ Unescaped ": " ∧
      Unescaped "\n" := by decide
  simp only [headline,Sheet.unescaped_cons,Sheet.unescaped_nil,Stroke.Unescaped,unescaped_append,h,hfixed,
    and_self]

lemma unescaped_draw {source : Source} (hname : Unescaped source.name) (htext : Unescaped source.text)
    {diagnostic : Diagnostic} (hmessage : Unescaped diagnostic.message)
    (hlabels : ∀ label ∈ diagnostic.labels, Unescaped label.message)
    (hnotes : ∀ note ∈ diagnostic.notes, Unescaped note) : (diagnostic.draw source).Unescaped := by
  have hrows : Sheet.Unescaped (diagnostic.labels.flatMap (labelRows source)) := by
    intro stroke hstroke
    obtain ⟨label,hlabel,hmem⟩ := List.mem_flatMap.mp hstroke
    exact unescaped_labelRows hname htext (hlabels label hlabel) stroke hmem
  have hremarks : Sheet.Unescaped (diagnostic.notes.flatMap noteRow) := by
    intro stroke hstroke
    obtain ⟨note,hnote,hmem⟩ := List.mem_flatMap.mp hstroke
    exact unescaped_noteRow (hnotes note hnote) stroke hmem
  have hend : Unescaped "\n" := by decide
  simp only [draw,Sheet.unescaped_sheet_append,Sheet.unescaped_cons,Sheet.unescaped_nil,Stroke.Unescaped,
    unescaped_headline hmessage,hrows,hremarks,hend,and_self]

end Diagnostic

namespace Source

variable (source : Source) (failure : Failure)

/-- A drawing has the escape characters of the text, its name and the message, and no others. -/
theorem unescaped_sheet (hname : Unescaped source.name) (htext : Unescaped source.text)
    (hmessage : Unescaped failure.message) : (source.sheet failure).Unescaped := by
  unfold sheet diagnostic
  split
  · have hwords : Unescaped "line " ∧ Unescaped ", column " := by decide
    apply Diagnostic.unescaped_draw hname htext
    · exact hmessage
    · simp only [List.mem_singleton,forall_eq,unescaped_append,unescaped_toString,hwords,and_self]
    · simp
  · apply Diagnostic.unescaped_draw hname htext
    · exact hmessage
    · simp
    · simp only [List.mem_singleton,forall_eq]
      decide

/-- Without its sequences, a failure drawn in color or not is the failure drawn without. -/
theorem withoutSequences_render (hname : Unescaped source.name) (htext : Unescaped source.text)
    (hmessage : Unescaped failure.message) (colored : Bool) :
    withoutSequences (source.render colored failure).toList = (source.render false failure).toList :=
  Sheet.withoutSequences_shown (unescaped_sheet source failure hname htext hmessage) colored

end Source
end Drawing

lemma Cause.unescaped_message (cause : Cause) : Unescaped cause.message := by
  cases cause <;> decide

lemma bytesOf_injective {a b : String} (h : bytesOf a = bytesOf b) : a = b := by
  have ha : readText (bytesOf a) = .ok a := readText_eq_ok_iff.mpr rfl
  rw [readText_eq_ok_iff.mpr h] at ha
  exact (Except.ok.inj ha).symm

section Shown

variable {limit : Limit} {s s' : Settings} {name text : String}

/-- Trees are shown by one setting. -/
lemma out_shown (h : s.isEnabled .debug = s'.isEnabled .debug) :
    (shown limit s name text).out = (shown limit s' name text).out := by
  unfold shown
  cases parse limit text with
  | ok tree => simp only [Expr.present,h]
  | error rejection => rfl

/-- Failures are shown by the other. -/
lemma err_shown (h : s.isEnabled .color = s'.isEnabled .color) :
    (shown limit s name text).err = (shown limit s' name text).err := by
  unfold shown
  cases parse limit text with
  | ok tree => rfl
  | error rejection => simp only [h]

lemma withoutSequences_err_shown (hname : Unescaped name) (htext : Unescaped text) :
    withoutSequences (shown limit s name text).err.toList =
      withoutSequences (shown limit s' name text).err.toList := by
  unfold shown
  cases parse limit text with
  | ok tree => rfl
  | error rejection =>
    have hplain (colored : Bool) :=
      Source.withoutSequences_render ⟨name,text⟩ rejection.failure hname htext
        rejection.cause.unescaped_message colored
    dsimp only
    rw [hplain,hplain]

/-- Nothing but a tree shows on standard output. -/
lemma exists_tree_of_out_ne (h : (shown limit s name text).out ≠ (shown limit s' name text).out) :
    ∃ tree, parse limit text = .ok tree := by
  unfold shown at h
  cases hparse : parse limit text with
  | ok tree => exact ⟨tree,rfl⟩
  | error rejection =>
    rw [hparse] at h
    exact absurd rfl h

end Shown

namespace Program

/-- An input holds a text, or it has a fault. -/
lemma text_or_fault (around : Surroundings) (input : String) :
    (∃ text, content around input = .ok (bytesOf text)) ∨
      ∃ fault, content around input >>= readText = .error fault := by
  by_cases h : ∃ text, content around input = .ok (bytesOf text)
  · exact Or.inl h
  · obtain ⟨fault,hfault,-⟩ := exists_fault (not_exists.mp h)
    exact Or.inr ⟨fault,hfault⟩

/-- Whether diagnostics are in color bears neither on the exit code nor on standard output, and on standard
error only through escape sequences. Whether trees are shown in outline bears neither on the exit code nor
on standard error, and on standard output only where there is a tree. -/
theorem exit_of_presentation (around : Surroundings) (maxDepth : Nat) (input : String) :
    (∀ debug noColor noColor' : Bool,
      (exit around ⟨noColor,debug,maxDepth,.parse input⟩).2 =
        (exit around ⟨noColor',debug,maxDepth,.parse input⟩).2 ∧
      (exit around ⟨noColor,debug,maxDepth,.parse input⟩).1.out =
        (exit around ⟨noColor',debug,maxDepth,.parse input⟩).1.out ∧
      (Unescaped (sourceName input) → (∀ text, content around input = .ok (bytesOf text) → Unescaped text) →
        withoutSequences (exit around ⟨noColor,debug,maxDepth,.parse input⟩).1.err.toList =
          withoutSequences (exit around ⟨noColor',debug,maxDepth,.parse input⟩).1.err.toList)) ∧
    ∀ noColor debug debug' : Bool,
      (exit around ⟨noColor,debug,maxDepth,.parse input⟩).2 =
        (exit around ⟨noColor,debug',maxDepth,.parse input⟩).2 ∧
      (exit around ⟨noColor,debug,maxDepth,.parse input⟩).1.err =
        (exit around ⟨noColor,debug',maxDepth,.parse input⟩).1.err ∧
      ((exit around ⟨noColor,debug,maxDepth,.parse input⟩).1.out ≠
        (exit around ⟨noColor,debug',maxDepth,.parse input⟩).1.out →
        ∃ text tree, content around input = .ok (bytesOf text) ∧
          Formula.parse (.ofRequest maxDepth) text = .ok tree) := by
  rcases text_or_fault around input with ⟨text,htext⟩ | ⟨fault,hfault⟩
  · constructor
    · intro debug noColor noColor'
      rw [exit_of_text htext,exit_of_text htext]
      refine ⟨rfl,out_shown rfl,?_⟩
      intro hname hsource
      exact withoutSequences_err_shown hname (hsource text htext)
    · intro noColor debug debug'
      rw [exit_of_text htext,exit_of_text htext]
      refine ⟨rfl,err_shown rfl,?_⟩
      intro hne
      obtain ⟨tree,htree⟩ := exists_tree_of_out_ne hne
      exact ⟨text,tree,htext,htree⟩
  · constructor
    · intro debug noColor noColor'
      rw [exit_of_fault hfault,exit_of_fault hfault]
      exact ⟨rfl,rfl,fun _ _ => rfl⟩
    · intro noColor debug debug'
      rw [exit_of_fault hfault,exit_of_fault hfault]
      exact ⟨rfl,rfl,fun h => absurd rfl h⟩

/-- Surroundings with a text on standard input and without files. -/
def typed (text : String) : Surroundings := ⟨.ok (bytesOf text),fun _ => .error .missing,.ok ()⟩

/-- An unfinished expression, in color and without, and a number, compact and in outline. -/
theorem exit_of_presentation_typed :
    withoutSequences (exit (typed "é +") ⟨false,false,64,.parse "-"⟩).1.err.toList =
      withoutSequences (exit (typed "é +") ⟨true,false,64,.parse "-"⟩).1.err.toList ∧
    (exit (typed "1") ⟨true,false,64,.parse "-"⟩).1.out ≠ (exit (typed "1") ⟨true,true,64,.parse "-"⟩).1.out ∧
    ∃ text tree, content (typed "1") "-" = .ok (bytesOf text) ∧
      Formula.parse (.ofRequest 64) text = .ok tree := by
  have hforms : (exit (typed "1") ⟨true,false,64,.parse "-"⟩).1.out ≠
      (exit (typed "1") ⟨true,true,64,.parse "-"⟩).1.out := by
    have hone : content (typed "1") "-" = .ok (bytesOf "1") := rfl
    rw [exit_of_text hone,exit_of_text hone]
    decide +kernel
  refine ⟨?_,hforms,((exit_of_presentation (typed "1") 64 "-").2 true false true).2.2 hforms⟩
  refine ((exit_of_presentation (typed "é +") 64 "-").1 false false true).2.2 (by decide) ?_
  intro text htext
  rw [← bytesOf_injective (Except.ok.inj htext)]
  decide

end Program
end Formula
