import Formula.Proofs.Reports
import Formula.Proofs.Spans

/-! Which failures are pinned to their text. A front hands on what an engine says of a failure, with zero for
every coordinate that is missing; the diagnostic then has a label, or a note instead. The line alone decides
which of the two: a missing column is taken for the first one, though the position is not known. -/
namespace Formula

/-- The text has a line of this number. -/
def HasLine (text : List Char) (number : Nat) : Prop := number ≠ 0 ∧ number ≤ 1 + text.count '\n'

namespace Diagnostic

/-- One label, and no note. -/
def Pinned (diagnostic : Diagnostic) : Prop :=
  (∃ label, diagnostic.labels = [label]) ∧ diagnostic.notes = []

/-- No label, and one note. -/
def Unpinned (diagnostic : Diagnostic) : Prop :=
  diagnostic.labels = [] ∧ ∃ note, diagnostic.notes = [note]

lemma Pinned.not_unpinned {diagnostic : Diagnostic} (h : diagnostic.Pinned) : ¬diagnostic.Unpinned := by
  rintro ⟨hlabels,-⟩
  obtain ⟨⟨label,hlabel⟩,-⟩ := h
  simp [hlabel] at hlabels

/-- The diagnostic is pinned if both coordinates of the position are known and the text has the line, and
has its note else. -/
def Follows (diagnostic : Diagnostic) (text : List Char) (position : Position) : Prop :=
  (position.isKnown = true ∧ HasLine text position.line → diagnostic.Pinned) ∧
    (¬(position.isKnown = true ∧ HasLine text position.line) → diagnostic.Unpinned)

end Diagnostic

namespace Source

variable {source : Source} {failure : Failure}

lemma pinned_of_hasLine (h : HasLine source.chars failure.position.line) :
    (source.diagnostic failure).Pinned := by
  cases hspan : source.span failure.position with
  | none =>
    have hnone := (source.span_eq_none_iff failure.position).mp hspan
    unfold HasLine at h
    omega
  | some range =>
    obtain ⟨label,hlabels,hnotes,-⟩ := diagnostic_of_span failure hspan
    exact ⟨⟨label,hlabels⟩,hnotes⟩

lemma unpinned_of_not_hasLine (h : ¬HasLine source.chars failure.position.line) :
    (source.diagnostic failure).Unpinned := by
  have hspan : source.span failure.position = none := by
    rw [span_eq_none_iff]
    unfold HasLine at h
    omega
  rw [diagnostic,hspan]
  exact ⟨rfl,_,rfl⟩

/-- A diagnostic is pinned exactly where the text has the line. -/
theorem pinned_iff : (source.diagnostic failure).Pinned ↔ HasLine source.chars failure.position.line := by
  refine ⟨fun h => ?_,pinned_of_hasLine⟩
  by_contra hline
  exact h.not_unpinned (unpinned_of_not_hasLine hline)

theorem unpinned_iff : (source.diagnostic failure).Unpinned ↔ ¬HasLine source.chars failure.position.line :=
  ⟨fun h hline => (pinned_of_hasLine hline).not_unpinned h,unpinned_of_not_hasLine⟩

/-- Only a line of the text whose column is not known makes the difference. -/
theorem follows_iff : (source.diagnostic failure).Follows source.chars failure.position ↔
    (HasLine source.chars failure.position.line → failure.position.column ≠ 0) := by
  rw [Diagnostic.Follows,pinned_iff,unpinned_iff]
  simp only [Position.isKnown,HasLine,Bool.and_eq_true,bne_iff_ne]
  tauto

end Source

namespace Front

variable {τ : Type}

/-- A front whose reporters keep the diagnostics over the text that they were opened for. -/
def diagnosing (name : String) (answer : String → Answer τ) : Front (StateM (List Diagnostic)) τ :=
  ⟨fun source => pure (answer source),
    fun source => pure fun failure => modify (· ++ [Source.diagnostic ⟨name,source⟩ failure])⟩

lemma run_diagnosing {answer : String → Answer τ} {text : String} {complaint : Complaint}
    (h : answer text = .failed complaint) (name : String) (kept : List Diagnostic) :
    ((diagnosing name answer).parse text).run kept =
      (none,kept ++ [Source.diagnostic ⟨name,text⟩ (.ofComplaint complaint)]) := by
  simp only [diagnosing,parse,pure_bind,h,Answer.result]
  rfl

end Front

/-- The line that a complaint names is in the text. -/
lemma Complaint.hasLine_iff (complaint : Complaint) (text : List Char) :
    HasLine text (Failure.ofComplaint complaint).position.line ↔ ∃ line ∈ complaint.line, HasLine text line := by
  obtain ⟨message,line,column⟩ := complaint
  cases line <;> simp [Failure.ofComplaint,HasLine]

lemma Complaint.column_ne_zero_iff (complaint : Complaint) :
    (Failure.ofComplaint complaint).position.column ≠ 0 ↔ ∃ column ∈ complaint.column, column ≠ 0 := by
  obtain ⟨message,line,column⟩ := complaint
  cases column <;> simp [Failure.ofComplaint]

/-- A failure of an engine makes one diagnostic. It is pinned if the engine has named a line of the text, and
has a note else. So it follows what is known of the position, except where such a line comes without a
column. -/
theorem diagnostic_of_failed {τ : Type} (name : String) (answer : String → Answer τ) (text : String)
    (complaint : Complaint) (h : answer text = .failed complaint) (kept : List Diagnostic) :
    ∃ diagnostic : Diagnostic,
      ((Front.diagnosing name answer).parse text).run kept = (none,kept ++ [diagnostic]) ∧
      (diagnostic.Pinned ↔ ∃ line ∈ complaint.line, HasLine text.toList line) ∧
      (diagnostic.Unpinned ↔ ¬∃ line ∈ complaint.line, HasLine text.toList line) ∧
      (diagnostic.Follows text.toList (Failure.ofComplaint complaint).position ↔
        ((∃ line ∈ complaint.line, HasLine text.toList line) → ∃ column ∈ complaint.column, column ≠ 0)) := by
  refine ⟨_,Front.run_diagnosing h name kept,?_,?_,?_⟩
  · rw [Source.pinned_iff]
    exact complaint.hasLine_iff text.toList
  · rw [Source.unpinned_iff]
    exact not_congr (complaint.hasLine_iff text.toList)
  · rw [← complaint.hasLine_iff,← complaint.column_ne_zero_iff]
    exact Source.follows_iff

/-- A whole position. -/
theorem diagnostic_of_failed_whole : ∃ diagnostic : Diagnostic,
    ((Front.diagnosing "<input>" fun _ => (.failed ⟨"unexpected token",some 1,some 5⟩ : Answer Nat)).parse
      "1 + )").run [] = (none,[diagnostic]) ∧ diagnostic.Pinned ∧
    diagnostic.Follows "1 + )".toList ⟨1,5⟩ := by
  obtain ⟨diagnostic,hrun,hpinned,-,hfollows⟩ := diagnostic_of_failed "<input>"
    (fun _ => (.failed ⟨"unexpected token",some 1,some 5⟩ : Answer Nat)) "1 + )" _ rfl []
  exact ⟨diagnostic,hrun,hpinned.mpr ⟨1,rfl,by decide,by decide⟩,hfollows.mpr fun _ => ⟨5,rfl,by decide⟩⟩

/-- Only the line is known, and there is a label all the same, in a column zero. -/
theorem label_without_column : ∃ diagnostic : Diagnostic,
    ((Front.diagnosing "<input>" fun _ => (.failed ⟨"half a position",some 1,none⟩ : Answer Nat)).parse
      "l1").run [] = (none,[diagnostic]) ∧
    diagnostic.labels = [⟨0,1,"line 1, column 0"⟩] ∧ diagnostic.notes = [] ∧
    ¬diagnostic.Follows "l1".toList (Failure.ofComplaint ⟨"half a position",some 1,none⟩).position := by
  refine ⟨_,rfl,by decide +kernel,by decide +kernel,?_⟩
  intro h
  have hunpinned := h.2 fun hknown => absurd hknown.1 (by decide)
  exact absurd hunpinned.1 (by decide +kernel)

end Formula
