import Formula.Proofs.Drawing
import Formula.Proofs.Layout

/-! Line endings do not matter. A carriage return in front of every line feed is one more blank at the
end of a line: it takes a column there, but no other character moves, and it is not drawn. -/
namespace Formula
open Grammar

/-- The text with a carriage return put in front of every line feed. -/
def withReturns (text : List Char) : List Char :=
  text.flatMap fun c => if c = '\n' then ['\r','\n'] else [c]

@[simp] theorem withReturns_nil : withReturns [] = [] := rfl

@[simp] theorem withReturns_append (a b : List Char) : withReturns (a ++ b) = withReturns a ++ withReturns b :=
  List.flatMap_append

lemma withReturns_cons {c : Char} (hc : c ≠ '\n') (text : List Char) :
    withReturns (c :: text) = c :: withReturns text := by
  simp [withReturns,hc]

lemma withReturns_cons_feed (text : List Char) :
    withReturns ('\n' :: text) = '\r' :: '\n' :: withReturns text := rfl

lemma withReturns_plain {text : List Char} (h : '\n' ∉ text) : withReturns text = text := by
  induction text with
  | nil => rfl
  | cons c text ih =>
    simp only [List.mem_cons,not_or] at h
    rw [withReturns_cons (Ne.symm h.1),ih h.2]

section Reading

@[simp] theorem solids_withReturns (text : List Char) : solids (withReturns text) = solids text := by
  induction text with
  | nil => rfl
  | cons c text ih =>
    by_cases hc : c = '\n'
    · subst hc
      rw [withReturns_cons_feed]
      simpa [solids,isBlank] using ih
    · rw [withReturns_cons hc]
      simp only [solids,List.filter_cons] at ih ⊢
      rw [ih]

/-- What follows a text stands where it stood: the column that a carriage return takes is lost again with
the line feed behind it. -/
@[simp] theorem past_withReturns (p : Position) (text : List Char) : p.past (withReturns text) = p.past text := by
  induction text generalizing p with
  | nil => rfl
  | cons c text ih =>
    by_cases hc : c = '\n'
    · subst hc
      rw [withReturns_cons_feed,Position.past_cons,Position.past_cons,Position.past_cons,ih]
      rfl
    · rw [withReturns_cons hc,Position.past_cons,Position.past_cons,ih]

lemma ne_feed_of_solid {c : Char} (hc : isBlank c = false) : c ≠ '\n' := by
  rintro rfl
  cases hc

def Grammar.Gap.withReturns (gap : Gap) : Gap where
  chars := Formula.withReturns gap.chars
  blank c hc := by
    have hs : solids (Formula.withReturns gap.chars) = [] := by simp
    simpa using (List.filter_eq_nil_iff.mp hs) c hc

lemma withReturns_eq_nil {text : List Char} : withReturns text = [] ↔ text = [] := by
  refine ⟨?_,by rintro rfl; rfl⟩
  cases text with
  | nil => simp
  | cons c text =>
    by_cases hc : c = '\n'
    · simp [hc,withReturns_cons_feed]
    · simp [withReturns_cons hc]

/-- Carriage returns stand only where there are blanks already. -/
theorem respaced_withReturns (inside : Bool) (text : List Char) : Respaced inside text (withReturns text) := by
  -- By the length of the text: one step goes over a gap and the character behind it.
  generalize hn : text.length = n
  induction n using Nat.strongRecOn generalizing inside text with
  | ind n ih =>
    obtain ⟨gap,rest,rfl,hs⟩ := exists_gap text
    cases rest with
    | nil =>
      rw [List.append_nil]
      exact .blank gap gap.withReturns
    | cons c rest =>
      have hc := startsWithout_cons.mp hs
      simp only [List.length_append,List.length_cons] at hn
      rw [withReturns_append,withReturns_cons (ne_feed_of_solid hc)]
      refine .solid gap gap.withReturns (fun _ => withReturns_eq_nil.symm) hc ?_
      exact ih rest.length (by omega) true rest rfl

/-- A character that is no blank has the position it had. -/
lemma SamePlace.eq_of_withReturns {text : List Char} {p q : Position}
    (h : SamePlace text (withReturns text) p q) : p = q := by
  obtain ⟨c,front,rest,front',rest',rfl,htext,hc,hs,rfl,rfl⟩ := h
  rw [withReturns_append,withReturns_cons (ne_feed_of_solid hc)] at htext
  rw [← front_unique hc htext (by rw [solids_withReturns,hs]),past_withReturns]

lemma Expr.Moved.eq {moves : Position → Position → Prop} (hmoves : ∀ {p q}, moves p q → p = q) {s t : Expr}
    (h : s.Moved moves t) : s = t := by
  induction h with
  | number value h => rw [hmoves h]
  | identifier name h => rw [hmoves h]
  | negate operand h ih => rw [ih,hmoves h]
  | binary operator left right h ihl ihr => rw [ihl,ihr,hmoves h]

lemma SameOutcome.eq_of_withReturns {text : List Char} {x y : Except Rejection Expr}
    (h : SameOutcome text (withReturns text) x y) : x = y := by
  match x,y,h with
  | .ok s,.ok t,h =>
    have htree : s = t := Expr.Moved.eq SamePlace.eq_of_withReturns h
    rw [htree]
  | .error ⟨cause,p⟩,.error ⟨cause',q⟩,⟨hcause,hplace⟩ =>
    obtain rfl : cause = cause' := hcause
    have hposition : p = q := by
      cases cause with
      | emptyInput => exact hplace.2.2.1.trans hplace.2.2.2.symm
      | endOfInput => exact hplace.1.trans (hplace.2.trans (past_withReturns _ _)).symm
      | badToken => exact SamePlace.eq_of_withReturns hplace
      | nesting => exact SamePlace.eq_of_withReturns hplace
    rw [hposition]

/-- A text is read as before, every position included. -/
theorem parseText_withReturns (limit : Limit) (text : List Char) :
    parseText limit (withReturns text) = parseText limit text :=
  (SameOutcome.eq_of_withReturns (parseText_respaced limit (respaced_withReturns false text))).symm

end Reading

section Drawing

def Row.withReturn (row : Row) : Row := row.push '\r' (by decide)

lemma Row.withReturns_ended (row : Row) : withReturns row.ended = row.withReturn.ended := by
  rw [ended,withReturns_append,withReturns_plain row.plain]
  simp [ended,withReturn,push,withReturns_cons_feed]

/-- A carriage return goes to the end of every row that has a line feed. -/
lemma Page.withReturns_text (page : Page) :
    withReturns page.text = (Page.mk (page.rows.map Row.withReturn) page.last).text := by
  obtain ⟨rows,last⟩ := page
  simp only [text,front,withReturns_append,withReturns_plain last.plain,List.append_cancel_right_eq]
  induction rows with
  | nil => rfl
  | cons row rows ih => simp [Row.withReturns_ended,ih]

lemma map_content_placeLines (start : Nat) (pieces : List (List Char)) :
    (placeLines start pieces).map Line.content = pieces.map (List.rdropWhile Line.isBreak) := by
  induction pieces generalizing start with
  | nil => rfl
  | cons piece pieces ih => simp [placeLines,ih,Line.content_eq]

lemma Row.content_withReturn (row : Row) :
    row.withReturn.ended.rdropWhile Line.isBreak = row.ended.rdropWhile Line.isBreak := by
  simp only [ended,withReturn,push]
  rw [List.rdropWhile_concat_pos _ _ _ (by decide),List.rdropWhile_concat_pos _ _ _ (by decide),
    List.rdropWhile_concat_pos _ _ _ (by decide)]

/-- Lines have the contents they had. -/
theorem contents_withReturns (text : List Char) :
    (lines (withReturns text)).map Line.content = (lines text).map Line.content := by
  obtain ⟨page,rfl⟩ := Page.exists_page text
  rw [page.withReturns_text,lines,lines,map_content_placeLines,map_content_placeLines,splitLines_text,
    splitLines_text]
  simp [Row.content_withReturn]

end Drawing

/-- With a carriage return in front of every line feed, a text is read with the same result, and every
failure is drawn over it as before. -/
theorem parse_withReturns (source : String) :
    (∀ limit, parse limit (String.ofList (withReturns source.toList)) = parse limit source) ∧
    ∀ name colored failure, Source.render ⟨name,String.ofList (withReturns source.toList)⟩ colored failure =
      Source.render ⟨name,source⟩ colored failure := by
  constructor
  · intro limit
    rw [parse,String.toList_ofList,parseText_withReturns,parse]
  · intro name colored failure
    have hsheet : Source.sheet ⟨name,String.ofList (withReturns source.toList)⟩ failure =
        Source.sheet ⟨name,source⟩ failure := by
      refine Source.sheet_of_contents ?_ ?_ failure
      · rfl
      · simp only [Source.chars,String.toList_ofList,contents_withReturns]
    rw [Source.render,hsheet,Source.render]

end Formula
