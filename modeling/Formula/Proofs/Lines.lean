import Mathlib.Data.List.DropRight
import Mathlib.Tactic.Common
import Formula.Text.Lines

/-! Texts row by row. The row and the column that characters are counted to lead back to the line they
stand in and to their byte. -/
namespace Formula

/-- What a line holds in front of its line feed. -/
@[ext] structure Row where
  chars : List Char
  plain : '\n' ∉ chars

namespace Row

def ended (row : Row) : List Char := row.chars ++ ['\n']

def empty : Row := ⟨[],by simp⟩

def push (row : Row) (c : Char) (h : c ≠ '\n') : Row :=
  ⟨row.chars ++ [c],by simpa using ⟨row.plain,fun hc => h hc.symm⟩⟩

end Row

/-- A text as its rows. All but the last end with a line feed. -/
structure Page where
  rows : List Row
  last : Row

namespace Page

/-- Everything in front of the last row. -/
def front (page : Page) : List Char := (page.rows.map Row.ended).flatten

def text (page : Page) : List Char := page.front ++ page.last.chars

/-- Every text has its rows: a line feed starts the next one, and all else goes on with the last. -/
theorem exists_page (text : List Char) : ∃ page : Page, page.text = text := by
  induction text using List.reverseRecOn with
  | nil => exact ⟨⟨[],.empty⟩,rfl⟩
  | append_singleton text c ih =>
    obtain ⟨⟨rows,last⟩,rfl⟩ := ih
    by_cases hc : c = '\n'
    · subst hc
      exact ⟨⟨rows ++ [last],.empty⟩,by simp [Page.text,front,Row.ended,Row.empty]⟩
    · exact ⟨⟨rows,last.push c hc⟩,by simp [Page.text,front,Row.push]⟩

lemma front_eq (page : Page) : page.front = [] ∨ ∃ text, page.front = text ++ ['\n'] := by
  obtain ⟨rows,last⟩ := page
  rcases List.eq_nil_or_concat rows with rfl | ⟨rows,row,rfl⟩
  · exact Or.inl rfl
  · exact Or.inr ⟨(rows.map Row.ended).flatten ++ row.chars,by simp [front,Row.ended]⟩

end Page

lemma Row.past_chars (row : Row) (p : Position) :
    p.past row.chars = ⟨p.line,p.column + row.chars.length⟩ := by
  obtain ⟨chars,plain⟩ := row
  induction chars generalizing p with
  | nil => rfl
  | cons c chars ih =>
    simp only [List.mem_cons,not_or] at plain
    rw [Position.past_cons,ih _ plain.2,Position.after,if_neg (Ne.symm plain.1)]
    simp only [List.length_cons,Position.mk.injEq,true_and]
    omega

@[simp] lemma Row.past_ended (row : Row) (p : Position) : p.past row.ended = ⟨p.line+1,1⟩ := by
  simp [ended,row.past_chars,Position.after]

lemma Page.past_front (page : Page) : Position.first.past page.front = ⟨page.rows.length+1,1⟩ := by
  have count (rows : List Row) (n : Nat) :
      Position.past ⟨n,1⟩ (rows.map Row.ended).flatten = ⟨n + rows.length,1⟩ := by
    induction rows generalizing n with
    | nil => rfl
    | cons row rows ih =>
      simp only [List.map_cons,List.flatten_cons,Position.past_append,Row.past_ended,ih,List.length_cons]
      congr 1
      omega
  rw [Nat.add_comm]
  exact count page.rows 1

/-- Line and column count rows, and characters of the last row. -/
theorem Page.past_text (page : Page) :
    Position.first.past page.text = ⟨page.rows.length+1,page.last.chars.length+1⟩ := by
  rw [text,Position.past_append,past_front,Row.past_chars,Nat.add_comm 1]

/-- The first line of a text, which there always is. -/
lemma exists_first_line (text : List Char) : ∃ piece more, splitLines text = piece :: more := by
  cases text with
  | nil => exact ⟨[],[],rfl⟩
  | cons c text =>
    simp only [splitLines,splitAfter]
    split
    · exact ⟨_,_,rfl⟩
    · split <;> exact ⟨_,_,rfl⟩

lemma splitLines_row (row : Row) {text piece : List Char} {more : List (List Char)}
    (h : splitLines text = piece :: more) :
    splitLines (row.chars ++ text) = (row.chars ++ piece) :: more := by
  obtain ⟨chars,plain⟩ := row
  induction chars with
  | nil => exact h
  | cons c chars ih =>
    simp only [List.mem_cons,not_or] at plain
    have hr := ih plain.2
    simp only [splitLines] at hr
    simp [splitLines,splitAfter,Ne.symm plain.1,hr]

lemma splitLines_ended (row : Row) (text : List Char) :
    splitLines (row.ended ++ text) = row.ended :: splitLines text := by
  have h : splitLines ('\n' :: text) = ['\n'] :: splitLines text := by simp [splitLines,splitAfter]
  simpa [Row.ended] using splitLines_row row h

lemma splitLines_front (page : Page) (text : List Char) :
    splitLines (page.front ++ text) = page.rows.map Row.ended ++ splitLines text := by
  obtain ⟨rows,last⟩ := page
  induction rows with
  | nil => rfl
  | cons row rows ih =>
    simp only [Page.front,List.map_cons,List.flatten_cons,List.append_assoc] at ih ⊢
    rw [splitLines_ended,ih,List.cons_append]

/-- The lines of a text are its rows with their line feeds. -/
theorem splitLines_text (page : Page) :
    splitLines page.text = page.rows.map Row.ended ++ [page.last.chars] := by
  have h := splitLines_row page.last (show splitLines [] = [[]] from rfl)
  rw [Page.text,splitLines_front]
  simpa using h

lemma getElem?_placeLines (start : Nat) (front : List (List Char)) (piece : List Char)
    (back : List (List Char)) :
    (placeLines start (front ++ piece :: back))[front.length]? =
      some ⟨start + byteLength front.flatten,piece⟩ := by
  induction front generalizing start with
  | nil => simp [placeLines]
  | cons text front ih => simp [placeLines,ih,Nat.add_assoc]

lemma exists_of_placeLines {start i : Nat} {pieces : List (List Char)} {line : Line}
    (h : (placeLines start pieces)[i]? = some line) :
    ∃ front back, pieces = front ++ line.text :: back ∧ front.length = i ∧
      line.start = start + byteLength front.flatten := by
  induction pieces generalizing start i with
  | nil => simp [placeLines] at h
  | cons piece pieces ih =>
    cases i with
    | zero =>
      simp only [placeLines,List.getElem?_cons_zero,Option.some.injEq] at h
      subst h
      exact ⟨[],pieces,rfl,rfl,by simp⟩
    | succ i =>
      simp only [placeLines,List.getElem?_cons_succ] at h
      obtain ⟨front,back,rfl,rfl,hs⟩ := ih h
      exact ⟨piece :: front,back,rfl,rfl,by simp [hs,Nat.add_assoc]⟩

/-- The line that a place stands in has the place's row in front of it. -/
theorem line_of_page (page : Page) {text piece : List Char} {more : List (List Char)}
    (h : splitLines text = piece :: more) :
    (lines (page.text ++ text))[page.rows.length]? =
      some ⟨byteLength page.front,page.last.chars ++ piece⟩ := by
  have hl := getElem?_placeLines 0 (page.rows.map Row.ended) (page.last.chars ++ piece) more
  rw [lines,Page.text,List.append_assoc,splitLines_front,splitLines_row page.last h]
  simpa [Page.front] using hl

/-- Every line but the last ends with a line feed. -/
lemma ended_of_splitLines {text piece : List Char} {front back : List (List Char)}
    (h : splitLines text = front ++ piece :: back) : back = [] ∨ ∃ row : Row, piece = row.ended := by
  rcases List.eq_nil_or_concat back with rfl | ⟨back,last,rfl⟩
  · exact Or.inl rfl
  · obtain ⟨page,rfl⟩ := Page.exists_page text
    rw [splitLines_text,List.concat_eq_append,← List.cons_append,← List.append_assoc] at h
    have hrows := List.append_inj_left' h rfl
    have hmem : piece ∈ page.rows.map Row.ended := by simp [hrows]
    obtain ⟨row,-,hrow⟩ := List.mem_map.mp hmem
    exact Or.inr ⟨row,hrow.symm⟩

/-- A line is a part of its text. It ends with a line feed unless the text ends with it. -/
theorem exists_of_line {text : List Char} {i : Nat} {line : Line} (h : (lines text)[i]? = some line) :
    ∃ front back, text = front ++ (line.text ++ back) ∧ line.start = byteLength front ∧
      (back = [] ∨ ∃ row : Row, line.text = row.ended) := by
  obtain ⟨front,back,hs,-,hstart⟩ := exists_of_placeLines h
  refine ⟨front.flatten,back.flatten,?_,by simpa using hstart,?_⟩
  · rw [← flatten_splitAfter (· = '\n') text]
    change (splitLines text).flatten = _
    rw [hs,List.flatten_append,List.flatten_cons]
  · rcases ended_of_splitLines hs with rfl | hrow
    · exact Or.inl rfl
    · exact Or.inr hrow

section Trimming

variable {α : Type} {p q : α → Bool}

/-- Dropping from the right stops at the first element to be kept. -/
lemma rdropWhile_append_cons (a : List α) {c : α} (hc : p c = false) (b : List α) :
    (a ++ c :: b).rdropWhile p = a ++ c :: b.rdropWhile p := by
  induction b using List.reverseRecOn with
  | nil => simpa using List.rdropWhile_concat_neg p a c (by simp [hc])
  | append_singleton b x ih =>
    rw [← List.cons_append,← List.append_assoc,List.rdropWhile_concat,List.rdropWhile_concat]
    split
    · exact ih
    · simp

lemma rdropWhile_congr {l : List α} (h : ∀ c ∈ l, p c = q c) : l.rdropWhile p = l.rdropWhile q := by
  induction l using List.reverseRecOn with
  | nil => rfl
  | append_singleton l x ih =>
    rw [List.rdropWhile_concat,List.rdropWhile_concat,h x (by simp),ih fun c hc => h c (by simp [hc])]

end Trimming

namespace Line

def isBreak (c : Char) : Bool := c = '\n' || c = '\r'

lemma content_eq (line : Line) : line.content = line.text.rdropWhile isBreak := rfl

/-- The content, and the line end behind it. -/
lemma exists_ending (line : Line) :
    ∃ ending, line.text = line.content ++ ending ∧ ∀ c ∈ ending, isBreak c = true :=
  ⟨line.text.rtakeWhile isBreak,List.rdropWhile_append_rtakeWhile.symm,
    fun _ hc => List.mem_rtakeWhile_imp hc⟩

lemma content_ne_text {line : Line} {row : Row} (h : line.text = row.ended) : line.content ≠ line.text := by
  intro he
  have hle := (List.rdropWhile_prefix isBreak row.chars).length_le
  rw [content_eq,h,Row.ended,List.rdropWhile_concat_pos _ _ _ (by decide)] at he
  rw [he,List.length_append,List.length_singleton] at hle
  omega

end Line

/-- The content of a line in its text. Behind it stands a line end, or nothing. -/
theorem exists_around_content {text : List Char} {i : Nat} {line : Line} (h : (lines text)[i]? = some line) :
    ∃ front ending back, text = front ++ (line.text ++ back) ∧ line.start = byteLength front ∧
      line.text = line.content ++ ending ∧ ∀ c, (ending ++ back).head? = some c → Line.isBreak c = true := by
  obtain ⟨front,back,htext,hstart,hback⟩ := exists_of_line h
  obtain ⟨ending,hending,hbreaks⟩ := line.exists_ending
  refine ⟨front,ending,back,htext,hstart,hending,?_⟩
  intro c hc
  cases ending with
  | nil =>
    rcases hback with rfl | ⟨row,hrow⟩
    · simp at hc
    · rw [List.append_nil] at hending
      exact absurd hending.symm (Line.content_ne_text hrow)
  | cons b ending =>
    simp only [List.cons_append,List.head?_cons,Option.some.injEq] at hc
    exact hc ▸ hbreaks b (by simp)

/-- Carriage returns at the end of a text are at the end of its last row. -/
lemma Page.rdropWhile_text (page : Page) :
    page.text.rdropWhile (· = '\r') = page.front ++ page.last.chars.rdropWhile (· = '\r') := by
  unfold text
  rcases page.front_eq with hfront | ⟨front,hfront⟩
  · simp [hfront]
  · simp only [hfront,List.append_assoc,List.cons_append,List.nil_append]
    exact rdropWhile_append_cons front (by decide) _

/-- A character in front takes its bytes off a number of bytes that is not zero. -/
lemma byteLength_cons_succ (c : Char) (text : List Char) :
    ∃ n, byteLength (c :: text) = n+1 ∧ c.utf8Size ≤ n+1 ∧ n+1-c.utf8Size = byteLength text := by
  have hc := c.utf8Size_pos
  refine ⟨byteLength (c :: text)-1,?_,?_,?_⟩
  all_goals
    simp only [byteLength_cons]
    omega

lemma dropBytes?_append (a b : List Char) : dropBytes? (byteLength a) (a ++ b) = some b := by
  induction a with
  | nil => cases b <;> rfl
  | cons c a ih =>
    obtain ⟨n,hn,hle,ha⟩ := byteLength_cons_succ c a
    rw [hn,List.cons_append,dropBytes?,if_pos hle,ha,ih]

lemma byteLength_le_of_isPrefix {a b : List Char} (h : a <+: b) : byteLength a ≤ byteLength b := by
  obtain ⟨rest,rfl⟩ := h
  simp

end Formula
