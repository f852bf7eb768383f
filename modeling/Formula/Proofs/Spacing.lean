import Mathlib.Data.List.DropRight
import Formula.Proofs.Prospect

/-! Texts that differ in their blanks only. Two texts with the same runs of other characters have blanks
between the same of them; two texts with the same lexemes may differ there too. -/
namespace Formula
open Grammar

/-- The longest runs of characters that are no blanks, in order. -/
def chunks (text : List Char) : List (List Char) :=
  (text.splitOnP isBlank).filter (!·.isEmpty)

/-- The characters that are no blanks. -/
def solids (text : List Char) : List Char := text.filter (!isBlank ·)

@[simp] theorem solids_append (a b : List Char) : solids (a ++ b) = solids a ++ solids b := by
  simp [solids]

@[simp] theorem solids_gap (gap : Gap) : solids gap.chars = [] := by
  simpa [solids] using gap.blank

lemma solids_eq_self {text : List Char} (h : ∀ c ∈ text, isBlank c = false) : solids text = text := by
  simpa [solids] using h

/-- A character that is no blank is found by the characters of its kind in front of it. -/
lemma front_unique {c : Char} (hc : isBlank c = false) {front front' rest rest' : List Char}
    (h : front ++ c :: rest = front' ++ c :: rest') (hs : solids front = solids front') : front = front' := by
  have longer : ∀ {x y : List Char} {tail tail' : List Char},
      solids x = solids (x ++ y) → c :: tail = y ++ c :: tail' → y = [] := by
    intro x y tail tail' hxy htail
    cases y with
    | nil => rfl
    | cons d y =>
      obtain rfl : c = d := (List.cons.inj htail).1
      simp [solids,hc] at hxy
  rcases List.append_eq_append_iff.mp h with ⟨y,rfl,ht⟩ | ⟨y,rfl,ht⟩
  · simp [longer hs ht]
  · simp [longer hs.symm ht]

/-- The same characters that are no blanks, with blanks between the same of them. Blanks at the end do not
count, and those at the start count only inside a text, where something stands in front of them. -/
inductive Respaced : (inside : Bool) → List Char → List Char → Prop where
  | blank {inside : Bool} (gap gap' : Gap) : Respaced inside gap.chars gap'.chars
  | solid {inside : Bool} (gap gap' : Gap) (same : inside = true → (gap.chars = [] ↔ gap'.chars = []))
      {c : Char} (hc : isBlank c = false) {rest rest' : List Char} (h : Respaced true rest rest') :
      Respaced inside (gap.chars ++ c :: rest) (gap'.chars ++ c :: rest')

namespace Respaced

variable {inside : Bool} {a b rest : List Char}

lemma outside (h : Respaced inside a b) : Respaced false a b := by
  cases h with
  | blank gap gap' => exact .blank gap gap'
  | solid gap gap' same hc h => exact .solid gap gap' (by simp) hc h

/-- Behind its first blanks, the other text goes on with the same character, or ends as well. -/
lemma split (gap : Gap) (h : Respaced inside (gap.chars ++ rest) b) (hs : StartsWithout isBlank rest) :
    ∃ (gap' : Gap) (rest' : List Char), b = gap'.chars ++ rest' ∧
      ((rest = [] ∧ rest' = []) ∨
        ∃ (c : Char) (tail tail' : List Char), rest = c :: tail ∧ rest' = c :: tail' ∧ isBlank c = false ∧
          Respaced true tail tail' ∧ (inside = true → (gap.chars = [] ↔ gap'.chars = []))) := by
  generalize ha : gap.chars ++ rest = a at h
  cases h with
  | blank space space' =>
    have hr : gap.chars ++ rest = space.chars ++ [] := by rw [ha,List.append_nil]
    obtain ⟨-,rfl⟩ := run_unique hr gap.blank hs space.blank (startsWithout_nil _)
    exact ⟨space',[],by simp,Or.inl ⟨rfl,rfl⟩⟩
  | @solid _ space space' same c hc tail tail' h =>
    obtain ⟨hg,rfl⟩ := run_unique ha gap.blank hs space.blank (startsWithout_cons.mpr hc)
    refine ⟨space',c :: tail',rfl,Or.inr ⟨c,tail,tail',rfl,rfl,hc,h,?_⟩⟩
    rw [hg]
    exact same

lemma split_head (gap : Gap) (h : Respaced inside (gap.chars ++ rest) b) (hs : StartsWithout isBlank rest) :
    ∃ (gap' : Gap) (rest' : List Char), b = gap'.chars ++ rest' ∧ rest'.head? = rest.head? := by
  obtain ⟨gap',rest',rfl,⟨rfl,rfl⟩ | ⟨c,tail,tail',rfl,rfl,-⟩⟩ := h.split gap hs
  · exact ⟨gap',[],rfl,rfl⟩
  · exact ⟨gap',c :: tail',rfl,rfl⟩

/-- A character that goes on with a text goes on with the other one. -/
lemma startsWithout {good : Char → Bool} (hg : ∀ c, isBlank c = true → good c = false)
    (h : Respaced true a b) (ha : StartsWithout good a) : StartsWithout good b := by
  have starts (gap : Gap) (h : gap.chars ≠ []) (rest : List Char) : StartsWithout good (gap.chars ++ rest) := by
    obtain ⟨c,chars,hc⟩ := List.exists_cons_of_ne_nil h
    rw [hc,List.cons_append,startsWithout_cons]
    exact hg c (gap.blank c (by simp [hc]))
  cases h with
  | blank gap gap' =>
    by_cases hgap : gap'.chars = []
    · simp [hgap]
    · simpa using starts gap' hgap []
  | solid gap gap' same hc h =>
    by_cases hgap : gap'.chars = []
    · rw [(same rfl).mpr hgap] at ha
      rw [hgap]
      exact startsWithout_cons.mpr (startsWithout_cons.mp ha)
    · exact starts gap' hgap _

lemma all_isBlank (h : Respaced inside a b) : a.all isBlank = b.all isBlank := by
  cases h with
  | blank gap gap' => rw [List.all_eq_true.mpr gap.blank,List.all_eq_true.mpr gap'.blank]
  | solid gap gap' same hc h => simp [hc]

lemma exists_gap {gap : Gap} (h : Respaced inside gap.chars b) : ∃ gap' : Gap, b = gap'.chars := by
  have hb := h.all_isBlank
  rw [List.all_eq_true.mpr gap.blank,eq_comm,List.all_eq_true] at hb
  exact ⟨⟨b,hb⟩,rfl⟩

/-- A run without blanks stays as it is. -/
lemma run {w : List Char} (hw : ∀ c ∈ w, isBlank c = false) (h : Respaced true (w ++ rest) b) :
    ∃ rest', b = w ++ rest' ∧ Respaced true rest rest' := by
  induction w generalizing b with
  | nil => exact ⟨b,rfl,h⟩
  | cons c w ih =>
    have hc := hw c (by simp)
    have hs : StartsWithout isBlank (c :: (w ++ rest)) := startsWithout_cons.mpr hc
    obtain ⟨gap',rest',rfl,⟨hr,-⟩ | ⟨d,tail,tail',hr,rfl,-,ht,hg⟩⟩ := split .none h hs
    · cases hr
    · cases hr
      obtain ⟨rest',rfl,hrest⟩ := ih (fun c hc => hw c (by simp [hc])) ht
      exact ⟨rest',by simp [(hg rfl).mp rfl],hrest⟩

end Respaced

section Chunks

lemma chunks_cons_blank {c : Char} (hc : isBlank c = true) (text : List Char) :
    chunks (c :: text) = chunks text := by
  simp [chunks,List.splitOnP_cons_eq_if_modifyHead,hc]

lemma chunks_gap (gap : Gap) (text : List Char) : chunks (gap.chars ++ text) = chunks text := by
  obtain ⟨chars,hb⟩ := gap
  induction chars with
  | nil => rfl
  | cons c chars ih =>
    rw [List.cons_append,chunks_cons_blank (hb c (by simp))]
    exact ih fun d hd => hb d (by simp [hd])

lemma chunks_run {w rest : List Char} (hne : w ≠ []) (hw : ∀ c ∈ w, isBlank c = false)
    (hr : StartsWithout (!isBlank ·) rest) : chunks (w ++ rest) = w :: chunks rest := by
  cases rest with
  | nil => simp [chunks,List.splitOnP_eq_singleton hw,hne]
  | cons c rest =>
    have hc : isBlank c = true := by simpa using hr
    rw [chunks_cons_blank hc]
    simp [chunks,List.splitOnP_append_cons_of_forall_mem hw c hc,hne]

/-- A text up to the end of its first chunk. -/
lemma exists_chunk (text : List Char) : (∃ gap : Gap, text = gap.chars) ∨
    ∃ (gap : Gap) (c : Char) (w rest : List Char), text = gap.chars ++ c :: (w ++ rest) ∧
      isBlank c = false ∧ (∀ d ∈ w, isBlank d = false) ∧ StartsWithout (!isBlank ·) rest := by
  obtain ⟨gap,text,rfl,hs⟩ := exists_gap text
  cases text with
  | nil => exact Or.inl ⟨gap,by simp⟩
  | cons c text =>
    obtain ⟨w,rest,rfl,hw,hr⟩ := exists_run (!isBlank ·) text
    exact Or.inr ⟨gap,c,w,rest,rfl,startsWithout_cons.mp hs,by simpa using hw,hr⟩

lemma chunks_first {gap : Gap} {c : Char} {w rest : List Char} (hc : isBlank c = false)
    (hw : ∀ d ∈ w, isBlank d = false) (hr : StartsWithout (!isBlank ·) rest) :
    chunks (gap.chars ++ c :: (w ++ rest)) = (c :: w) :: chunks rest := by
  rw [chunks_gap,← List.cons_append]
  exact chunks_run (by simp) (by simpa [hc] using hw) hr

lemma respaced_run {w rest rest' : List Char} (hw : ∀ c ∈ w, isBlank c = false)
    (h : Respaced true rest rest') : Respaced true (w ++ rest) (w ++ rest') := by
  induction w with
  | nil => exact h
  | cons c w ih =>
    have hrest := ih fun d hd => hw d (by simp [hd])
    exact .solid .none .none (by simp) (hw c (by simp)) hrest

/-- Blanks stand in front of what follows a chunk. -/
lemma gap_ne_nil {gap : Gap} {c : Char} {rest : List Char} (hc : isBlank c = false)
    (h : StartsWithout (!isBlank ·) (gap.chars ++ c :: rest)) : gap.chars ≠ [] := by
  intro hg
  rw [hg] at h
  simp [hc] at h

/-- Texts with the same chunks have blanks between the same characters. Chunks are compared one after the
other; inside the texts, each of them stands behind the blanks that end the one before. -/
theorem respaced_of_chunks {a b : List Char} (h : chunks a = chunks b) (inside : Bool)
    (ha : inside = true → StartsWithout (!isBlank ·) a) (hb : inside = true → StartsWithout (!isBlank ·) b) :
    Respaced inside a b := by
  have blank (gap : Gap) : chunks gap.chars = [] := by simpa [chunks] using chunks_gap gap []
  -- By the length of the text: one step goes over a whole chunk.
  generalize hn : a.length = n
  induction n using Nat.strongRecOn generalizing a b inside with
  | ind n ih =>
    rcases exists_chunk a with ⟨gap,rfl⟩ | ⟨gap,c,w,rest,rfl,hc,hw,hr⟩
    · rcases exists_chunk b with ⟨gap',rfl⟩ | ⟨gap',c',w',rest',rfl,hc',hw',hr'⟩
      · exact .blank gap gap'
      · rw [blank,chunks_first hc' hw' hr'] at h
        cases h
    · rw [chunks_first hc hw hr] at h
      rcases exists_chunk b with ⟨gap',rfl⟩ | ⟨gap',c',w',rest',rfl,hc',hw',hr'⟩
      · rw [blank] at h
        cases h
      · rw [chunks_first hc' hw' hr'] at h
        injection h with hword hrest
        injection hword with hchar hword
        subst hchar hword
        simp only [List.length_append,List.length_cons] at hn
        refine .solid gap gap' ?_ hc (respaced_run hw ?_)
        · intro hin
          simp [gap_ne_nil hc (ha hin),gap_ne_nil hc (hb hin)]
        · exact ih rest.length (by omega) hrest true (fun _ => hr) (fun _ => hr') rfl

end Chunks

/-- A token as it is written. -/
structure Lexeme where
  chars : List Char
  ne_nil : chars ≠ []
  solid : ∀ c ∈ chars, isBlank c = false

/-- The text consists of these lexemes in order, each with any blanks in front of it. -/
inductive Spells : List Lexeme → List Char → Prop where
  | nil : Spells [] []
  | cons (gap : Gap) (lexeme : Lexeme) {more : List Lexeme} {text : List Char} (h : Spells more text) :
      Spells (lexeme :: more) (gap.chars ++ (lexeme.chars ++ text))

namespace Spells

variable {a b : List Lexeme} {lexeme : Lexeme} {s t : List Char}

lemma one (gap : Gap) (lexeme : Lexeme) : Spells [lexeme] (gap.chars ++ lexeme.chars) := by
  simpa using Spells.cons gap lexeme .nil

lemma append (ha : Spells a s) (hb : Spells b t) : Spells (a ++ b) (s ++ t) := by
  induction ha with
  | nil => exact hb
  | cons gap lexeme h ih => simpa using Spells.cons gap lexeme ih

lemma exists_cons (h : Spells (lexeme :: a) t) :
    ∃ (gap : Gap) (rest : List Char), t = gap.chars ++ (lexeme.chars ++ rest) ∧ Spells a rest := by
  cases h with
  | cons gap _ h => exact ⟨gap,_,rfl,h⟩

lemma exists_one (h : Spells [lexeme] t) : ∃ gap : Gap, t = gap.chars ++ lexeme.chars := by
  obtain ⟨gap,rest,rfl,hr⟩ := h.exists_cons
  cases hr
  exact ⟨gap,by simp⟩

lemma exists_append (h : Spells (a ++ b) t) : ∃ u v, t = u ++ v ∧ Spells a u ∧ Spells b v := by
  induction a generalizing t with
  | nil => exact ⟨[],t,rfl,.nil,h⟩
  | cons lexeme a ih =>
    obtain ⟨gap,rest,rfl,hr⟩ := h.exists_cons
    obtain ⟨u,v,rfl,hu,hv⟩ := ih hr
    exact ⟨gap.chars ++ (lexeme.chars ++ u),v,by simp,.cons gap lexeme hu,hv⟩

/-- The lexemes of a text are what is no blank in it. -/
lemma solids_eq (h : Spells a t) : solids t = (a.map Lexeme.chars).flatten := by
  induction h with
  | nil => rfl
  | cons gap lexeme h ih => simp [solids_eq_self lexeme.solid,ih]

/-- A text with other blanks has the same lexemes as far as they go. -/
theorem respaced {inside : Bool} {rest other : List Char} (h : Spells a t)
    (hr : Respaced inside (t ++ rest) other) :
    ∃ t' rest', other = t' ++ rest' ∧ Spells a t' ∧ Respaced (inside || !a.isEmpty) rest rest' := by
  induction h generalizing inside other with
  | nil => exact ⟨[],other,rfl,.nil,by simpa using hr⟩
  | @cons gap lexeme more text h ih =>
    obtain ⟨chars,hne,hsolid⟩ := lexeme
    obtain ⟨c,w,rfl⟩ := List.exists_cons_of_ne_nil hne
    have hc := hsolid c (by simp)
    have hs : StartsWithout isBlank (c :: (w ++ (text ++ rest))) := startsWithout_cons.mpr hc
    simp only [List.append_assoc,List.cons_append] at hr
    obtain ⟨gap',other,rfl,⟨hnil,-⟩ | ⟨d,tail,tail',htail,rfl,-,ht,-⟩⟩ := hr.split gap hs
    · cases hnil
    · cases htail
      obtain ⟨other,rfl,hother⟩ := ht.run fun d hd => hsolid d (by simp [hd])
      obtain ⟨t',rest',rfl,hspell,hrest⟩ := ih hother
      exact ⟨gap'.chars ++ (c :: w ++ t'),rest',by simp,.cons gap' ⟨c :: w,hne,hsolid⟩ hspell,by simpa using hrest⟩

end Spells
end Formula
