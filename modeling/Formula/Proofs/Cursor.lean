import Formula.Proofs.Nodes

/-! The cursor while a text is read. It moves from stand to stand, also with rules that miss and with rounds
that are undone, and after each move it is the furthest stand so far. What is left behind a whole
expression has been looked at, so it lies no further. -/
namespace Formula
open Place

namespace Place

/-- The place lies between two characters of the text, or at one of its ends. -/
def On (text : List Char) (place : Place) : Prop :=
  ∃ before rest, text = before ++ rest ∧ place = behind before rest

lemma on_start (text : List Char) : (start text).On text := ⟨[],text,rfl,rfl⟩

lemma Onward.on {least : Nat} {text : List Char} {place later : Place} (h : Onward least place later)
    (hp : place.On text) : later.On text := by
  obtain ⟨before,rest,rfl,rfl⟩ := hp
  obtain ⟨n,-,hn,rfl⟩ := h
  rw [rest_behind] at hn
  refine ⟨before ++ rest.take n,rest.drop n,by simp,?_⟩
  have hs := skip_behind before (rest.take n) (rest.drop n)
  rwa [List.take_append_drop,List.length_take_of_le hn] at hs

lemma On.eq_of_offset {text : List Char} {p q : Place} (hp : p.On text) (hq : q.On text)
    (h : p.offset = q.offset) : p = q := by
  obtain ⟨a,b,rfl,rfl⟩ := hp
  obtain ⟨a',b',ht,rfl⟩ := hq
  obtain ⟨rfl,rfl⟩ := byteLength_inj ht h
  rfl

lemma offset_le_furthest (best next : Place) : best.offset ≤ (best.furthest next).offset := by
  unfold furthest
  split
  · assumption
  · exact Nat.le_refl _

lemma offset_le_furthest_right (best next : Place) : next.offset ≤ (best.furthest next).offset := by
  unfold furthest
  split <;> omega

end Place

/-- One more stand moves the cursor on, or leaves it where it is. -/
lemma cursor_concat (text : List Char) (trail : List Stand) (stand : Stand) :
    cursor text (trail ++ [stand]) = (cursor text trail).furthest stand.place := by
  simp [cursor]

lemma cursor_append_le (text : List Char) (early late : List Stand) :
    (cursor text early).offset ≤ (cursor text (early ++ late)).offset := by
  induction late using List.reverseRecOn with
  | nil => rw [List.append_nil]
  | append_singleton late stand ih =>
    rw [← List.append_assoc,cursor_concat]
    exact ih.trans (offset_le_furthest _ _)

/-- A place in the text that is not in front of a blank. -/
structure Stand.Fits (text : List Char) (stand : Stand) : Prop where
  on : stand.place.On text
  solid : StartsWithout isBlank stand.place.rest

lemma Stand.Fits.not_all_blank {text : List Char} {stand : Stand} (h : stand.Fits text)
    (hne : stand.place.rest ≠ []) : text.all isBlank = false := by
  obtain ⟨before,rest,rfl,hp⟩ := h.on
  have hs := h.solid
  rw [hp,rest_behind] at hne hs
  obtain ⟨c,tail,rfl⟩ := List.exists_cons_of_ne_nil hne
  exact Grammar.not_all_blank (startsWithout_cons.mp hs)

/-- The cursor behind a trail agrees with the text and with the trail. -/
structure Consistent (text : List Char) (trail : List Stand) : Prop where
  /-- It does not split a character, and its line and column are those counted up to there. -/
  placed : ∃ before rest, text = before ++ rest ∧
    cursor text trail = ⟨byteLength before,Position.behind before,rest⟩
  within : (cursor text trail).offset ≤ byteLength text
  fresh : trail = [] → (cursor text trail).offset = 0
  /-- No stand is further on, -/
  bound : ∀ stand ∈ trail, stand.place.offset ≤ (cursor text trail).offset
  /-- and some stand is as far. -/
  reached : trail ≠ [] → ∃ stand ∈ trail, stand.place = cursor text trail
  solid : trail ≠ [] → StartsWithout isBlank (cursor text trail).rest

lemma consistent_nil (text : List Char) : Consistent text [] where
  placed := ⟨[],text,rfl,rfl⟩
  within := Nat.zero_le _
  fresh := fun _ => rfl
  bound := by simp
  reached := absurd rfl
  solid := absurd rfl

lemma Consistent.on {text : List Char} {trail : List Stand} (h : Consistent text trail) :
    (cursor text trail).On text := by
  obtain ⟨before,rest,ht,hc⟩ := h.placed
  exact ⟨before,rest,ht,by rw [hc,behind,Position.first_past]⟩

/-- A move of the cursor keeps it consistent. -/
lemma Consistent.concat {text : List Char} {trail : List Stand} {stand : Stand} (h : Consistent text trail)
    (hs : stand.Fits text) : Consistent text (trail ++ [stand]) := by
  -- The start of the text does not outdo the first stand, so a cursor that stays is on a stand already.
  have hmoved : cursor text (trail ++ [stand]) = stand.place ∨
      trail ≠ [] ∧ cursor text (trail ++ [stand]) = cursor text trail := by
    rw [cursor_concat,furthest]
    split
    · exact Or.inl rfl
    · refine Or.inr ⟨?_,rfl⟩
      intro he
      have := h.fresh he
      omega
  have hon : (cursor text (trail ++ [stand])).On text := by
    rcases hmoved with he | ⟨-,he⟩
    · exact he ▸ hs.on
    · exact he ▸ h.on
  obtain ⟨before,rest,rfl,hc⟩ := hon
  refine ⟨⟨before,rest,rfl,?_⟩,?_,?_,?_,fun _ => ?_,fun _ => ?_⟩
  · rw [hc,behind,Position.first_past]
  · simp [hc]
  · simp
  · intro other ho
    rcases List.mem_append.mp ho with ho | ho
    · exact (h.bound other ho).trans (cursor_append_le _ trail [stand])
    · rw [List.mem_singleton.mp ho,cursor_concat]
      exact offset_le_furthest_right _ _
  · rcases hmoved with he | ⟨hne,he⟩
    · exact ⟨stand,by simp,he.symm⟩
    · obtain ⟨best,hb,hp⟩ := h.reached hne
      exact ⟨best,by simp [hb],by rw [he,hp]⟩
  · rcases hmoved with he | ⟨hne,he⟩
    · exact he ▸ hs.solid
    · exact he ▸ h.solid hne

/-- So it stays consistent from stand to stand. -/
theorem consistent_of_fits {text : List Char} {trail : List Stand} (h : ∀ stand ∈ trail, stand.Fits text) :
    Consistent text trail := by
  induction trail using List.reverseRecOn with
  | nil => exact consistent_nil text
  | append_singleton trail stand ih =>
    exact (ih fun other ho => h other (by simp [ho])).concat (h stand (by simp))

namespace Grammar

lemma fits_of_program (levels : Nat) (text : List Char) :
    ∀ stand ∈ (program levels (start text)).trail, stand.Fits text := by
  intro stand hs
  obtain ⟨hplace,hsolid,-⟩ := (Part.expression.advances levels 0 (start text)).stands stand hs
  exact ⟨hplace.on (on_start text),hsolid⟩

/-- A repetition ends where a round has looked at what comes next, and has missed. -/
lemma iterate_looks_ahead {α : Type} {step : α → Rule α} {depth rounds : Nat} {value last : α}
    {place rest : Place} (h : ∀ value, (step value).Starts depth)
    (hr : (Rule.iterate step rounds value place).outcome = .hit last rest) :
    ∃ stand ∈ (Rule.iterate step rounds value place).trail, stand.place = rest.skipWhile isBlank := by
  induction rounds generalizing value place with
  | zero => cases hr
  | succ rounds ih =>
    simp only [Rule.iterate] at hr ⊢
    split at hr
    · split at hr
      · cases hr
      · next hne =>
        obtain ⟨stand,hs,hp⟩ := ih hr
        rw [if_neg hne]
        exact ⟨stand,List.mem_append_right _ hs,hp⟩
    · cases hr
      obtain ⟨later,hl⟩ := h last rest
      exact ⟨_,hl ▸ List.mem_cons_self,rfl⟩
    · cases hr
    · cases hr

lemma leftAssociative_looks_ahead {depth : Nat} {among : List Operator} {operand : Rule Expr} {tree : Expr}
    {place rest : Place} (hr : (leftAssociative depth among operand place).outcome = .hit tree rest) :
    ∃ stand ∈ (leftAssociative depth among operand place).trail, stand.place = rest.skipWhile isBlank := by
  have hround (left : Expr) : (round depth among operand left).Starts depth :=
    (Rule.starts_token depth _).bind _
  rw [leftAssociative_eq] at hr ⊢
  unfold Reply.andThen at hr ⊢
  split at hr
  · next first after _ =>
    obtain ⟨stand,hs,hp⟩ := iterate_looks_ahead hround hr
    exact ⟨stand,List.mem_append_right _ hs,hp⟩
  · cases hr
  · cases hr
  · cases hr

end Grammar
open Grammar

/-- The stands that are taken while a text is read, in order. A blank text is turned down before the first. -/
def standsOf (limit : Limit) (text : List Char) : List Stand := (program limit.levels (start text)).trail

/-- At every moment of a parse the cursor is consistent, and it never goes back. A whole expression has
been looked behind, so what is left there does not move it any more. -/
theorem cursor_stays_consistent (limit : Limit) (text : List Char) :
    (∀ moment, Consistent text ((standsOf limit text).take moment)) ∧
    (∀ early late, early ≤ late → (cursor text ((standsOf limit text).take early)).offset ≤
      (cursor text ((standsOf limit text).take late)).offset) ∧
    ∀ tree rest, (program limit.levels (start text)).outcome = .hit tree rest →
      (rest.skipWhile isBlank).offset ≤ (cursor text (standsOf limit text)).offset ∧
      (cursor text (standsOf limit text)).furthest (rest.skipWhile isBlank) =
        cursor text (standsOf limit text) ∧
      ((rest.skipWhile isBlank).rest ≠ [] →
        parseText limit text = .error (.unexpected (cursor text (standsOf limit text)))) := by
  have hfits := fits_of_program limit.levels text
  refine ⟨?_,?_,?_⟩
  · intro moment
    exact consistent_of_fits fun stand hs => hfits stand (List.mem_of_mem_take hs)
  · intro early late hle
    obtain ⟨more,hm⟩ := List.take_prefix_take_left hle
    rw [← hm]
    exact cursor_append_le text _ more
  · intro tree rest hr
    obtain ⟨stand,hs,hp⟩ := leftAssociative_looks_ahead hr
    have hfit := hfits stand hs
    have hcursor := consistent_of_fits hfits
    have hle := hcursor.bound stand hs
    rw [hp] at hle
    have hstays : (cursor text (standsOf limit text)).furthest (rest.skipWhile isBlank) =
        cursor text (standsOf limit text) := by
      rw [furthest]
      split
      · next hge => exact (hp ▸ hfit.on).eq_of_offset hcursor.on (Nat.le_antisymm hle hge)
      · rfl
    refine ⟨hle,hstays,?_⟩
    intro hleft
    have hblank : text.all isBlank = false := by
      rw [← hp] at hleft
      exact hfit.not_all_blank hleft
    rw [standsOf] at hstays ⊢
    simp only [parseText,hblank,Bool.false_eq_true,if_false,hr,List.isEmpty_iff,hleft,hstays]

/-- A sum without its second operand: the leftover starts with the operator, and the cursor is behind it. -/
theorem cursor_stays_consistent_undone :
    (program 64 (start "1 + )".toList)).outcome =
      .hit (.number (.ofDigits ['1'] []) ⟨1,1⟩) ⟨1,⟨1,2⟩,[' ','+',' ',')']⟩ ∧
    (cursor "1 + )".toList ((standsOf .standard "1 + )".toList).take 1)).offset ≤
      (cursor "1 + )".toList ((standsOf .standard "1 + )".toList).take 9)).offset ∧
    2 ≤ (cursor "1 + )".toList (standsOf .standard "1 + )".toList)).offset ∧
    parseText .standard "1 + )".toList =
      .error (.unexpected (cursor "1 + )".toList (standsOf .standard "1 + )".toList))) := by
  have h : (program 64 (start "1 + )".toList)).outcome =
      .hit (.number (.ofDigits ['1'] []) ⟨1,1⟩) ⟨1,⟨1,2⟩,[' ','+',' ',')']⟩ := by decide +kernel
  obtain ⟨-,hforth,hlast⟩ := cursor_stays_consistent .standard "1 + )".toList
  obtain ⟨hle,-,hparse⟩ := hlast _ _ h
  exact ⟨h,hforth 1 9 (by decide),hle,hparse (by decide)⟩

end Formula
