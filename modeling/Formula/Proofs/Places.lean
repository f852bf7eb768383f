import Formula.Parse
import Formula.Proofs.Tokens

/-! Places in one text, told by the text in front of them. Further places come behind longer texts, and
have later positions. -/
namespace Formula

/-- What changes with every character tells how much of a text stands in front of a place. -/
lemma eq_of_append_eq {α : Type} {f : List Char → α} (grows : ∀ x y, f x = f (x ++ y) → y = [])
    {a b a' b' : List Char} (ht : a ++ b = a' ++ b') (h : f a = f a') : a = a' ∧ b = b' := by
  rcases List.append_eq_append_iff.mp ht with ⟨y,rfl,hb⟩ | ⟨y,rfl,hb⟩
  · obtain rfl := grows a y h
    simpa using hb
  · obtain rfl := grows a' y h.symm
    simpa using hb.symm

namespace Position

/-- Reading order. -/
def Before (p q : Position) : Prop := p.line < q.line ∨ (p.line = q.line ∧ p.column < q.column)

lemma Before.trans {p q r : Position} (h : p.Before q) (h' : q.Before r) : p.Before r := by
  unfold Before at *
  omega

lemma before_after (p : Position) (c : Char) : p.Before (p.after c) := by
  unfold Before after
  split <;> simp

lemma before_past (p : Position) {text : List Char} (h : text ≠ []) : p.Before (p.past text) := by
  induction text generalizing p with
  | nil => exact absurd rfl h
  | cons c text ih =>
    rw [past_cons]
    by_cases ht : text = []
    · subst ht
      exact p.before_after c
    · exact (p.before_after c).trans (ih _ ht)

/-- A position tells how much of a text stands in front of it. -/
theorem past_inj {p : Position} {a b a' b' : List Char} (ht : a ++ b = a' ++ b')
    (h : p.past a = p.past a') : a = a' := by
  refine (eq_of_append_eq ?_ ht h).1
  intro x y hxy
  by_contra hy
  have hb := (p.past x).before_past hy
  rw [← past_append,← hxy] at hb
  unfold Before at hb
  omega

end Position

lemma byteLength_pos {text : List Char} (h : text ≠ []) : 0 < byteLength text := by
  cases text with
  | nil => exact absurd rfl h
  | cons c text =>
    have := c.utf8Size_pos
    simp only [byteLength_cons]
    omega

lemma byteLength_inj {a b a' b' : List Char} (ht : a ++ b = a' ++ b') (h : byteLength a = byteLength a') :
    a = a' ∧ b = b' := by
  refine eq_of_append_eq ?_ ht h
  intro x y hxy
  by_contra hy
  have := byteLength_pos hy
  rw [byteLength_append] at hxy
  omega

namespace Place

/-- The place behind one text and in front of another. -/
def behind (before rest : List Char) : Place :=
  ⟨byteLength before,Position.first.past before,rest⟩

@[simp] theorem rest_behind (a b : List Char) : (behind a b).rest = b := rfl
@[simp] theorem position_behind (a b : List Char) : (behind a b).position = Position.first.past a := rfl
@[simp] theorem offset_behind (a b : List Char) : (behind a b).offset = byteLength a := rfl

lemma skip_behind (a b c : List Char) : (behind a (b ++ c)).skip b.length = behind (a ++ b) c := by
  simp [skip,behind]

lemma skipWhile_behind {good : Char → Bool} {a b c : List Char} (hb : ∀ x ∈ b, good x = true)
    (hc : StartsWithout good c) : (behind a (b ++ c)).skipWhile good = behind (a ++ b) c := by
  rw [skipWhile,rest_behind,takeWhile_append_eq hb hc,skip_behind]

/-- Whoever has read something is at another place. -/
lemma behind_ne (a : List Char) {b : List Char} (c : List Char) (h : b ≠ []) :
    behind (a ++ b) c ≠ behind a (b ++ c) := by
  intro he
  have ho := congrArg offset he
  have := byteLength_pos h
  simp only [offset_behind,byteLength_append] at ho
  omega

/-- The second place is the first, or stands in front of it. -/
def UpTo (limit p : Place) : Prop := p.offset < limit.offset ∨ p = limit

@[refl] lemma UpTo.refl (p : Place) : UpTo p p := Or.inr rfl

lemma UpTo.trans {p q r : Place} (h : UpTo r q) (h' : UpTo q p) : UpTo r p := by
  rcases h with h | rfl
  · rcases h' with h' | rfl
    · exact Or.inl (Nat.lt_trans h' h)
    · exact Or.inl h
  · exact h'

lemma upTo_behind (a b c : List Char) : UpTo (behind (a ++ b) c) (behind a (b ++ c)) := by
  by_cases h : b = []
  · subst h
    simp only [List.append_nil,List.nil_append]
    rfl
  · left
    have := byteLength_pos h
    simp only [offset_behind,byteLength_append]
    omega

lemma furthest_eq_right {p q : Place} (h : UpTo q p) : p.furthest q = q := by
  unfold furthest
  rcases h with h | rfl
  · rw [if_pos (Nat.le_of_lt h)]
  · simp

lemma furthest_eq_left {p q : Place} (h : UpTo p q) : p.furthest q = p := by
  unfold furthest
  rcases h with h | rfl
  · rw [if_neg (by omega)]
  · simp

end Place

/-- The trail goes no further than a place. -/
def Within (limit : Place) (trail : List Stand) : Prop := ∀ stand ∈ trail, Place.UpTo limit stand.place

@[simp] theorem within_nil (limit : Place) : Within limit [] := by simp [Within]

@[simp] theorem within_cons {limit : Place} {stand : Stand} {trail : List Stand} :
    Within limit (stand :: trail) ↔ Place.UpTo limit stand.place ∧ Within limit trail := by
  simp [Within]

@[simp] theorem within_append {limit : Place} {a b : List Stand} :
    Within limit (a ++ b) ↔ Within limit a ∧ Within limit b := by
  simp only [Within,List.mem_append]
  constructor
  · intro h
    exact ⟨fun s hs => h s (Or.inl hs),fun s hs => h s (Or.inr hs)⟩
  · rintro ⟨ha,hb⟩ s (hs | hs)
    · exact ha s hs
    · exact hb s hs

lemma Within.mono {p q : Place} {trail : List Stand} (h : Within p trail) (hq : Place.UpTo q p) :
    Within q trail := fun s hs => hq.trans (h s hs)

/-- The trail goes exactly as far as a place. -/
def Peaks (limit : Place) (trail : List Stand) : Prop :=
  Within limit trail ∧ ∃ stand ∈ trail, stand.place = limit

lemma Peaks.append_left {limit : Place} {a b : List Stand} (hb : Peaks limit b) (ha : Within limit a) :
    Peaks limit (a ++ b) := by
  obtain ⟨s,hs,he⟩ := hb.2
  exact ⟨within_append.mpr ⟨ha,hb.1⟩,s,List.mem_append_right a hs,he⟩

lemma Peaks.append_right {limit : Place} {a b : List Stand} (ha : Peaks limit a) (hb : Within limit b) :
    Peaks limit (a ++ b) := by
  obtain ⟨s,hs,he⟩ := ha.2
  exact ⟨within_append.mpr ⟨ha.1,hb⟩,s,List.mem_append_left b hs,he⟩

lemma peaks_replicate (n : Nat) (place : Place) (depth : Nat) :
    Peaks place (List.replicate (n+1) ⟨place,depth⟩) := by
  refine ⟨?_,⟨place,depth⟩,by simp,rfl⟩
  intro stand hs
  rw [List.eq_of_mem_replicate hs]

lemma foldl_furthest_eq {limit best : Place} {places : List Place} (hb : Place.UpTo limit best)
    (hp : ∀ p ∈ places, Place.UpTo limit p) (he : best = limit ∨ limit ∈ places) :
    places.foldl Place.furthest best = limit := by
  induction places generalizing best with
  | nil => simpa using he
  | cons p places ih =>
    have hlimit := hp p (by simp)
    rw [List.foldl_cons]
    apply ih _ (fun q hq => hp q (by simp [hq]))
    · rcases he with rfl | he
      · exact Or.inl (Place.furthest_eq_left hlimit)
      · rcases List.mem_cons.mp he with rfl | he
        · exact Or.inl (Place.furthest_eq_right hb)
        · exact Or.inr he
    · unfold Place.furthest
      split
      · exact hlimit
      · exact hb

/-- The cursor ends on the furthest place of the trail. -/
theorem cursor_eq {before rest : List Char} {trail : List Stand}
    (h : Peaks (Place.behind before rest) trail) :
    cursor (before ++ rest) trail = Place.behind before rest := by
  obtain ⟨hw,s,hs,he⟩ := h
  apply foldl_furthest_eq
  · exact Place.upTo_behind [] before rest
  · intro p hp
    obtain ⟨s,hs,rfl⟩ := List.mem_map.mp hp
    exact hw s hs
  · exact Or.inr (List.mem_map.mpr ⟨s,hs,he⟩)

end Formula
