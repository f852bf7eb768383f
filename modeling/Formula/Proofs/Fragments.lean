import Formula.Proofs.Derivation

/-! Identifiers are read fragment by fragment. However a name falls into fragments, none of them is empty,
and together they are the longest run of letters, digits and underscores. -/
namespace Formula.Token

variable {good : Char → Bool} {text piece : List Char}

lemma run_eq_none_iff : run good text = none ↔ text.takeWhile good = [] := by
  simp [run]

lemma run_eq_some_iff : run good text = some piece ↔ piece ≠ [] ∧ text.takeWhile good = piece := by
  simp only [run,List.isEmpty_iff]
  split
  · next h => simp [h,eq_comm]
  · next h =>
    simp only [Option.some.injEq]
    constructor
    · rintro rfl
      exact ⟨h,rfl⟩
    · exact And.right

/-- A fragment is taken from the head of the text, and is a part of a name. -/
lemma exists_of_fragment (h : fragment good text = some piece) :
    piece ≠ [] ∧ (∀ c ∈ piece, (good c || c = '_') = true) ∧ ∃ rest, text = piece ++ rest := by
  cases hr : run good text with
  | some taken =>
    obtain rfl : taken = piece := by simpa [fragment,hr] using h
    obtain ⟨hne,rfl⟩ := run_eq_some_iff.mp hr
    refine ⟨hne,?_,text.dropWhile good,List.takeWhile_append_dropWhile.symm⟩
    intro c hc
    simp [List.all_eq_true.mp List.all_takeWhile c hc]
  | none =>
    have hu : text.head? = some '_' ∧ ['_'] = piece := by simpa [fragment,hr] using h
    obtain ⟨hhead,rfl⟩ := hu
    obtain ⟨rest,rfl⟩ := List.head?_eq_some_iff.mp hhead
    exact ⟨by simp,by simp,rest,rfl⟩

/-- Where no fragment is found, no name starts or goes on. -/
lemma fragment_eq_none_iff : fragment good text = none ↔ text.takeWhile (fun c => good c || c = '_') = [] := by
  cases text with
  | nil => simp [fragment,run]
  | cons c text =>
    cases hc : good c with
    | true => simp [fragment,run,hc]
    | false => simp [fragment,run,hc,List.takeWhile_cons]

/-- With rounds to spare, the fragments come to an end, and nothing of the name is lost or repeated. -/
lemma exists_fragmentsWithin {rounds : Nat} (h : text.length < rounds) :
    ∃ pieces, fragmentsWithin rounds text = some pieces ∧ pieces.flatten = text.takeWhile isWordChar := by
  induction rounds generalizing text with
  | zero => omega
  | succ rounds ih =>
    rw [fragmentsWithin]
    cases hf : fragment Char.isAlphanum text with
    | none => exact ⟨[],rfl,(fragment_eq_none_iff.mp hf).symm⟩
    | some piece =>
      obtain ⟨hne,hword,rest,rfl⟩ := exists_of_fragment hf
      have hlength := List.length_pos_iff.mpr hne
      rw [List.length_append] at h
      obtain ⟨pieces,hp,hflat⟩ := @ih rest (by omega)
      have hread : rest ≠ piece ++ rest := by
        intro he
        have := congrArg List.length he
        rw [List.length_append] at this
        omega
      refine ⟨piece :: pieces,?_,?_⟩
      · simp only [List.drop_left,hread,if_false,hp,Option.map_some]
      · rw [List.flatten_cons,hflat]
        exact (List.takeWhile_append_of_pos hword).symm

lemma exists_fragments (text : List Char) :
    ∃ pieces, fragments text = some pieces ∧ pieces.flatten = text.takeWhile isWordChar :=
  exists_fragmentsWithin (Nat.lt_succ_self _)

/-- The fragments of a name are joined without anything between them. -/
lemma normalize_ofList (pieces : List (List Char)) :
    normalize (pieces.map String.ofList) = String.ofList pieces.flatten := by
  apply String.toList_injective
  change (String.join (pieces.map String.ofList)).toList = _
  induction pieces with
  | nil => rfl
  | cons piece pieces ih => simp [String.join_cons,ih]

/-- Behind a letter, the whole run of letters, digits and underscores is the name. -/
lemma identifier_of_letter {c : Char} (hc : isLetter c = true) (tail : List Char) :
    identifier (c :: tail) = some (String.ofList ((c :: tail).takeWhile isWordChar),
      ((c :: tail).takeWhile isWordChar).length) := by
  cases hf : fragment Char.isAlpha (c :: tail) with
  | none =>
    have hnone := fragment_eq_none_iff.mp hf
    simp [isLetter] at hc
    simp [hc] at hnone
  | some head =>
    obtain ⟨hne,hletters,rest,htext⟩ := exists_of_fragment hf
    obtain ⟨pieces,hp,hflat⟩ := exists_fragments rest
    have hword : ∀ d ∈ head, isWordChar d = true := by
      intro d hd
      have := hletters d hd
      simp only [isWordChar,Char.isAlphanum,Bool.or_eq_true] at this ⊢
      tauto
    have hall : (head :: pieces).flatten = (c :: tail).takeWhile isWordChar := by
      rw [List.flatten_cons,hflat,htext,List.takeWhile_append_of_pos hword]
    have hdrop : (c :: tail).drop head.length = rest := by rw [htext,List.drop_left]
    rw [← hall,← normalize_ofList]
    simp only [identifier,hf,Option.bind_eq_bind,Option.bind_some,hdrop,hp]
    rfl

lemma identifier_of_not_letter {c : Char} (hc : isLetter c = false) (tail : List Char) :
    identifier (c :: tail) = none := by
  have hf : fragment Char.isAlpha (c :: tail) = none := by
    rw [fragment_eq_none_iff,List.takeWhile_cons_of_neg]
    simpa [isLetter] using hc
  simp [identifier,hf]

end Formula.Token
