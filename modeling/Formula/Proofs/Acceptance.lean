import Formula.Proofs.Halting
import Formula.Proofs.Unambiguous

/-! Which texts are read as expressions, and as which. -/
namespace Formula
open Grammar

/-- Exactly the sentences that nest no deeper than the limit are read, each as the tree of its only
derivation. -/
theorem parse_ok_iff_derives (requested : Nat) (source : String) (shape : Shape) :
    (∃ tree, parse (.ofRequest requested) source = .ok tree ∧ tree.shape = shape) ↔
      ∃ sentence : Sentence, sentence.text = source.toList ∧ sentence.nesting ≤ min requested 128 ∧
        sentence.shape = shape ∧ ∀ other : Sentence, other.text = source.toList → other = sentence := by
  constructor
  · rintro ⟨tree,htree,rfl⟩
    rw [parse] at htree
    rcases parseText_cases (.ofRequest requested) source.toList with
      ⟨sentence,ht,hn,hok⟩ | ⟨-,herr⟩ | ⟨before,rest,deep,-,-,-,herr⟩
    · rw [hok] at htree
      cases htree
      refine ⟨sentence,ht.symm,hn,(sentence.body.shape_tree _).symm,?_⟩
      intro other ho
      exact Sentence.text_injective (ho.trans ht)
    · rw [herr] at htree
      cases htree
    · rw [herr] at htree
      cases htree
  · rintro ⟨sentence,ht,hn,rfl,-⟩
    refine ⟨sentence.body.tree .first,?_,sentence.body.shape_tree _⟩
    rw [parse,← ht]
    exact parseText_of_sentence sentence hn

end Formula
