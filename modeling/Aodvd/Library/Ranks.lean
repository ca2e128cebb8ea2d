/-
This file is a small library about relations along which a rank grows.

Following a relation for two steps may say more than following it for one: that the end of the
first step has a successor can be what makes its rank greater. Such a relation has no cycles, as
on a cycle every element has a successor.
-/

import Mathlib

namespace Ranks

variable {Element Rank : Type} [Preorder Rank] {leads : Element → Element → Prop}
  {rank : Element → Rank}

/-- The rank grows along every chain whose end has a successor. -/
theorem lt_of_transGen
    (grows : ∀ first second third, leads first second → leads second third →
      rank first < rank second) {first last next : Element}
    (chain : Relation.TransGen leads first last) (continues : leads last next) :
    rank first < rank last := by
  induction chain using Relation.TransGen.head_induction_on with
  | single step => exact grows _ _ _ step continues
  | head step rest inductionHypothesis =>
    obtain ⟨successor, goesOn, _⟩ := Relation.TransGen.head'_iff.mp rest
    exact lt_trans (grows _ _ _ step goesOn) inductionHypothesis

/-- Such a relation has no cycles. -/
theorem not_transGen_self
    (grows : ∀ first second third, leads first second → leads second third →
      rank first < rank second) (element : Element) :
    ¬ Relation.TransGen leads element element := by
  intro cycle
  obtain ⟨next, continues, _⟩ := Relation.TransGen.head'_iff.mp cycle
  exact lt_irrefl _ (lt_of_transGen grows cycle continues)

end Ranks
