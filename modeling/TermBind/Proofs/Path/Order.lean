import TermBind.Proofs.Path.Spelling

/-! Paths are ordered by the places that they name. -/
namespace TermBind

open Std

namespace Component

theorem compare_eq (left right : Component) :
    compare left right = compareLex (compareOn rank) (compareOn name?) left right := by
  cases left <;> cases right <;> rfl

instance : TransOrd Component := by
  have same : (compare : Component → Component → Ordering) =
      compareLex (compareOn rank) (compareOn name?) :=
    funext fun left => funext fun right => compare_eq left right
  unfold TransOrd
  rw [same]
  infer_instance

instance : LawfulEqOrd Component where
  eq_of_compare {left right} level := by
    rw [compare_eq] at level
    obtain ⟨ranks, names⟩ := Ordering.then_eq_eq.mp level
    have ranks : left.rank = right.rank := LawfulEqOrd.eq_of_compare ranks
    have names : left.name? = right.name? := LawfulEqOrd.eq_of_compare names
    cases left <;> cases right <;> cases ranks <;> cases names <;> rfl

end Component

namespace Path

instance : TransOrd Path := inferInstanceAs (TransCmp (compareOn components))

theorem same_of_compare {left right : Path} (level : compare left right = .eq) :
    left.same right = true :=
  same_iff.mpr (LawfulEqOrd.eq_of_compare (level : compare left.components right.components = .eq))

end Path
end TermBind
