import Mathlib.Data.List.Nodup
import TermBind.Proofs.Collection.Ascending
import TermBind.Config

/-! Diagnostics are shown by location, code and message. Those that tie stand in the same file. -/
namespace TermBind

open Std

instance : TransOrd Location :=
  inferInstanceAs (TransCmp (compareLex (compareOn Location.file)
    (compareLex (compareOn Location.line) (compareOn Location.column))))

instance : TransOrd Code := inferInstanceAs (TransCmp (compareOn Code.position))

theorem Location.file_eq_of_compare {left right : Location} (level : compare left right = .eq) :
    left.file = right.file :=
  LawfulEqOrd.eq_of_compare (Ordering.then_eq_eq.mp level).1

namespace Diagnostic

instance : TransOrd SortKey :=
  inferInstanceAs (TransCmp (compareLex (compareOn SortKey.location)
    (compareLex (compareOn SortKey.code) (compareOn SortKey.message))))

/-- The diagnostic stands in a file. -/
def StandsIn (file : String) (diagnostic : Diagnostic) : Prop :=
  diagnostic.location.map Location.file = some file

/-- Diagnostics of different files do not tie. -/
theorem file_eq_of_tied {left right : Diagnostic} {file file' : String} (first : left.StandsIn file)
    (second : right.StandsIn file') (level : compare left.sortKey right.sortKey = .eq) :
    file = file' := by
  obtain ⟨location, found, rfl⟩ := Option.map_eq_some_iff.mp first
  obtain ⟨location', found', rfl⟩ := Option.map_eq_some_iff.mp second
  have places : compare left.location right.location = .eq := (Ordering.then_eq_eq.mp level).1
  rw [found, found'] at places
  exact Location.file_eq_of_compare places

/-- A diagnostic as it is made, with one of some codes and no place yet. -/
def IsMade (codes : List Code) (diagnostic : Diagnostic) : Prop :=
  ∃ code ∈ codes, ∃ arguments, diagnostic = .of code arguments

theorem IsMade.unlocated {codes : List Code} {diagnostic : Diagnostic}
    (made : diagnostic.IsMade codes) : diagnostic.location = none := by
  obtain ⟨_, _, _, rfl⟩ := made
  rfl

theorem IsMade.code_mem {codes : List Code} {diagnostic : Diagnostic}
    (made : diagnostic.IsMade codes) : diagnostic.code ∈ codes := by
  obtain ⟨_, member, _, rfl⟩ := made
  exact member

theorem standsIn_locatedAt {diagnostic : Diagnostic} {location : Option Location} {file : String}
    (unlocated : diagnostic.location = none) (placed : location.map Location.file = some file) :
    (diagnostic.locatedAt location).StandsIn file := by
  rw [StandsIn, locatedAt, unlocated]
  exact placed

@[simp] theorem sortKey_apply (overrides : SeverityOverrides) (diagnostic : Diagnostic) :
    (overrides.apply diagnostic).sortKey = diagnostic.sortKey := rfl

/-- The settings of severities do not change the order of diagnostics. -/
theorem sortOn_apply_congr (overrides : SeverityOverrides) {left right : List Diagnostic}
    (same : ∀ at_, left.filter (fun diagnostic => compare diagnostic.sortKey at_ == .eq) =
      right.filter fun diagnostic => compare diagnostic.sortKey at_ == .eq) :
    Collection.sortOn sortKey (left.map overrides.apply) =
      Collection.sortOn sortKey (right.map overrides.apply) := by
  apply Collection.sortOn_congr
  intro at_
  simp only [List.filter_map, Function.comp_def, sortKey_apply]
  rw [same]

section Files

variable {α : Type u} {file : α → String} {found : α → List Diagnostic}

/-- Diagnostics that are collected file by file keep their order under each sort key in whatever
order the files come. -/
theorem filter_flatMap_eq_of_perm {left right : List α} (perm : left.Perm right)
    (distinct : (left.map file).Nodup)
    (placed : ∀ item ∈ left, ∀ diagnostic ∈ found item, diagnostic.StandsIn (file item))
    (at_ : SortKey) :
    (left.flatMap found).filter (fun diagnostic => compare diagnostic.sortKey at_ == .eq) =
      (right.flatMap found).filter fun diagnostic => compare diagnostic.sortKey at_ == .eq := by
  rw [List.filter_flatMap, List.filter_flatMap]
  apply Collection.flatMap_eq_of_perm perm
  intro first known second known' some some'
  obtain ⟨diagnostic, member⟩ := List.exists_mem_of_ne_nil _ some
  obtain ⟨diagnostic', member'⟩ := List.exists_mem_of_ne_nil _ some'
  obtain ⟨listed, level⟩ := List.mem_filter.mp member
  obtain ⟨listed', level'⟩ := List.mem_filter.mp member'
  have tied : compare diagnostic.sortKey diagnostic'.sortKey = .eq := by
    rw [TransCmp.congr_left (beq_iff_eq.mp level)]
    exact OrientedCmp.eq_symm (beq_iff_eq.mp level')
  have same := file_eq_of_tied (placed first known _ listed) (placed second known' _ listed') tied
  exact List.inj_on_of_nodup_map distinct known known' same

end Files
end Diagnostic
end TermBind
