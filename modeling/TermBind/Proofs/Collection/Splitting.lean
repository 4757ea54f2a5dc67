import Mathlib.Data.List.Basic

/-! The parts of a list between the marks in it. -/
namespace TermBind.Collection

/-- Together the parts are what is left without the marks. -/
theorem flatten_splitOnP {α : Type*} (isMark : α → Bool) (items : List α) :
    (items.splitOnP isMark).flatten = items.filter fun item => !isMark item := by
  induction items with
  | nil => rfl
  | cons item rest ih =>
    rw [List.splitOnP_cons_eq_if_modifyHead]
    by_cases marked : isMark item = true
    · simp [marked, ih]
    · obtain ⟨part, others, split⟩ := List.exists_cons_of_ne_nil (List.splitOnP_ne_nil isMark rest)
      rw [split, List.flatten_cons] at ih
      simp [marked, split, ← ih]

variable {α : Type*} [BEq α] [LawfulBEq α] {mark item : α}

theorem mem_iff_mem_splitOn (other : item ≠ mark) (items : List α) :
    item ∈ items ↔ ∃ part ∈ items.splitOn mark, item ∈ part := by
  rw [← List.mem_flatten, List.splitOn, flatten_splitOnP]
  simp [other]

theorem not_mem_of_mem_splitOn {items part : List α} (member : part ∈ items.splitOn mark) :
    mark ∉ part := by
  intro own
  have left : mark ∈ (items.splitOn mark).flatten := List.mem_flatten.mpr ⟨part, member, own⟩
  rw [List.splitOn, flatten_splitOnP] at left
  simp at left

theorem count_flatten_splitOn (other : item ≠ mark) (items : List α) :
    (items.splitOn mark).flatten.count item = items.count item := by
  rw [List.splitOn, flatten_splitOnP, List.count_filter (by simpa using other)]

/-- What follows a mark has no part in the first. -/
theorem head?_splitOn_append (left right : List α) :
    ((left ++ mark :: right).splitOn mark).head? = (left.splitOn mark).head? := by
  obtain ⟨first, others, split⟩ := List.exists_cons_of_ne_nil (List.splitOn_ne_nil mark left)
  rw [List.splitOn_append_cons_self, split]
  rfl

end TermBind.Collection
