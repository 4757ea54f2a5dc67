import TermBind.Path
import TermBind.Proofs.Collection.Splitting

/-! Spellings of a path. Equality of paths looks at components and a report shows texts, so what a
text has beyond its components is what the two can disagree about. -/
namespace TermBind.Path

open Collection

/-- No place is written in two ways. -/
def SpelledAlike (paths : List Path) : Prop :=
  ∀ left ∈ paths, ∀ right ∈ paths, left.same right = true → left = right

instance (paths : List Path) : Decidable (SpelledAlike paths) := by
  unfold SpelledAlike
  infer_instance

theorem SpelledAlike.of_subset {paths others : List Path} (alike : SpelledAlike paths)
    (included : others ⊆ paths) : SpelledAlike others :=
  fun left member right member' => alike left (included member) right (included member')

theorem same_iff {left right : Path} :
    left.same right = true ↔ left.components = right.components := beq_iff_eq

section Commas

def commas (path : Path) : Nat := path.text.toList.count ','

def letters : Component → List Char
  | .normal name => name.toList
  | _ => []

theorem count_component? (segment : String) :
    ((component? segment).toList.flatMap letters).count ',' = segment.toList.count ',' := by
  unfold component?
  by_cases empty : segment = ""
  · subst empty
    rfl
  by_cases dot : segment = "."
  · subst dot
    rfl
  by_cases dots : segment = ".."
  · subst dots
    rfl
  simp [empty, dot, dots, letters]

theorem count_leading? (segment : String) :
    ((leading? segment).toList.flatMap letters).count ',' = segment.toList.count ',' := by
  unfold leading?
  by_cases dot : segment = "."
  · subst dot
    rfl
  simpa [dot] using count_component? segment

theorem count_filterMap_component? (segments : List String) :
    ((segments.filterMap component?).flatMap letters).count ',' =
      (segments.flatMap String.toList).count ',' := by
  induction segments with
  | nil => rfl
  | cons segment rest ih =>
    have own := count_component? segment
    cases found : component? segment with
    | none =>
      rw [found] at own
      simp [found, ih, ← own]
    | some component =>
      rw [found] at own
      simp [found, ih, ← own]

theorem count_segments (path : Path) :
    (path.segments.flatMap String.toList).count ',' = path.commas := by
  have split : ∀ text : List Char, ((text.splitOn '/').map String.ofList).flatMap String.toList =
      (text.splitOn '/').flatten := by
    intro text
    simp [List.flatMap_map]
  simp only [segments, split, count_flatten_splitOn (show ',' ≠ '/' by decide), commas]
  by_cases absolute : path.isAbsolute = true
  · simp only [absolute, if_true]
    have slash : path.text.toList.head? = some '/' := by simpa [isAbsolute] using absolute
    cases text : path.text.toList with
    | nil => rfl
    | cons c rest =>
      rw [text] at slash
      cases slash
      simp
  · simp [absolute]

/-- Empty and dot segments have no commas, so the components show all of them. -/
theorem commas_eq (path : Path) : path.commas = (path.components.flatMap letters).count ',' := by
  rw [← count_segments, components]
  by_cases absolute : path.isAbsolute = true
  · simp [absolute, count_filterMap_component?, letters]
  simp only [absolute, Bool.false_eq_true, if_false]
  cases path.segments with
  | nil => rfl
  | cons first rest =>
    simp [count_filterMap_component?, count_leading?, List.flatMap_append]

end Commas

section Joined

theorem eq_of_toList_eq {left right : Path} (same : left.text.toList = right.text.toList) :
    left = right :=
  congrArg Path.mk (String.toList_inj.mp same)

/-- Two beginnings of one text are equal if a comma or nothing follows each and they have as many
commas. -/
theorem eq_of_append_eq {left right restLeft restRight : List Char}
    (joined : left ++ restLeft = right ++ restRight)
    (commas : left.count ',' = right.count ',')
    (ended : ∀ c ∈ restLeft.head?, c = ',') (ended' : ∀ c ∈ restRight.head?, c = ',') :
    left = right := by
  rcases List.append_eq_append_iff.mp joined with ⟨more, longer, rest⟩ | ⟨more, longer, rest⟩
  · cases more with
    | nil => simpa using longer.symm
    | cons c others =>
      have comma : c = ',' := ended c (by simp [rest])
      subst comma
      simp [longer, List.count_append] at commas
  · cases more with
    | nil => simpa using longer
    | cons c others =>
      have comma : c = ',' := ended' c (by simp [rest])
      subst comma
      simp [longer, List.count_append] at commas

/-- Joined texts tell the paths apart when their numbers of commas are known. -/
theorem eq_of_joined_eq {lefts rights : List Path} (known : lefts.map commas = rights.map commas)
    (joined : ", ".intercalate (lefts.map text) = ", ".intercalate (rights.map text)) :
    lefts = rights := by
  replace joined : [',', ' '].intercalate (lefts.map (·.text.toList)) =
      [',', ' '].intercalate (rights.map (·.text.toList)) := by
    have texts := congrArg String.toList joined
    simpa [String.toList_intercalate, Function.comp_def] using texts
  induction lefts generalizing rights with
  | nil =>
    cases rights with
    | nil => rfl
    | cons right others => cases known
  | cons left rest ih =>
    cases rights with
    | nil => cases known
    | cons right others =>
      obtain ⟨own, knownRest⟩ := List.cons.inj known
      have lengths : rest.length = others.length := by simpa using congrArg List.length knownRest
      cases rest with
      | nil =>
        obtain rfl : others = [] := List.eq_nil_of_length_eq_zero lengths.symm
        have texts : left.text.toList = right.text.toList := by simpa using joined
        rw [eq_of_toList_eq texts]
      | cons second rest =>
        cases others with
        | nil => cases lengths
        | cons second' others =>
          simp only [List.map_cons, List.intercalate_cons_cons, List.append_assoc] at joined
          -- The first paths begin one text, and a comma follows each.
          have heads := eq_of_append_eq joined own (by simp) (by simp)
          rw [heads] at joined
          have tails := List.append_cancel_left (List.append_cancel_left joined)
          rw [ih knownRest tails, eq_of_toList_eq heads]

end Joined
end TermBind.Path
