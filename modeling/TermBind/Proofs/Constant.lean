import TermBind.Constant
import TermBind.Proofs.Collection.Splitting
import TermBind.Proofs.Text.Unicode

/-! What constant names are made of. Their characters come from letters and digits, so a name stays on
its line and ends before a colon. -/
namespace TermBind

/-- What a joined list has is what joins it, or stands in one of its parts. -/
theorem Collection.mem_intercalate {α : Type} {mark item : α} {parts : List (List α)}
    (member : item ∈ [mark].intercalate parts) : item = mark ∨ ∃ part ∈ parts, item ∈ part := by
  induction parts with
  | nil => simp at member
  | cons first rest ih =>
    cases rest with
    | nil => exact Or.inr ⟨first, by simp, by simpa using member⟩
    | cons second rest =>
      rw [List.intercalate_cons_cons, List.append_assoc] at member
      rcases List.mem_append.mp member with own | member
      · exact Or.inr ⟨first, by simp, own⟩
      rcases List.mem_append.mp member with joint | later
      · exact Or.inl (List.mem_singleton.mp joint)
      · rcases ih later with joint | ⟨part, listed, own⟩
        · exact Or.inl joint
        · exact Or.inr ⟨part, List.mem_cons_of_mem _ listed, own⟩

theorem Collection.mem_intercalate_of_mem {α : Type} (mark : α) {item : α} {part : List α}
    {parts : List (List α)} (listed : part ∈ parts) (member : item ∈ part) :
    item ∈ [mark].intercalate parts := by
  induction parts with
  | nil => cases listed
  | cons first rest ih =>
    cases rest with
    | nil =>
      rw [List.mem_singleton.mp listed] at member
      simpa using member
    | cons second rest =>
      rw [List.intercalate_cons_cons]
      rcases List.mem_cons.mp listed with rfl | later
      · exact List.mem_append_left _ (List.mem_append_left _ member)
      · exact List.mem_append_right _ (ih later)

namespace Unicode

/-- Characters that a name of the generated text may have: neither colons nor line feeds. -/
def IsInline (c : Char) : Prop := c ≠ ':' ∧ c ≠ '\n'

instance : DecidablePred IsInline := fun c => inferInstanceAs (Decidable (c ≠ ':' ∧ c ≠ '\n'))

theorem IsCapital.isInline {c : Char} (capital : IsCapital c) : IsInline c := by
  constructor
  · rintro rfl
    exact absurd capital (by decide)
  · rintro rfl
    exact absurd capital (by decide)

end Unicode

namespace Constant

open Unicode

theorem flatten_splitCase (word : List Char) (mode : Mode) {text : List Char} (filled : text ≠ []) :
    (splitCase word mode text).flatten = word ++ text := by
  induction word, mode, text using splitCase.induct with
  | case1 => exact absurd rfl filled
  | case2 word mode only => simp [splitCase]
  | case3 word mode first next rest lowered ih =>
    rw [splitCase, if_pos lowered, List.flatten_cons, ih (by simp)]
    simp
  | case4 word mode first next rest unlowered raised ih =>
    rw [splitCase, if_neg unlowered, if_pos raised, List.flatten_cons, ih (by simp)]
    simp
  | case5 word mode first next rest unlowered unraised ih =>
    rw [splitCase, if_neg unlowered, if_neg unraised, ih (by simp)]
    simp

/-- The words of a name hold its letters and digits in their order, and nothing else. -/
theorem flatten_words (name : List Char) : (words name).flatten = name.filter isAlphanumeric := by
  have each : ∀ run : List Char, (splitCase [] .start run).flatten = run := by
    intro run
    cases run with
    | nil => rfl
    | cons c rest => exact flatten_splitCase [] .start (by simp)
  have runs := Collection.flatten_splitOnP (fun c => !isAlphanumeric c) name
  simp only [Bool.not_not] at runs
  rw [words, ← runs, List.flatMap_def, List.flatten_flatten, List.map_map]
  exact congrArg List.flatten (List.map_id'' each _)

/-- A word is cut off only after a character. In the middle of a run of capitals there is one. -/
theorem ne_nil_of_mem_splitCase {word text part : List Char} {mode : Mode}
    (begun : mode = .upper → word ≠ []) (listed : part ∈ splitCase word mode text) : part ≠ [] := by
  induction word, mode, text using splitCase.induct with
  | case1 => simp [splitCase] at listed
  | case2 word mode only => simp_all [splitCase]
  | case3 word mode first next rest lowered ih =>
    rw [splitCase, if_pos lowered] at listed
    rcases List.mem_cons.mp listed with rfl | later
    · simp
    · exact ih nofun later
  | case4 word mode first next rest unlowered raised ih =>
    rw [splitCase, if_neg unlowered, if_pos raised] at listed
    rcases List.mem_cons.mp listed with rfl | later
    · exact begun raised.1
    · exact ih nofun later
  | case5 word mode first next rest unlowered unraised ih =>
    rw [splitCase, if_neg unlowered, if_neg unraised] at listed
    exact ih (fun _ => by simp) listed

theorem ne_nil_of_mem_words {name word : List Char} (listed : word ∈ words name) : word ≠ [] := by
  obtain ⟨run, _, part⟩ := List.mem_flatMap.mp listed
  refine ne_nil_of_mem_splitCase ?_ part
  nofun

theorem mem_words {name : List Char} {c : Char} :
    (∃ word ∈ words name, c ∈ word) ↔ c ∈ name ∧ isAlphanumeric c = true := by
  rw [← List.mem_flatten, flatten_words, List.mem_filter]

/-- A constant is made of what the letters and digits of the name are raised to, and of underscores. -/
theorem mem_shout {name : List Char} {d : Char} (member : d ∈ shout name) :
    d = '_' ∨ ∃ c ∈ name, isAlphanumeric c = true ∧ d ∈ upperCase c := by
  rcases Collection.mem_intercalate member with joint | ⟨_, shouted, own⟩
  · exact Or.inl joint
  obtain ⟨word, listed, rfl⟩ := List.mem_map.mp shouted
  obtain ⟨c, lettered, raised⟩ := List.mem_flatMap.mp own
  obtain ⟨known, alphanumeric⟩ := mem_words.mp ⟨word, listed, lettered⟩
  exact Or.inr ⟨c, known, alphanumeric, raised⟩

theorem mem_shout_of_mem {name : List Char} {c d : Char} (known : c ∈ name)
    (alphanumeric : isAlphanumeric c = true) (raised : d ∈ upperCase c) : d ∈ shout name := by
  obtain ⟨word, listed, lettered⟩ := mem_words.mpr ⟨known, alphanumeric⟩
  exact Collection.mem_intercalate_of_mem '_' (List.mem_map_of_mem listed)
    (List.mem_flatMap.mpr ⟨c, lettered, raised⟩)

/-- A constant begins as its first letter or digit is raised. -/
theorem head?_shout (name : List Char) :
    (shout name).head? = (name.find? isAlphanumeric).bind fun c => (upperCase c).head? := by
  rw [← List.head?_filter, ← flatten_words]
  cases split : words name with
  | nil => simp [shout, split]
  | cons word others =>
    have filled := ne_nil_of_mem_words (show word ∈ words name by simp [split])
    obtain ⟨c, rest, rfl⟩ := List.exists_cons_of_ne_nil filled
    have raised := (isRaised_upperCase c).ne_nil
    obtain ⟨d, others', raised⟩ := List.exists_cons_of_ne_nil raised
    rw [shout, split, List.map_cons, List.flatMap_cons, raised]
    cases others <;> simp [List.intercalate_cons_cons, raised]

theorem isInline_of_mem_shout {name : List Char} {d : Char} (member : d ∈ shout name) :
    IsInline d := by
  rcases mem_shout member with rfl | ⟨c, _, lettered, raised⟩
  · decide
  · exact ((isRaised_upperCase c).isCapital lettered raised).isInline

/-- The characters of a constant name are plain. -/
theorem isInline_of_ofLocal? {localName name : String} (known : ofLocal? localName = some name) :
    ∀ c ∈ name.toList, IsInline c := by
  have plain : ∀ c ∈ shout localName.toList, IsInline c := fun c => isInline_of_mem_shout
  rw [ofLocal?] at known
  split at known
  · cases known
  · rename_i first rest shouted
    rw [shouted] at plain
    split at known
    · cases known
      rw [String.toList_ofList, List.forall_mem_cons]
      exact ⟨by decide, plain⟩
    · split at known
      · cases known
        simpa using plain
      · cases known

end Constant
end TermBind
