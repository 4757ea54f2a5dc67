import TermBind.Proofs.Artifact.Terms
import TermBind.Proofs.Constant
import TermBind.Proofs.Text.Quoted

/-! Text as lines, and the one line that documents a term. -/
namespace TermBind.Artifact

/-- A text cut at its line feeds. -/
def linesOf (text : String) : List String := (text.toList.splitOn '\n').map String.ofList

/-- Lines as text. -/
def textOf (lines : List String) : String := String.join (lines.map (· ++ "\n"))

theorem textOf_append (lines others : List String) :
    textOf (lines ++ others) = textOf lines ++ textOf others := by
  simp [textOf]

theorem linesOf_append_lineFeed (first rest : String) :
    linesOf (first ++ "\n" ++ rest) = linesOf first ++ linesOf rest := by
  have whole : (first ++ "\n" ++ rest).toList = first.toList ++ '\n' :: rest.toList := by simp
  rw [linesOf, whole, List.splitOn_append_cons_self, List.map_append]
  rfl

theorem linesOf_of_inline {line : String} (inline : '\n' ∉ line.toList) : linesOf line = [line] := by
  rw [linesOf, List.splitOn_eq_singleton inline, List.map_singleton, String.ofList_toList]

/-- A line feed within a line cuts it further. -/
theorem linesOf_textOf_eq (lines : List String) :
    linesOf (textOf lines) = lines.flatMap linesOf ++ [""] := by
  induction lines with
  | nil => rfl
  | cons first rest ih =>
    have whole : textOf (first :: rest) = first ++ "\n" ++ textOf rest := by simp [textOf]
    rw [whole, linesOf_append_lineFeed, ih, List.flatMap_cons, List.append_assoc]

theorem linesOf_textOf {lines : List String} (inline : ∀ line ∈ lines, '\n' ∉ line.toList) :
    linesOf (textOf lines) = lines ++ [""] := by
  have each := fun line member => linesOf_of_inline (inline line member)
  rw [linesOf_textOf_eq, List.flatMap_def, List.map_congr_left each, ← List.flatMap_def,
    List.flatMap_singleton']

theorem mem_splitBlanks {text : List Char} {c : Char} :
    (∃ word ∈ splitBlanks text, c ∈ word) ↔ c ∈ text ∧ Unicode.isWhitespace c = false := by
  induction text with
  | nil => simp [splitBlanks]
  | cons head rest ih =>
    rw [splitBlanks]
    cases blank : Unicode.isWhitespace head with
    | true =>
      have apart : Unicode.isWhitespace c = false → c ≠ head := by
        rintro shown rfl
        rw [blank] at shown
        cases shown
      simp only [if_true, List.mem_cons, exists_eq_or_imp, List.not_mem_nil, false_or, ih]
      grind
    | false =>
      simp only [Bool.false_eq_true, if_false]
      cases split : splitBlanks rest with
      | nil =>
        simp only [split, List.not_mem_nil, false_and, exists_false, false_iff, not_and] at ih
        simp only [List.mem_cons, List.not_mem_nil, or_false, exists_eq_left]
        grind
      | cons word others =>
        simp only [split, List.mem_cons, exists_eq_or_imp] at ih ⊢
        grind

/-- A text has words just if it is not all blank. -/
theorem oneLine_ne_empty_iff {text : String} :
    oneLine text ≠ "" ↔ ∃ c ∈ text.toList, Unicode.isWhitespace c = false := by
  let words := (splitBlanks text.toList).filter fun word => !word.isEmpty
  have line : (oneLine text).toList = [' '].intercalate words := String.toList_ofList
  constructor
  · intro filled
    have some : words ≠ [] := by
      intro none
      rw [none] at line
      exact filled (String.toList_inj.mp line)
    obtain ⟨word, listed⟩ := List.exists_mem_of_ne_nil _ some
    obtain ⟨found, long⟩ := List.mem_filter.mp listed
    obtain ⟨c, own⟩ := List.exists_mem_of_ne_nil word (by simpa using long)
    exact ⟨c, mem_splitBlanks.mp ⟨word, found, own⟩⟩
  · rintro ⟨c, member, shown⟩ empty
    obtain ⟨word, found, own⟩ := mem_splitBlanks.mpr ⟨member, shown⟩
    have listed : word ∈ words :=
      List.mem_filter.mpr ⟨found, by simpa using List.ne_nil_of_mem own⟩
    have held := Collection.mem_intercalate_of_mem ' ' listed own
    rw [← line, empty] at held
    cases held

theorem lineFeed_not_mem_oneLine (text : String) : '\n' ∉ (oneLine text).toList := by
  intro member
  rw [oneLine, String.toList_ofList] at member
  rcases Collection.mem_intercalate member with joint | ⟨word, listed, own⟩
  · cases joint
  · have shown := (mem_splitBlanks.mp ⟨word, (List.mem_filter.mp listed).1, own⟩).2
    exact absurd shown (by decide)

/-- Some comment or label of an IRI is not all blank. -/
def IsDocumented (schema : Document) (iri : String) : Prop :=
  ∃ literal ∈ schema.literals iri commentIri ++ schema.literals iri labelIri,
    ∃ c ∈ literal.toList, Unicode.isWhitespace c = false

theorem isSome_documentation? {schema : Document} {iri : String} :
    (documentation? schema iri).isSome ↔ IsDocumented schema iri := by
  rw [documentation?, List.find?_isSome]
  simp only [IsDocumented, ← oneLine_ne_empty_iff]
  constructor
  · rintro ⟨line, listed, filled⟩
    obtain ⟨literal, member, rfl⟩ := List.mem_map.mp listed
    exact ⟨literal, member, by simpa using filled⟩
  · rintro ⟨literal, member, filled⟩
    exact ⟨oneLine literal, List.mem_map_of_mem member, by simpa using filled⟩

theorem lineFeed_not_mem_documentation {schema : Document} {iri text : String}
    (known : documentation? schema iri = some text) : '\n' ∉ text.toList := by
  obtain ⟨literal, _, rfl⟩ := List.mem_map.mp (List.mem_of_find?_eq_some known)
  exact lineFeed_not_mem_oneLine literal

end TermBind.Artifact
