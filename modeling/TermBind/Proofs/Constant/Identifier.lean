import TermBind.Proofs.Constant
import TermBind.Source.Grammar.Basic

/-! Which constants are identifiers. Words are cut at what is neither letter nor digit, yet there are letters
and digits that no identifier has. -/
namespace TermBind

/-- What a declaration can be called: an identifier without a mark that is no keyword. A single
underscore is one. -/
def Source.IsFreeWord (text : String) : Prop := IsPlain text.toList ∧ text ∉ Grammar.keywords

namespace Constant

open Unicode

theorem isCapital_of_mem_shout {name : List Char} {d : Char} (member : d ∈ shout name) :
    d = '_' ∨ IsCapital d := by
  rcases mem_shout member with joint | ⟨c, _, lettered, raised⟩
  · exact Or.inl joint
  · exact Or.inr ((isRaised_upperCase c).isCapital lettered raised)

/-- No underscore stands in front. -/
theorem isCapital_of_head {name rest : List Char} {d : Char} (shouted : shout name = d :: rest) :
    IsCapital d := by
  have head := head?_shout name
  rw [shouted, List.head?_cons] at head
  obtain ⟨c, found, first⟩ := Option.bind_eq_some_iff.mp head.symm
  exact (isRaised_upperCase c).isCapital (List.find?_some found) (List.mem_of_head? first)

/-- The characters of a constant stand in identifiers just if the letters and digits do that it is
made of. -/
theorem isXidContinue_shout_iff {name : List Char} : (∀ d ∈ shout name, isXidContinue d = true) ↔
    ∀ c ∈ name, isAlphanumeric c = true → isXidContinue c = true := by
  constructor
  · intro continues c known lettered
    exact (isRaised_upperCase c).isXidContinue_iff.mp fun d raised =>
      continues d (mem_shout_of_mem known lettered raised)
  · intro continues d member
    rcases mem_shout member with rfl | ⟨c, known, lettered, raised⟩
    · decide
    · exact (isRaised_upperCase c).isXidContinue_iff.mpr (continues c known lettered) d raised

theorem isXidContinue_of_isIdentifierStart {c : Char} (starts : Source.isIdentifierStart c = true) :
    isXidContinue c = true := by
  rw [Source.isIdentifierStart, Bool.or_eq_true, beq_iff_eq] at starts
  rcases starts with rfl | starts
  · decide
  · exact isXidContinue_of_isXidStart starts

/-- A name is the constant as it is, or with an underscore before a digit. -/
theorem ofLocal?_cases {localName name : String} (known : ofLocal? localName = some name) :
    ∃ d rest, shout localName.toList = d :: rest ∧
      (d.isDigit = true ∧ name.toList = '_' :: d :: rest ∨
        d.isDigit = false ∧ name.toList = d :: rest) := by
  rw [ofLocal?] at known
  split at known
  · cases known
  rename_i d rest shouted
  refine ⟨d, rest, shouted, ?_⟩
  split at known
  · rename_i digit
    cases known
    exact Or.inl ⟨digit, String.toList_ofList⟩
  split at known
  · rename_i digitless _
    cases known
    exact Or.inr ⟨Bool.eq_false_iff.mpr digitless, String.toList_ofList⟩
  · cases known

theorem exists_capital {localName name : String} (known : ofLocal? localName = some name) :
    (∃ d ∈ name.toList, IsCapital d) ∧ ∀ d ∈ name.toList, d = '_' ∨ IsCapital d := by
  obtain ⟨d, rest, shouted, spelled⟩ := ofLocal?_cases known
  have capital := isCapital_of_head shouted
  have each : ∀ d' ∈ d :: rest, d' = '_' ∨ IsCapital d' := fun d' member =>
    isCapital_of_mem_shout (shouted ▸ member)
  rcases spelled with ⟨_, spelled⟩ | ⟨_, spelled⟩
  · rw [spelled]
    exact ⟨⟨d, by simp, capital⟩, List.forall_mem_cons.mpr ⟨Or.inl rfl, each⟩⟩
  · rw [spelled]
    exact ⟨⟨d, by simp, capital⟩, each⟩

/-- Keywords are written in small letters, but for the underscore. -/
theorem not_mem_keywords {localName name : String} (known : ofLocal? localName = some name) :
    name ∉ Source.Grammar.keywords := by
  have small : (Source.Grammar.keywords.all fun word => word.toList == ['_'] ||
      word.toList.any fun c => c != '_' && !decide (IsCapital c)) = true := by decide +kernel
  obtain ⟨⟨d, own, capital⟩, each⟩ := exists_capital known
  intro listed
  rcases Bool.or_eq_true_iff.mp (List.all_eq_true.mp small name listed) with mark | lower
  · rw [beq_iff_eq.mp mark, List.mem_singleton] at own
    exact absurd (own ▸ capital) (by decide)
  · obtain ⟨c, member, lower⟩ := List.any_eq_true.mp lower
    rw [Bool.and_eq_true, bne_iff_ne, Bool.not_eq_true', decide_eq_false_iff_not] at lower
    exact (each c member).elim lower.1 lower.2

theorem isPlain_iff {localName name : String} (known : ofLocal? localName = some name) :
    Source.IsPlain name.toList ↔
      (∀ d ∈ shout localName.toList, isXidContinue d = true) ∧
        ∃ d ∈ (shout localName.toList).head?,
          d.isDigit = true ∨ Source.isIdentifierStart d = true := by
  obtain ⟨d, rest, shouted, spelled⟩ := ofLocal?_cases known
  have first : (∃ d' ∈ (d :: rest).head?, d'.isDigit = true ∨ Source.isIdentifierStart d' = true) ↔
      d.isDigit = true ∨ Source.isIdentifierStart d = true := by simp
  rw [shouted, first]
  rcases spelled with ⟨digit, spelled⟩ | ⟨digitless, spelled⟩
  · rw [spelled]
    exact ⟨fun plain => ⟨plain.2, Or.inl digit⟩, fun each => ⟨by decide, each.1⟩⟩
  · rw [spelled, digitless]
    constructor
    · rintro ⟨starts, continues⟩
      have own := isXidContinue_of_isIdentifierStart starts
      exact ⟨List.forall_mem_cons.mpr ⟨own, continues⟩, Or.inr starts⟩
    · rintro ⟨continues, starts⟩
      exact ⟨starts.resolve_left Bool.false_ne_true, (List.forall_mem_cons.mp continues).2⟩

/-- A constant is never a keyword. It can be the name of a declaration just if every letter and digit of
the local name may stand in an identifier, and the first of them is raised to what may begin one, or to
a digit, which gets an underscore in front. -/
theorem isFreeWord_ofLocal?_iff {localName name : String} (known : ofLocal? localName = some name) :
    name ∉ Source.Grammar.keywords ∧
    (Source.IsFreeWord name ↔
      (∀ c ∈ localName.toList, isAlphanumeric c = true → isXidContinue c = true) ∧
      ∃ first ∈ localName.toList.find? isAlphanumeric, ∃ d ∈ (upperCase first).head?,
        d.isDigit = true ∨ Source.isIdentifierStart d = true) := by
  have free := not_mem_keywords known
  have first : (∃ d ∈ (shout localName.toList).head?,
        d.isDigit = true ∨ Source.isIdentifierStart d = true) ↔
      ∃ first ∈ localName.toList.find? isAlphanumeric, ∃ d ∈ (upperCase first).head?,
        d.isDigit = true ∨ Source.isIdentifierStart d = true := by
    simp only [head?_shout, Option.mem_def, Option.bind_eq_some_iff]
    grind
  refine ⟨free, ?_⟩
  rw [← first, ← isXidContinue_shout_iff, ← isPlain_iff known]
  exact and_iff_left free

/-- A digit in front gets an underscore; a raised figure is kept although no identifier has it. -/
theorem isFreeWord_ofLocal?_iff_model :
    ofLocal? "3d-modelName" = some "_3D_MODEL_NAME" ∧ Source.IsFreeWord "_3D_MODEL_NAME" ∧
      ofLocal? "m²" = some "M²" ∧ ¬ Source.IsFreeWord "M²" := by
  have model : ofLocal? "3d-modelName" = some "_3D_MODEL_NAME" := by decide +kernel
  have square : ofLocal? "m²" = some "M²" := by decide +kernel
  have letters : ("3d-modelName".toList.all fun c => !isAlphanumeric c || isXidContinue c) = true := by
    decide +kernel
  refine ⟨model, (isFreeWord_ofLocal?_iff model).2.mpr ⟨fun c member lettered => ?_, ?_⟩, square,
    fun free => ?_⟩
  · simpa [lettered] using List.all_eq_true.mp letters c member
  · exact ⟨'3', by decide, '3', by decide, Or.inl (by decide)⟩
  · have continues := ((isFreeWord_ofLocal?_iff square).2.mp free).1 '²' (by decide) (by decide +kernel)
    exact absurd continues (by decide +kernel)

/-- A circled letter has an upper case and makes a constant, which is no identifier. -/
theorem not_isFreeWord_circled : ofLocal? "ⓐ" = some "Ⓐ" ∧ ¬ Source.IsFreeWord "Ⓐ" := by
  refine ⟨by decide +kernel, fun free => ?_⟩
  exact absurd free.1 (by decide +kernel)

end Constant
end TermBind
