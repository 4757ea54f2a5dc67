import TermBind.Proofs.Constant.Identifier
import TermBind.Proofs.Source.Quotation
import TermBind.Source.Module

/-! What passes for an identifier: the token of one, which may have blanks around it. -/
namespace TermBind.Source

/-- An identifier as one token, plain or with the mark of a raw one; no keyword is plain. -/
def IsIdentifierToken (text : String) : Prop := Lexer.IsWritten text.toList ∧ text ∉ Grammar.keywords

/-- A text holds a token and nothing else but blanks and, in front, a byte order mark. -/
def Holds (text token : String) : Prop :=
  ∃ mark before after, text.toList = mark ++ (before ++ (token.toList ++ after)) ∧
    (mark = [] ∨ mark = ['\ufeff']) ∧ (∀ c ∈ before, Lexer.isBlank c = true) ∧
    ∀ c ∈ after, Lexer.isBlank c = true

namespace Lexer

/-- What is already settled about the trees of a text: those read so far come first and, within a group,
those before it and the group that it becomes. -/
def Settled (result : List Tree) : List Frame → List Tree → Prop
  | [], trees => trees.reverse <+: result
  | frame :: below, _ => ∃ inner closing,
    Settled result below (.group frame.delimiter inner frame.opening closing :: frame.before)

theorem Settled.of_cons {result trees : List Tree} {stack : List Frame} {tree : Tree}
    (settled : Settled result stack (tree :: trees)) : Settled result stack trees := by
  cases stack with
  | nil => exact List.IsPrefix.trans (by simp) settled
  | cons frame below => exact settled

theorem settled_of_assemble {stack : List Frame} {trees result : List Tree} {lexemes : List Lexeme}
    (built : assemble stack trees lexemes = .ok result) : Settled result stack trees := by
  induction lexemes generalizing stack trees with
  | nil =>
    cases stack with
    | nil =>
      cases built
      exact List.prefix_rfl
    | cons frame below => cases built
  | cons lexeme rest ih =>
    cases lexeme with
    | leaf tree => exact (ih built).of_cons
    | opening delimiter place =>
      obtain ⟨inner, closing, settled⟩ := ih built
      exact settled.of_cons
    | closing delimiter place =>
      cases stack with
      | nil => cases built
      | cons frame below =>
        rw [assemble] at built
        split at built
        · rename_i fits
          exact ⟨trees.reverse, place, fits ▸ ih built⟩
        · cases built
    | fault place => cases built

/-- Where a group opens there is more than a word. -/
theorem not_settled_word {word : Word} {place : Position} (frame : Frame) (trees : List Tree) :
    ¬ Settled [.word word place] [frame] trees := by
  rintro ⟨inner, closing, settled⟩
  have member := settled.mem (List.mem_reverse.mpr List.mem_cons_self)
  cases List.mem_singleton.mp member

/-- A single word comes from a single lexeme. -/
theorem eq_leaf_of_assemble {lexemes : List Lexeme} {word : Word} {place : Position}
    (built : assemble [] [] lexemes = .ok [.word word place]) : lexemes = [.leaf (.word word place)] := by
  cases lexemes with
  | nil => cases built
  | cons lexeme rest =>
    cases lexeme with
    | leaf tree =>
      cases rest with
      | nil =>
        cases built
        rfl
      | cons lexeme rest =>
        cases lexeme with
        | leaf next =>
          have settled : Settled _ [] [next, tree] := settled_of_assemble built
          simp [Settled] at settled
        | opening delimiter opening => exact (not_settled_word _ _ (settled_of_assemble built)).elim
        | closing delimiter closing => cases built
        | fault fault => cases built
    | opening delimiter opening => exact (not_settled_word _ _ (settled_of_assemble built)).elim
    | closing delimiter closing => cases built
    | fault fault => cases built

/-- Lexemes that have been read come first. -/
theorem prefix_lexemesFrom (fuel : Nat) (read : List Lexeme) (place : Position) (text : List Char) :
    read.reverse <+: lexemesFrom fuel read place text := by
  induction fuel generalizing read place text with
  | zero => simp [lexemesFrom]
  | succ fuel ih =>
    have later : ∀ (more : List Lexeme) (place : Position) (text : List Char),
        read.reverse <+: lexemesFrom fuel (more ++ read) place text := by
      intro more place text
      exact List.IsPrefix.trans (by simp) (ih (more ++ read) place text)
    rw [lexemesFrom]
    dsimp only
    split
    · split
      · exact later _ _ _
      · simp
    · split
      · exact List.prefix_rfl
      · split
        · exact later [_] _ _
        · exact later [_] _ _
        · split
          · exact later [_] _ _
          · simp

section Slashless

variable {fuel : Nat} {text : List Char} (slashless : '/' ∉ text) (enough : text.length ≤ fuel)
include slashless enough

/-- Without slashes, what comes first after blanks is a token, a side of a group or a fault. -/
theorem lexemesFrom_cases (read : List Lexeme) (place : Position) :
    lexemesFrom (fuel + 1) read place text = read.reverse ∧ text.dropWhile isBlank = [] ∨
    (∃ lexeme, (∀ tree, lexeme ≠ .leaf tree) ∧
      (lexeme :: read).reverse <+: lexemesFrom (fuel + 1) read place text) ∨
    ∃ tree taken rest own after, leaf? own (text.dropWhile isBlank) = some (tree, taken, rest) ∧
      lexemesFrom (fuel + 1) read place text = lexemesFrom fuel (.leaf tree :: read) after rest := by
  have skipped := skip_of_slashless slashless (Nat.le_succ_of_le enough) []
  have undocumented : docComment? (text.dropWhile isBlank) = none :=
    docComment?_of_slashless fun member => slashless ((List.dropWhile_suffix _).mem member)
  rw [lexemesFrom, skipped]
  simp only [undocumented]
  split
  · rename_i ended
    exact Or.inl ⟨rfl, ended⟩
  · rename_i c others leads
    split
    · exact Or.inr (Or.inl ⟨.opening .., nofun, prefix_lexemesFrom ..⟩)
    · exact Or.inr (Or.inl ⟨.closing .., nofun, prefix_lexemesFrom ..⟩)
    · split
      · rename_i tree taken rest found
        exact Or.inr (Or.inr ⟨tree, taken, rest, _, _, found, rfl⟩)
      · exact Or.inr (Or.inl ⟨.fault _, nofun, List.prefix_rfl⟩)

/-- What adds no lexeme is blank. -/
theorem isBlank_of_lexemesFrom {read : List Lexeme} {place : Position}
    (same : lexemesFrom (fuel + 1) read place text = read.reverse) : ∀ c ∈ text, isBlank c = true := by
  rcases lexemesFrom_cases slashless enough read place with ⟨_, ended⟩ | ⟨lexeme, _, more⟩ |
    ⟨tree, _, rest, _, after, _, more⟩
  · have whole := List.takeWhile_append_dropWhile (p := isBlank) (l := text)
    rw [ended, List.append_nil] at whole
    exact fun c member => List.all_eq_true.mp List.all_takeWhile c (whole.symm ▸ member)
  · have longer := more.length_le
    rw [same, List.length_reverse, List.length_reverse] at longer
    exact absurd longer (Nat.not_succ_le_self _)
  · have longer := (prefix_lexemesFrom fuel (.leaf tree :: read) after rest).length_le
    rw [← more, same, List.length_reverse, List.length_reverse] at longer
    exact absurd longer (Nat.not_succ_le_self _)

end Slashless

/-- A text of a single word has only blanks around it. -/
theorem exists_blanks_of_lexemes {place own : Position} {text : List Char} {word : Word}
    (slashless : '/' ∉ text) (single : lexemes place text = [.leaf (.word word own)]) :
    IsWritten word.text.toList ∧ ∃ before after, text = before ++ (word.text.toList ++ after) ∧
      (∀ c ∈ before, isBlank c = true) ∧ ∀ c ∈ after, isBlank c = true := by
  rw [lexemes] at single
  rcases lexemesFrom_cases slashless (Nat.le_refl _) [] place with ⟨none, _⟩ | ⟨lexeme, other, first⟩ |
    ⟨tree, taken, rest, _, after, found, later⟩
  · cases none.symm.trans single
  · rw [single] at first
    exact absurd (List.mem_singleton.mp (first.mem (by simp))) (other _)
  rw [single] at later
  have same : Lexeme.leaf tree ∈ [Lexeme.leaf (.word word own)] :=
    later ▸ (prefix_lexemesFrom _ _ after rest).mem (by simp)
  cases List.mem_singleton.mp same
  obtain ⟨spelled, isWritten⟩ := isWritten_of_leaf? found
  have whole := List.takeWhile_append_dropWhile (p := isBlank) (l := text)
  rw [← spelled] at whole
  have slashless' : '/' ∉ rest := fun member => slashless (whole ▸ by simp [member])
  obtain ⟨fuel, counted, enough⟩ : ∃ fuel, text.length = fuel + 1 ∧ rest.length ≤ fuel := by
    obtain ⟨c, others, leads, _⟩ := exists_start_of_isWritten isWritten
    have lengths := congrArg List.length whole
    simp only [leads, List.length_append, List.length_cons] at lengths
    exact ⟨text.length - 1, by omega, by omega⟩
  rw [counted] at later
  exact ⟨isWritten, _, rest, whole.symm, fun c => List.all_eq_true.mp List.all_takeWhile c,
    isBlank_of_lexemesFrom slashless' enough later.symm⟩

/-- The code points of blanks. -/
def blankCodes : List Nat :=
  List.range' 0x9 5 ++ [0x20, 0x85, 0xa0, 0x1680] ++ List.range' 0x2000 11 ++
    [0x200e, 0x200f, 0x2028, 0x2029, 0x202f, 0x205f, 0x3000]

theorem toNat_mem_blankCodes {c : Char} (blank : isBlank c = true) : c.toNat ∈ blankCodes := by
  simp only [isBlank, Unicode.isWhitespace, Bool.or_eq_true, Bool.and_eq_true, beq_iff_eq,
    decide_eq_true_eq] at blank
  simp only [blankCodes, List.mem_append, List.mem_range'_1, List.mem_cons, List.not_mem_nil, or_false]
  omega

/-- Blanks neither go on with an identifier nor mark a quotation. -/
theorem isIdentifierRest_of_isBlank {c : Char} (blank : isBlank c = true) :
    isIdentifierRest c = false := by
  have each : ∀ code ∈ blankCodes, isIdentifierRest (Char.ofNat code) = false := by decide +kernel
  have own := each c.toNat (toNat_mem_blankCodes blank)
  rwa [Char.ofNat_toNat] at own

theorem isBare_of_isBlank {text : List Char} (blank : ∀ c ∈ text, isBlank c = true) : IsBare text where
  hashless member := absurd (blank _ member) (by decide)
  unquoted member := absurd (blank _ member) (by decide)
  unmarked member := absurd (blank _ member) (by decide)

theorem not_isBlank_of_start {c : Char} (start : isIdentifierStart c = true) : isBlank c = false := by
  refine Bool.eq_false_iff.mpr fun blank => ?_
  have continues := Constant.isXidContinue_of_isIdentifierStart start
  rw [show Unicode.isXidContinue c = _ from isIdentifierRest_of_isBlank blank] at continues
  cases continues

theorem slashless_of_isBlank {text : List Char} (blank : ∀ c ∈ text, isBlank c = true) : '/' ∉ text :=
  fun member => absurd (blank _ member) (by decide)

theorem lexemesFrom_of_isBlank {text : List Char} (blank : ∀ c ∈ text, isBlank c = true) {fuel : Nat}
    (enough : text.length ≤ fuel) (read : List Lexeme) (place : Position) :
    lexemesFrom (fuel + 1) read place text = read.reverse := by
  have slashless := slashless_of_isBlank blank
  have dropped : text.dropWhile isBlank = [] := by
    rw [← List.append_nil text, List.dropWhile_append_of_pos blank, List.dropWhile_nil]
  rw [lexemesFrom, skip_of_slashless slashless (Nat.le_succ_of_le enough), dropped]
  rfl

/-- No identifier has a byte order mark. -/
theorem mark_not_mem_of_isWritten {written : List Char} (isWritten : IsWritten written) :
    '\ufeff' ∉ written :=
  not_mem_of_isWritten (by decide +kernel) (by decide +kernel) (by decide) isWritten

theorem ofOpening?_of_start {c : Char} (start : isIdentifierStart c = true) :
    Delimiter.ofOpening? c = none ∧ Delimiter.ofClosing? c = none := by
  constructor
  · unfold Delimiter.ofOpening?
    split
    case h_4 => rfl
    all_goals exact absurd start (by decide)
  · unfold Delimiter.ofClosing?
    split
    case h_4 => rfl
    all_goals exact absurd start (by decide)

/-- A word with blanks around it is a single lexeme. -/
theorem lexemes_of_isWritten {before written after : List Char} (isWritten : IsWritten written)
    (first : ∀ c ∈ before, isBlank c = true) (last : ∀ c ∈ after, isBlank c = true)
    (place : Position) : ∃ word own, word.text = String.ofList written ∧
      lexemes place (before ++ (written ++ after)) = [.leaf (.word word own)] := by
  obtain ⟨c, others, leads, start⟩ := exists_start_of_isWritten isWritten
  have slashless : '/' ∉ written ++ after := by
    simp only [List.mem_append, not_or]
    exact ⟨not_mem_of_isWritten (by decide) (by decide) (by decide) isWritten, slashless_of_isBlank last⟩
  have slashless' : '/' ∉ before ++ (written ++ after) := by
    simp only [List.mem_append, not_or] at slashless ⊢
    exact ⟨slashless_of_isBlank first, slashless⟩
  have skipped := skip_of_slashless slashless' (Nat.le_succ _) []
  rw [List.takeWhile_append_of_pos first, List.dropWhile_append_of_pos first, leads, List.cons_append,
    List.takeWhile_cons_of_neg (by simp [not_isBlank_of_start start]),
    List.dropWhile_cons_of_neg (by simp [not_isBlank_of_start start]), List.append_nil,
    List.append_nil] at skipped
  obtain ⟨word, spelled, found⟩ := leaf?_of_isWritten isWritten
    (fun c member => isIdentifierRest_of_isBlank (last c (List.mem_of_head? member)))
    (isBare_of_isBlank last) (place.afterAll before)
  have undocumented := docComment?_of_slashless slashless
  rw [leads, List.cons_append] at found undocumented
  refine ⟨word, place.afterAll before, spelled, ?_⟩
  rw [lexemes, leads, List.cons_append, lexemesFrom_leaf skipped undocumented
    (ofOpening?_of_start start).1 (ofOpening?_of_start start).2 found]
  have counted : (before ++ c :: (others ++ after)).length =
      (before.length + others.length + after.length) + 1 := by
    simp only [List.length_append, List.length_cons]
    omega
  rw [counted]
  exact lexemesFrom_of_isBlank last (Nat.le_add_left ..) _ _

end Lexer

theorem isIdentifier_eq_true_iff {text : String} : isIdentifier text = true ↔
    ∃ word place, trees text.toList = .ok [.word word place] ∧ word.text ∉ Grammar.keywords := by
  unfold isIdentifier
  split
  · rename_i tree read
    rw [read]
    cases tree <;> simp [Grammar.atName]
  · rename_i other
    simp only [Bool.false_eq_true, false_iff]
    rintro ⟨word, place, read, _⟩
    exact other _ read

/-- A byte order mark is left out, and a text without one is read whole. -/
theorem exists_lexemes (text : List Char) : ∃ mark body place, text = mark ++ body ∧
    (mark = [] ∨ mark = ['\ufeff']) ∧ trees text = Lexer.assemble [] [] (Lexer.lexemes place body) := by
  unfold trees
  split
  · exact ⟨['\ufeff'], _, _, rfl, Or.inr rfl, rfl⟩
  · exact ⟨[], text, _, rfl, Or.inl rfl, rfl⟩

theorem trees_append {mark body : List Char} (marked : mark = [] ∨ mark = ['\ufeff'])
    (unmarked : '\ufeff' ∉ body) :
    ∃ place, trees (mark ++ body) = Lexer.assemble [] [] (Lexer.lexemes place body) := by
  rcases marked with rfl | rfl
  · rw [List.nil_append]
    unfold trees
    split
    · exact absurd List.mem_cons_self unmarked
    · exact ⟨_, rfl⟩
  · exact ⟨_, rfl⟩

/-- The test of identifiers admits a token of one with blanks around it and a byte order mark in front. -/
theorem isIdentifier_iff {text : String} (slashless : '/' ∉ text.toList) :
    isIdentifier text = true ↔ ∃ token, IsIdentifierToken token ∧ Holds text token := by
  rw [isIdentifier_eq_true_iff]
  constructor
  · rintro ⟨word, own, read, free⟩
    obtain ⟨mark, body, place, spelled, marked, same⟩ := exists_lexemes text.toList
    have slashless' : '/' ∉ body := fun member => slashless (spelled ▸ List.mem_append_right mark member)
    obtain ⟨isWritten, before, after, rfl, first, last⟩ := Lexer.exists_blanks_of_lexemes slashless'
      (Lexer.eq_leaf_of_assemble (same.symm.trans read))
    exact ⟨word.text, ⟨isWritten, free⟩, mark, before, after, spelled, marked, first, last⟩
  · rintro ⟨token, ⟨isWritten, free⟩, mark, before, after, spelled, marked, first, last⟩
    have unmarked : '\ufeff' ∉ before ++ (token.toList ++ after) := by
      simp only [List.mem_append, not_or]
      exact ⟨fun member => absurd (first _ member) (by decide),
        Lexer.mark_not_mem_of_isWritten isWritten, fun member => absurd (last _ member) (by decide)⟩
    obtain ⟨place, read⟩ := trees_append marked unmarked
    obtain ⟨word, own, same, single⟩ := Lexer.lexemes_of_isWritten isWritten first last place
    rw [String.ofList_toList] at same
    exact ⟨word, own, by rw [spelled, read, single]; rfl, same ▸ free⟩

/-- Only what stands around it keeps a text that is admitted from being the token itself. -/
theorem isIdentifierToken_iff {text token : String} (named : IsIdentifierToken token)
    (holds : Holds text token) :
    IsIdentifierToken text ↔ ∀ c ∈ text.toList, Lexer.isBlank c = false ∧ c ≠ '\ufeff' := by
  constructor
  · rintro ⟨isWritten, _⟩ c member
    constructor
    · refine Bool.eq_false_iff.mpr fun blank => ?_
      have unstarted : isIdentifierStart c = false :=
        Bool.eq_false_iff.mpr fun start => absurd blank (by simp [Lexer.not_isBlank_of_start start])
      have unheld := Lexer.isIdentifierRest_of_isBlank blank
      refine Lexer.not_mem_of_isWritten unstarted unheld ?_ isWritten member
      rintro rfl
      exact absurd blank (by decide)
    · rintro rfl
      exact Lexer.mark_not_mem_of_isWritten isWritten member
  · intro bare
    obtain ⟨mark, before, after, spelled, marked, first, last⟩ := holds
    have unmarked : mark = [] := by
      refine marked.resolve_right ?_
      rintro rfl
      exact (bare '\ufeff' (by simp [spelled])).2 rfl
    have blankless : ∀ blanks : List Char, (∀ c ∈ blanks, Lexer.isBlank c = true) →
        blanks ⊆ text.toList → blanks = [] := by
      intro blanks blank within
      refine List.eq_nil_iff_forall_not_mem.mpr fun c member => ?_
      exact absurd (blank c member) (by simp [(bare c (within member)).1])
    have none := blankless before first fun c member => by simp [spelled, member]
    have none' := blankless after last fun c member => by simp [spelled, member]
    rw [unmarked, none, none', List.nil_append, List.nil_append, List.append_nil,
      String.toList_inj] at spelled
    exact spelled ▸ named

end TermBind.Source
