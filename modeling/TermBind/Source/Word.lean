import TermBind.Text.Unicode.Identifier

/-! Words of source files: identifiers and keywords, as they are written. -/
namespace TermBind.Source

def isIdentifierStart (c : Char) : Bool := c == '_' || Unicode.isXidStart c

def isIdentifierRest (c : Char) : Bool := Unicode.isXidContinue c

/-- Text read, the latest character first, and the text after it. -/
abbrev Taken := List Char × List Char

/-- Take characters while they satisfy a test. -/
def takeOn (test : Char → Bool) (taken : List Char) : List Char → Taken
  | [] => (taken, [])
  | c :: rest => if test c then takeOn test (c :: taken) rest else (taken, c :: rest)

/-- An identifier without the mark of a raw one. -/
def plainIdentifier? (taken : List Char) : List Char → Option Taken
  | c :: rest => if isIdentifierStart c then some (takeOn isIdentifierRest (c :: taken) rest) else none
  | [] => none

/-- The characters of an identifier without a mark. -/
def IsPlain : List Char → Prop
  | [] => False
  | first :: rest => isIdentifierStart first = true ∧ ∀ c ∈ rest, isIdentifierRest c = true

instance : (text : List Char) → Decidable (IsPlain text)
  | [] => .isFalse id
  | first :: rest =>
    decidable_of_iff (isIdentifierStart first = true ∧ rest.all isIdentifierRest = true)
      (by simp [IsPlain])

/-- A word is plain, or an identifier after the mark of a raw one. -/
def IsWord (text : String) : Prop :=
  IsPlain text.toList ∨ ∃ plain, text.toList = 'r' :: '#' :: plain ∧ IsPlain plain

structure Word where
  text : String
  isWord : IsWord text

instance : Repr Word := ⟨fun word precedence => reprPrec word.text precedence⟩

/-- A character that no identifier has is in no plain one. -/
theorem not_mem_of_isPlain {mark : Char} (unstarted : isIdentifierStart mark = false)
    (unheld : isIdentifierRest mark = false) {plain : List Char} (isPlain : IsPlain plain) :
    mark ∉ plain := by
  cases plain with
  | nil => exact List.not_mem_nil
  | cons first others =>
    intro member
    rcases List.mem_cons.mp member with rfl | later
    · exact absurd isPlain.1 (by simp [unstarted])
    · exact absurd (isPlain.2 _ later) (by simp [unheld])

theorem takeOn_eq (test : Char → Bool) (taken text : List Char) :
    ∃ read : List Char, (takeOn test taken text).1 = read.reverse ++ taken ∧ ∀ c ∈ read, test c := by
  induction text generalizing taken with
  | nil => exact ⟨[], rfl, by simp⟩
  | cons c rest ih =>
    rw [takeOn]
    split
    · rename_i passed
      obtain ⟨read, same, passes⟩ := ih (c :: taken)
      exact ⟨c :: read, by simp [same], by simpa [passed] using passes⟩
    · exact ⟨[], rfl, by simp⟩

theorem takeOn_append (test : Char → Bool) (taken text : List Char) :
    (takeOn test taken text).1.reverse ++ (takeOn test taken text).2 = taken.reverse ++ text := by
  induction text generalizing taken with
  | nil => simp [takeOn]
  | cons c rest ih =>
    rw [takeOn]
    split
    · rw [ih]
      simp
    · rfl

/-- What passes is taken up to the first character that does not. -/
theorem takeOn_of_all {test : Char → Bool} {read rest : List Char} (taken : List Char)
    (passes : ∀ c ∈ read, test c = true) (stops : ∀ c ∈ rest.head?, test c = false) :
    takeOn test taken (read ++ rest) = (read.reverse ++ taken, rest) := by
  induction read generalizing taken with
  | nil =>
    cases rest with
    | nil => rfl
    | cons c rest => simp [takeOn, stops c rfl]
  | cons c read ih =>
    obtain ⟨own, later⟩ := List.forall_mem_cons.mp passes
    rw [List.cons_append, takeOn, if_pos own, ih _ later]
    simp

theorem plainIdentifier?_append {text : List Char} {read : Taken}
    (found : plainIdentifier? [] text = some read) : read.1.reverse ++ read.2 = text := by
  cases text with
  | nil => cases found
  | cons c rest =>
    rw [plainIdentifier?] at found
    split at found
    · cases found
      exact takeOn_append isIdentifierRest [c] rest
    · cases found

theorem plainIdentifier?_of_isPlain {plain rest : List Char} (isPlain : IsPlain plain)
    (apart : ∀ c ∈ rest.head?, isIdentifierRest c = false) :
    plainIdentifier? [] (plain ++ rest) = some (plain.reverse, rest) := by
  cases plain with
  | nil => exact isPlain.elim
  | cons first others =>
    rw [List.cons_append, plainIdentifier?, if_pos isPlain.1, takeOn_of_all _ isPlain.2 apart]
    simp

theorem isPlain_of_plainIdentifier? {text : List Char} {read : Taken}
    (found : plainIdentifier? [] text = some read) : IsPlain read.1.reverse := by
  cases text with
  | nil => cases found
  | cons c rest =>
    rw [plainIdentifier?] at found
    split at found
    · rename_i begins
      cases found
      obtain ⟨read, same, passes⟩ := takeOn_eq isIdentifierRest [c] rest
      simpa [same] using ⟨begins, passes⟩
    · cases found

end TermBind.Source
