import Mathlib.Data.List.TakeDrop
import TermBind.Json.Token
import TermBind.Json.Writer

/-! Texts and numbers are read back from the JSON they are written as. -/
namespace TermBind.Json

open Data

/-- The escapes of controls have four digits that give the character. -/
theorem unit?_leftpad : ∀ code < 0x20, ((Nat.toDigits 16 code).leftpad 4 '0').length = 4 ∧
    unit? ((Nat.toDigits 16 code).leftpad 4 '0') = some code := by decide

/-- What is read of a character and the text after it. -/
def unitThen (c : Char) (read : List (Char ⊕ Nat) × List Char) : List (Char ⊕ Nat) × List Char :=
  (.inl c :: read.1, read.2)

theorem units?_short {mark c : Char} (known : escape? mark = some c) (rest : List Char) :
    units? ('\\' :: mark :: rest) = (units? rest).map (unitThen c) := by
  have notCode : mark ≠ 'u' := by
    rintro rfl
    cases known
  have read : units? ('\\' :: mark :: rest) =
      (escape? mark).bind fun c => (units? rest).bind fun read => some (unitThen c read) := by
    rw [units?]
    · rfl
    · rintro _ _ _ _ _ rfl
      exact absurd rfl notCode
  rw [read, known]
  cases units? rest <;> rfl

theorem units?_code {c : Char} (low : c.toNat < 0x20) (rest : List Char) :
    units? ('\\' :: 'u' :: (Nat.toDigits 16 c.toNat).leftpad 4 '0' ++ rest) =
      (units? rest).map (unitThen c) := by
  obtain ⟨four, known⟩ := unit?_leftpad c.toNat low
  have alone : (isHigh c.toNat || isLow c.toNat) = false := by
    simp only [isHigh, isLow, Bool.or_eq_false_iff, Bool.and_eq_false_iff, decide_eq_false_iff_not]
    omega
  generalize (Nat.toDigits 16 c.toNat).leftpad 4 '0' = digits at four known ⊢
  rcases digits with _ | ⟨first, _ | ⟨second, _ | ⟨third, _ | ⟨fourth, _ | _⟩⟩⟩⟩
  case cons.cons.cons.cons.nil =>
    simp only [List.cons_append, List.nil_append, units?, known, Option.bind_eq_bind, Option.bind_some,
      alone, Char.ofNat_toNat]
    cases units? rest <;> rfl
  all_goals simp at four

theorem units?_plain {c : Char} (high : ¬ c.toNat < 0x20) (unquoted : c ≠ '"') (unescaped : c ≠ '\\')
    (rest : List Char) : units? (c :: rest) = (units? rest).map (unitThen c) := by
  have read : units? (c :: rest) =
      if c.toNat < 0x20 || c == '\\' then none
      else (units? rest).bind fun read => some (unitThen c read) := by
    rw [units?]
    · rfl
    · exact unquoted
    · rintro _ _ _ _ _ rfl
      exact absurd rfl unescaped
    · rintro _ _ rfl
      exact absurd rfl unescaped
  rw [read, if_neg (by simp [high, unescaped])]
  cases units? rest <;> rfl

/-- A character is read from its escape. -/
theorem units?_escaped (c : Char) (rest : List Char) :
    units? (escaped c ++ rest) = (units? rest).map (unitThen c) := by
  unfold escaped
  split
  · exact units?_short rfl rest
  · exact units?_short rfl rest
  · exact units?_short rfl rest
  · exact units?_short rfl rest
  · exact units?_short rfl rest
  · exact units?_short rfl rest
  · exact units?_short rfl rest
  · rename_i unquoted unescaped _ _ _ _ _
    split
    · exact units?_code ‹_› rest
    · exact units?_plain ‹_› unquoted unescaped rest

theorem units?_quoted (text rest : List Char) :
    units? (text.flatMap escaped ++ '"' :: rest) = some (text.map .inl, rest) := by
  induction text with
  | nil => rfl
  | cons c text ih =>
    rw [List.flatMap_cons, List.append_assoc, units?_escaped, ih]
    rfl

theorem chars?_map_inl (text : List Char) : chars? (text.map .inl) = some text := by
  induction text with
  | nil => rfl
  | cons c text ih => rw [List.map_cons, chars?, ih, Option.map_some]

theorem token?_quoted (text : String) (rest : List Char) :
    token? (quoted text ++ rest) = some (.scalar (.text text), rest) := by
  have read : units? (text.toList.flatMap escaped ++ '"' :: rest) = _ := units?_quoted _ _
  rw [quoted, List.cons_append, List.cons_append, List.append_assoc, token?, List.singleton_append, read]
  simp [chars?_map_inl]

/-- The text after a number does not go on with it. -/
def EndsNumber (rest : List Char) : Prop :=
  ∀ c, rest.head? = some c → c.isDigit = false ∧ c ≠ '.' ∧ c ≠ 'e' ∧ c ≠ 'E'

theorem digits_toDigits (value : Nat) {rest : List Char} (ends : EndsNumber rest) :
    digits (Nat.toDigits 10 value ++ rest) = (Nat.toDigits 10 value, rest) := by
  have own : ∀ c ∈ Nat.toDigits 10 value, c.isDigit = true := fun c member =>
    Nat.isDigit_of_mem_toDigits (by decide) (by decide) member
  have stops : rest.takeWhile Char.isDigit = [] ∧ rest.dropWhile Char.isDigit = rest := by
    cases rest with
    | nil => exact ⟨rfl, rfl⟩
    | cons c rest =>
      have last := (ends c rfl).1
      simp [last]
  rw [digits, List.span_eq_takeWhile_dropWhile, List.takeWhile_append_of_pos own,
    List.dropWhile_append_of_pos own, stops.1, stops.2, List.append_nil]

theorem head?_toDigits {value : Nat} (positive : 0 < value) :
    (Nat.toDigits 10 value).head? ≠ some '0' := by
  induction value using Nat.strongRecOn with
  | ind value ih =>
    have single : ∀ digit < 10, 0 < digit → Nat.digitChar digit ≠ '0' := by decide
    rw [Nat.toDigits_eq_if (by decide)]
    split
    · rename_i small
      simpa using single value small positive
    · obtain ⟨c, first⟩ := Option.isSome_iff_exists.mp
        (List.isSome_head?.mpr (show Nat.toDigits 10 (value / 10) ≠ [] from Nat.toDigits_ne_nil))
      have upper := ih (value / 10) (by omega) (by omega)
      rwa [List.head?_append, first, Option.some_or, ← first]

/-- Zero is written with one digit, and no other number begins with a zero. -/
theorem not_padded (value : Nat) : ((Nat.toDigits 10 value).isEmpty ||
    ((Nat.toDigits 10 value).head? == some '0' && 1 < (Nat.toDigits 10 value).length)) = false := by
  rcases Nat.eq_zero_or_pos value with rfl | positive
  · decide
  · have some : (Nat.toDigits 10 value).isEmpty = false := by
      rw [List.isEmpty_eq_false_iff]
      exact Nat.toDigits_ne_nil
    simp [some, head?_toDigits positive]

theorem unsigned?_toDigits (value : Nat) {rest : List Char} (ends : EndsNumber rest) :
    unsigned? (Nat.toDigits 10 value ++ rest) = some (.natural value, rest) := by
  have valued : (Nat.toDigits 10 value).foldl (fun value c => 10 * value + (c.toNat - 48)) 0 = value := by
    have written : Nat.ofDigitChars 10 (Nat.toDigits 10 value) 0 = value :=
      Nat.ofDigitChars_toDigits (by decide) (by decide)
    rwa [Nat.ofDigitChars_eq_foldl] at written
  have whole : fraction? rest = some (rest, false) := by
    cases rest with
    | nil => rfl
    | cons c rest =>
      rw [fraction?]
      rintro _ ⟨⟩
      exact (ends _ rfl).2.1 rfl
  have plain : exponent? rest = some (rest, false) := by
    cases rest with
    | nil => rfl
    | cons c rest =>
      obtain ⟨_, _, lower, upper⟩ := ends c rfl
      have unmarked : (c == 'e' || c == 'E') = false := by simp [lower, upper]
      unfold exponent?
      dsimp only
      rw [unmarked]
      rfl
  simp only [unsigned?, digits_toDigits value ends, not_padded, whole, valued, Bool.false_eq_true,
    if_false, Option.bind_eq_bind, Option.bind_some, plain]
  rfl

theorem token?_toDigits (value : Nat) {rest : List Char} (ends : EndsNumber rest) :
    token? (Nat.toDigits 10 value ++ rest) = some (.scalar (.natural value), rest) := by
  have read := unsigned?_toDigits value ends
  have own : ∀ c ∈ Nat.toDigits 10 value, c.isDigit = true := fun c member =>
    Nat.isDigit_of_mem_toDigits (by decide) (by decide) member
  have some : Nat.toDigits 10 value ≠ [] := Nat.toDigits_ne_nil
  generalize Nat.toDigits 10 value = number at read own some
  cases number with
  | nil => exact absurd rfl some
  | cons c number =>
    have digit := own c (by simp)
    rw [List.cons_append] at read ⊢
    -- No other token begins with a digit.
    unfold token?
    split <;> simp_all

end TermBind.Json
