import TermBind.Source.Literal
import TermBind.Text.Quoted

/-! A text written as a string literal is read back: each character is read from its escape. -/
namespace TermBind

namespace Quoted

theorem isHexDigit_digitChar : ∀ value < 16, Url.isHexDigit value.digitChar = true := by decide

theorem hexValue_digitChar : ∀ value < 16, Url.hexValue value.digitChar = value := by decide

/-- Characters that end a line, alone or together. -/
def IsLineEnd (c : Char) : Prop := c = '\n' ∨ c = '\r'

theorem IsLineEnd.ne_digitChar {mark : Char} (ends : IsLineEnd mark) :
    ∀ value < 16, mark ≠ value.digitChar := by
  rcases ends with rfl | rfl <;> decide

theorem IsLineEnd.not_mem_toDigits {mark : Char} (ends : IsLineEnd mark) (value : Nat) :
    mark ∉ Nat.toDigits 16 value := by
  induction value using Nat.strongRecOn with
  | ind value ih =>
    rw [Nat.toDigits_eq_if (by decide)]
    split
    · rename_i small
      rw [List.mem_singleton]
      exact ends.ne_digitChar value small
    · rw [List.mem_append, List.mem_singleton, not_or]
      exact ⟨ih (value / 16) (by omega), ends.ne_digitChar _ (Nat.mod_lt value (by decide))⟩

theorem IsLineEnd.not_mem_escape {mark : Char} (ends : IsLineEnd mark) (c : Char) :
    mark ∉ escape c := by
  have letters : ∀ d ∈ ['\\', '0', 't', 'n', 'r', '"', 'u', '{', '}'], mark ≠ d := by
    rcases ends with rfl | rfl <;> simp
  unfold escape
  split
  case h_7 unfed unreturned _ _ =>
    have other : mark ≠ c := by
      rcases ends with rfl | rfl
      · exact Ne.symm unfed
      · exact Ne.symm unreturned
    split
    · simp [ends.not_mem_toDigits, letters]
    · simpa using other
  all_goals simp [letters]

theorem toList_encode (text : String) :
    (encode text).toList = '"' :: (text.toList.flatMap escape ++ ['"']) := by
  rw [encode, String.toList_ofList, List.cons_append]

/-- A quotation stays on its line. -/
theorem IsLineEnd.not_mem_encode {mark : Char} (ends : IsLineEnd mark) (text : String) :
    mark ∉ (encode text).toList := by
  have quote : mark ≠ '"' := by
    rcases ends with rfl | rfl <;> decide
  simp [toList_encode, ends.not_mem_escape, quote]

theorem lineFeed_not_mem_encode (text : String) : '\n' ∉ (encode text).toList :=
  IsLineEnd.not_mem_encode (Or.inl rfl) text

end Quoted

namespace Source.Quotation

open Quoted

variable {kind : StringKind} {mode mode' : Mode} {c : Char} {value : Option Char}

theorem body?_of_next (next : step kind mode c = .next mode' value) (taken decoded rest : List Char) :
    body? kind mode taken decoded (c :: rest) =
      body? kind mode' (c :: taken) (value.toList ++ decoded) rest := by
  rw [body?, next]

/-- The digits of a number are read as the number. -/
theorem body?_toDigits (number : Nat) (few : (Nat.toDigits 16 number).length ≤ 6)
    (taken decoded rest : List Char) :
    ∃ taken', body? .text (.digits 0 0) taken decoded (Nat.toDigits 16 number ++ rest) =
      body? .text (.digits number (Nat.toDigits 16 number).length) taken' decoded rest := by
  have digit : ∀ value count last, last < 16 → count < 6 →
      step .text (.digits value count) last.digitChar =
        .next (.digits (value * 16 + last) (count + 1)) none := by
    intro value count last small room
    rw [step, if_pos (isHexDigit_digitChar last small), if_neg (by omega),
      hexValue_digitChar last small]
  induction number using Nat.strongRecOn generalizing rest with
  | ind number ih =>
    by_cases small : number < 16
    · rw [Nat.toDigits_of_lt_base small]
      refine ⟨number.digitChar :: taken, ?_⟩
      rw [List.singleton_append, body?_of_next (digit 0 0 number small (by decide)), Nat.zero_mul,
        Nat.zero_add]
      rfl
    · rw [Nat.toDigits_of_base_le (by decide) (by omega), List.length_append,
        List.length_singleton] at few ⊢
      obtain ⟨taken', upper⟩ := ih (number / 16) (by omega) (by omega)
        ((number % 16).digitChar :: rest)
      refine ⟨(number % 16).digitChar :: taken', ?_⟩
      rw [List.append_assoc, List.singleton_append, upper,
        body?_of_next (digit _ _ (number % 16) (Nat.mod_lt number (by decide)) (by omega)),
        show number / 16 * 16 + number % 16 = number by omega]
      rfl

theorem step_plain (c : Char) : step .text .plain c =
    if c = '"' then .close else if c = '\r' then .next .lineFeed none
    else if c = '\\' then .next .escape none else .next .plain (some c) := rfl

theorem step_close (c : Char) {count : Nat} (read : count ≠ 0) :
    step .text (.digits c.toNat count) '}' = .next .plain (some c) := by
  have valid : c.toNat < 0xd800 ∨ 0xdfff < c.toNat ∧ c.toNat < 0x110000 := c.valid
  have finished : step .text (.digits c.toNat count) '}' =
      if 0x10ffff < c.toNat || (0xd800 ≤ c.toNat && c.toNat ≤ 0xdfff) then .reject
      else .next .plain (some (Char.ofNat c.toNat)) := by
    rw [step, if_neg (by decide), if_neg read]
    rfl
  rw [finished, if_neg (by simp; omega), Char.ofNat_toNat]

/-- A character is read from its escape. -/
theorem body?_escape (c : Char) (taken decoded rest : List Char) :
    ∃ taken', body? .text .plain taken decoded (escape c ++ rest) =
      body? .text .plain taken' (c :: decoded) rest := by
  unfold escape
  split
  · exact ⟨_, rfl⟩
  · exact ⟨_, rfl⟩
  · exact ⟨_, rfl⟩
  · exact ⟨_, rfl⟩
  · exact ⟨_, rfl⟩
  · exact ⟨_, rfl⟩
  · rename_i unreturned unquoted unescaped
    split
    · have few : (Nat.toDigits 16 c.toNat).length ≤ 6 := by
        have valid : c.toNat < 0xd800 ∨ 0xdfff < c.toNat ∧ c.toNat < 0x110000 := c.valid
        rw [Nat.length_toDigits_le_iff (by decide) (by decide)]
        omega
      obtain ⟨taken', digits⟩ := body?_toDigits c.toNat few ('{' :: 'u' :: '\\' :: taken) decoded
        ('}' :: rest)
      have some : (Nat.toDigits 16 c.toNat).length ≠ 0 := Nat.ne_of_gt Nat.length_toDigits_pos
      refine ⟨'}' :: taken', ?_⟩
      rw [List.append_assoc, List.append_assoc]
      exact digits.trans (body?_of_next (step_close c some) taken' decoded rest)
    · have shown : step .text .plain c = .next .plain (some c) := by
        rw [step_plain, if_neg unquoted, if_neg unreturned, if_neg unescaped]
      exact ⟨c :: taken, body?_of_next shown taken decoded rest⟩

/-- A text is read from its quotation up to the closing quote. -/
theorem body?_encode (text : List Char) (taken decoded rest : List Char) :
    ∃ taken', body? .text .plain taken decoded (text.flatMap escape ++ '"' :: rest) =
      some ((taken', rest), text.reverse ++ decoded) := by
  induction text generalizing taken decoded with
  | nil => exact ⟨_, rfl⟩
  | cons c text ih =>
    obtain ⟨taken', first⟩ := body?_escape c taken decoded (text.flatMap escape ++ '"' :: rest)
    obtain ⟨taken'', others⟩ := ih taken' (c :: decoded)
    refine ⟨taken'', ?_⟩
    rw [List.flatMap_cons, List.append_assoc, first, others, List.reverse_cons, List.append_assoc,
      List.singleton_append]

end Source.Quotation
end TermBind
