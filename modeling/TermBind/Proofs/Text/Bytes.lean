import Mathlib.Order.Basic
import Mathlib.Data.String.Basic

/-! Texts compare as their bytes do. The first byte of a character tells how many continuation bytes
follow, and these hold the last digits of its code point to base 64. -/
namespace TermBind.Utf8

/-- The bytes of a text in UTF-8. -/
def bytes (text : String) : List UInt8 := text.toUTF8.data.toList

/-- The number of continuation bytes of a code point. -/
def followers (code : Nat) : Nat :=
  if code ≤ 127 then 0 else if code ≤ 2047 then 1 else if code ≤ 65535 then 2 else 3

/-- The mark of a first byte for the continuation bytes after it. -/
def mark : Nat → Nat
  | 0 => 0
  | 1 => 192
  | 2 => 224
  | _ => 240

def lead (code : Nat) : Nat := code / 64 ^ followers code + mark (followers code)

/-- The last digits of a code point to base 64, as continuation bytes. -/
def continuation (code : Nat) : Nat → List UInt8
  | 0 => []
  | count + 1 => .ofNat (code / 64 ^ count % 64 + 128) :: continuation code count

theorem toNat_lt (c : Char) : c.toNat < 0x110000 := by
  rcases c.valid with low | ⟨-, high⟩
  · exact Nat.lt_trans low (by decide)
  · exact high

theorem utf8EncodeChar_eq (c : Char) : String.utf8EncodeChar c =
    .ofNat (lead c.toNat) :: continuation c.toNat (followers c.toNat) := by
  have valid := toNat_lt c
  have code : c.val.toNat = c.toNat := rfl
  simp only [String.utf8EncodeChar, code, lead, followers]
  split_ifs
  · simp [continuation, mark]
  · rw [Nat.mod_eq_of_lt (show c.toNat / 64 < 32 by omega)]
    simp [continuation, mark]
  · rw [Nat.mod_eq_of_lt (show c.toNat / 4096 < 16 by omega)]
    simp [continuation, mark]
  · rw [Nat.mod_eq_of_lt (show c.toNat / 262144 < 8 by omega)]
    simp [continuation, mark]

theorem lead_lt {code : Nat} (valid : code < 0x110000) : lead code < 256 := by
  simp only [lead, followers]
  split_ifs <;> simp only [mark] <;> omega

theorem followers_le {left right : Nat} (below : left < right) : followers left ≤ followers right := by
  simp only [followers]
  split_ifs <;> omega

theorem lead_lt_of_followers_lt {left right : Nat} (fewer : followers left < followers right) :
    lead left < lead right := by
  simp only [lead, followers] at fewer ⊢
  split_ifs at fewer ⊢ <;> simp only [mark] <;> omega

theorem ofNat_lt_ofNat {left right : Nat} (below : left < right) (small : right < 256) :
    UInt8.ofNat left < UInt8.ofNat right :=
  (UInt8.ofNat_lt_iff_lt (Nat.lt_trans below small) small).mpr below

theorem continuation_lt {left right count : Nat} (below : left < right)
    (same : left / 64 ^ count = right / 64 ^ count) (rest rest' : List UInt8) :
    continuation left count ++ rest < continuation right count ++ rest' := by
  induction count with
  | zero =>
    simp only [pow_zero, Nat.div_one] at same
    exact absurd same below.ne
  | succ count ih =>
    simp only [continuation, List.cons_append, List.cons_lt_cons_iff]
    rw [pow_succ, ← Nat.div_div_eq_div_mul, ← Nat.div_div_eq_div_mul] at same
    -- The digit before the last `count` ones decides, unless it is the same.
    rcases Nat.lt_or_eq_of_le (Nat.div_le_div_right (c := 64 ^ count) below.le) with less | equal
    · exact .inl (ofNat_lt_ofNat (by omega) (by omega))
    · exact .inr ⟨by rw [equal], ih equal⟩

/-- Of two characters the one with the smaller code point has the smaller bytes, whatever follows. -/
theorem utf8EncodeChar_lt {left right : Char} (below : left < right) (rest rest' : List UInt8) :
    String.utf8EncodeChar left ++ rest < String.utf8EncodeChar right ++ rest' := by
  have codes : left.toNat < right.toNat := below
  have small := lead_lt (toNat_lt right)
  rw [utf8EncodeChar_eq, utf8EncodeChar_eq, List.cons_append, List.cons_append,
    List.cons_lt_cons_iff]
  rcases Nat.lt_or_eq_of_le (followers_le codes) with fewer | alike
  · exact .inl (ofNat_lt_ofNat (lead_lt_of_followers_lt fewer) small)
  · rcases Nat.lt_or_eq_of_le (Nat.div_le_div_right (c := 64 ^ followers right.toNat) codes.le)
      with less | equal
    · refine .inl (ofNat_lt_ofNat ?_ small)
      rw [lead, lead, alike]
      exact Nat.add_lt_add_right less _
    · refine .inr ⟨by rw [lead, lead, alike, equal], ?_⟩
      rw [alike]
      exact continuation_lt codes equal rest rest'

theorem bytes_eq_flatMap (text : String) : bytes text = text.toList.flatMap String.utf8EncodeChar := by
  rw [bytes, String.toUTF8, ← String.utf8Encode_toList, List.utf8Encode, List.toList_data_toByteArray]

theorem flatMap_utf8EncodeChar_lt {left right : List Char} (below : left < right) :
    left.flatMap String.utf8EncodeChar < right.flatMap String.utf8EncodeChar := by
  induction List.lex_lt.mpr below with
  | nil =>
    obtain ⟨byte, others, same⟩ := List.exists_cons_of_ne_nil (String.utf8EncodeChar_ne_nil)
    rw [List.flatMap_nil, List.flatMap_cons, same]
    exact List.nil_lt_cons ..
  | rel less => exact utf8EncodeChar_lt less _ _
  | cons within ih => exact List.append_left_lt (ih (List.lex_lt.mp within))

theorem bytes_lt {left right : String} (below : left < right) : bytes left < bytes right := by
  rw [bytes_eq_flatMap, bytes_eq_flatMap]
  exact flatMap_utf8EncodeChar_lt (String.lt_iff_toList_lt.mp below)

/-- Texts are in order just where their bytes are. -/
theorem bytes_lt_iff {left right : String} : bytes left < bytes right ↔ left < right := by
  refine ⟨fun below => ?_, bytes_lt⟩
  rcases lt_trichotomy left right with less | rfl | greater
  · exact less
  · exact absurd below (List.lt_irrefl _)
  · exact absurd below (List.lt_asymm (bytes_lt greater))

/-- One text comes before another by their bytes. -/
def Precedes (left right : String) : Prop := bytes left < bytes right

theorem compare_eq_lt_iff {left right : String} : compare left right = .lt ↔ Precedes left right :=
  compare_lt_iff_lt.trans bytes_lt_iff.symm

end TermBind.Utf8
