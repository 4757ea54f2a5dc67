import Mathlib.Data.List.Basic
import Mathlib.Data.Nat.Digits.Defs
import TermBind.Text.Template

/-! What the text of a template says. It is cut, from left to right, into slots and characters that stand
for themselves, and filling the slots leaves the cut as it is: an argument is never looked into. -/
namespace TermBind.Template

/-- Decimal digits, the first one first, and the number that they denote. -/
def IsDecimal (text : List Char) (value : Nat) : Prop :=
  ∃ digits : List Nat, digits ≠ [] ∧ (∀ digit ∈ digits, digit < 10) ∧
    text = digits.map Nat.digitChar ∧ value = Nat.ofDigits 10 digits.reverse

/-- A numeral has at most one plus sign, in front, and its number at most 64 bits. -/
def Denotes (numeral : List Char) (value : Nat) : Prop :=
  (IsDecimal numeral value ∨ ∃ digits, numeral = '+' :: digits ∧ IsDecimal digits value) ∧
    value < 2 ^ 64

theorem digitChar_spec : ∀ digit < 10,
    (Nat.digitChar digit).isDigit = true ∧ (Nat.digitChar digit).toNat - 48 = digit ∧
      Nat.digitChar digit ≠ '+' ∧ Nat.digitChar digit ≠ '}' := by
  decide

theorem digitChar_toNat {c : Char} (digit : c.isDigit = true) :
    c.toNat - 48 < 10 ∧ Nat.digitChar (c.toNat - 48) = c := by
  obtain ⟨low, high⟩ : 48 ≤ c.toNat ∧ c.toNat ≤ 57 := Char.isDigit_iff_toNat.mp digit
  have each : ∀ digit < 10, Nat.digitChar digit = Char.ofNat (digit + 48) := by decide
  refine ⟨by omega, ?_⟩
  rw [each _ (by omega), Nat.sub_add_cancel low, Char.ofNat_toNat]

/-- Reading digits one by one comes to the number that they denote. -/
theorem foldl_digits (digits : List Nat) :
    digits.foldl (fun total digit => total * 10 + digit) 0 = Nat.ofDigits 10 digits.reverse := by
  rw [Nat.ofDigits_eq_foldr, List.foldr_reverse]
  congr 1
  funext total digit
  simp only [Nat.cast_id]
  omega

theorem isDecimal_iff {text : List Char} {value : Nat} : IsDecimal text value ↔
    text ≠ [] ∧ text.all Char.isDigit = true ∧
      text.foldl (fun total digit => total * 10 + (digit.toNat - 48)) 0 = value := by
  constructor
  · rintro ⟨digits, filled, decimal, rfl, rfl⟩
    refine ⟨by simpa using filled, ?_, ?_⟩
    · rw [List.all_map, List.all_eq_true]
      exact fun digit member => (digitChar_spec digit (decimal digit member)).1
    · rw [← foldl_digits, List.foldl_map]
      apply List.foldl_ext
      intro total digit member
      rw [(digitChar_spec digit (decimal digit member)).2.1]
  · rintro ⟨filled, all, rfl⟩
    have decimal : ∀ c ∈ text, c.isDigit = true := List.all_eq_true.mp all
    refine ⟨text.map fun c => c.toNat - 48, by simpa using filled, ?_, ?_, ?_⟩
    · intro digit member
      obtain ⟨c, known, rfl⟩ := List.mem_map.mp member
      exact (digitChar_toNat (decimal c known)).1
    · have same : ∀ c ∈ text, (Nat.digitChar ∘ fun c => c.toNat - 48) c = id c :=
        fun c known => (digitChar_toNat (decimal c known)).2
      rw [List.map_map, List.map_congr_left same, List.map_id]
    · rw [← foldl_digits, List.foldl_map]

theorem IsDecimal.not_mem {text : List Char} {value : Nat} (decimal : IsDecimal text value) :
    '+' ∉ text ∧ '}' ∉ text := by
  obtain ⟨digits, _, small, rfl, _⟩ := decimal
  have apart : ∀ digit ∈ digits, Nat.digitChar digit ≠ '+' ∧ Nat.digitChar digit ≠ '}' :=
    fun digit known => (digitChar_spec digit (small digit known)).2.2
  constructor
  · intro member
    obtain ⟨digit, known, same⟩ := List.mem_map.mp member
    exact (apart digit known).1 same
  · intro member
    obtain ⟨digit, known, same⟩ := List.mem_map.mp member
    exact (apart digit known).2 same

theorem Denotes.not_mem {numeral : List Char} {value : Nat} (denotes : Denotes numeral value) :
    '}' ∉ numeral := by
  obtain ⟨decimal | ⟨digits, rfl, decimal⟩, _⟩ := denotes
  · exact decimal.not_mem.2
  · simpa using decimal.not_mem.2

theorem numeral?_eq_some_iff {text : List Char} {value : Nat} :
    numeral? text = some value ↔ Denotes text value := by
  have read : ∀ digits : List Char,
      (if digits.isEmpty || !digits.all Char.isDigit then none
        else
          if digits.foldl (fun total digit => total * 10 + (digit.toNat - 48)) 0 < 2 ^ 64 then
            some (digits.foldl (fun total digit => total * 10 + (digit.toNat - 48)) 0)
          else none) = some value ↔
        IsDecimal digits value ∧ value < 2 ^ 64 := by
    intro digits
    rw [isDecimal_iff]
    by_cases decimal : digits ≠ [] ∧ digits.all Char.isDigit = true
    · rw [if_neg (by simpa [List.isEmpty_iff] using decimal)]
      simp only [Option.ite_none_right_eq_some, Option.some.injEq]
      constructor
      · rintro ⟨fits, rfl⟩
        exact ⟨⟨decimal.1, decimal.2, rfl⟩, fits⟩
      · rintro ⟨⟨_, _, rfl⟩, fits⟩
        exact ⟨fits, rfl⟩
    · rw [if_pos (by simpa [List.isEmpty_iff, or_iff_not_imp_left] using decimal)]
      exact iff_of_false (by simp) fun ⟨⟨filled, all, _⟩, _⟩ => decimal ⟨filled, all⟩
  by_cases signed : text.head? = some '+'
  · obtain ⟨rest, rfl⟩ := List.head?_eq_some_iff.mp signed
    have unsigned : ¬ IsDecimal ('+' :: rest) value := fun decimal => decimal.not_mem.1 (by simp)
    refine (read rest).trans (and_congr_left fun _ => ?_)
    simp [unsigned]
  · have plain : ¬ ∃ digits, text = '+' :: digits ∧ IsDecimal digits value := by
      rintro ⟨digits, rfl, _⟩
      exact signed rfl
    rw [numeral?, if_neg signed]
    refine (read text).trans (and_congr_left fun _ => ?_)
    simp [plain]

theorem slot?_eq_some_iff {count index : Nat} {text after : List Char} :
    slot? count text = some (index, after) ↔
      index < count ∧ ∃ numeral, text = numeral ++ '}' :: after ∧ Denotes numeral index := by
  constructor
  · intro found
    have whole := List.takeWhile_append_dropWhile (p := (· ≠ '}')) (l := text)
    rw [slot?] at found
    split at found
    · cases found
    · rename_i closing rest dropped
      have closes : decide (closing ≠ '}') = false := by
        have head := List.head?_dropWhile_not (· ≠ '}') text
        rwa [dropped] at head
      obtain rfl : closing = '}' := by simpa using closes
      split at found
      · rename_i value read
        obtain ⟨known, same⟩ := Option.ite_none_right_eq_some.mp found
        cases same
        exact ⟨known, _, (dropped ▸ whole).symm, numeral?_eq_some_iff.mp read⟩
      · cases found
  · rintro ⟨known, numeral, rfl, denotes⟩
    have inside : ∀ c ∈ numeral, decide (c ≠ '}') = true := by
      intro c member
      refine decide_eq_true fun same => denotes.not_mem ?_
      rwa [← same]
    rw [slot?, List.takeWhile_append_of_pos inside, List.dropWhile_append_of_pos inside]
    simp [numeral?_eq_some_iff.mpr denotes, known]

theorem slot?_of_denotes {count : Nat} {numeral : List Char} {index : Fin count}
    (denotes : Denotes numeral index) (rest : List Char) :
    slot? count (numeral ++ '}' :: rest) = some (index.val, rest) :=
  slot?_eq_some_iff.mpr ⟨index.isLt, numeral, rfl, denotes⟩

/-- A part of a template for a number of arguments, as it is spelled: a character that stands for itself,
or a numeral in braces that stands for an argument. -/
inductive Part (count : Nat) where
  | plain (c : Char)
  | slot (numeral : List Char) (index : Fin count)
deriving DecidableEq, Repr

namespace Part

variable {count : Nat}

def source : Part count → List Char
  | .plain c => [c]
  | .slot numeral _ => '{' :: numeral ++ ['}']

/-- What stands for a part in a message: a character itself, an argument as it is. -/
def fill (arguments : List String) : Part arguments.length → String
  | .plain c => String.singleton c
  | .slot _ index => arguments.get index

def piece : Part count → Piece
  | .plain c => .char c
  | .slot _ index => .slot index

theorem fill_piece (arguments : List String) (part : Part arguments.length) :
    part.piece.fill arguments = part.fill arguments := by
  cases part with
  | plain c => rfl
  | slot numeral index => simp [piece, Piece.fill, fill]

end Part

/-- A text begins with a slot: a numeral in braces that denotes one of a number of arguments. -/
def BeginsWithSlot (count : Nat) (text : List Char) : Prop :=
  ∃ (numeral : List Char) (index : Fin count) (rest : List Char), Denotes numeral index ∧
    text = (Part.slot numeral index).source ++ rest

/-- How the text of a template is cut: it is what its parts spell, and where a part begins is a slot just
if the text from there on begins with one. -/
structure IsCut {count : Nat} (text : List Char) (parts : List (Part count)) : Prop where
  whole : parts.flatMap Part.source = text
  slots : ∀ (numeral : List Char) (index : Fin count), .slot numeral index ∈ parts → Denotes numeral index
  plain : ∀ before c after, parts = before ++ .plain c :: after →
    ¬ BeginsWithSlot count (c :: after.flatMap Part.source)

section Cut

variable {count : Nat} {text rest : List Char} {part : Part count} {parts others : List (Part count)}

theorem IsCut.tail (cut : IsCut text (part :: parts)) :
    text = part.source ++ parts.flatMap Part.source ∧ IsCut (parts.flatMap Part.source) parts where
  left := cut.whole.symm
  right :=
    { whole := rfl
      slots := fun numeral index member => cut.slots numeral index (List.mem_cons_of_mem _ member)
      plain := fun before c after same => cut.plain (part :: before) c after (by rw [same]; rfl) }

theorem IsCut.slot {numeral : List Char} {index : Fin count} (denotes : Denotes numeral index)
    (cut : IsCut rest parts) :
    IsCut ((Part.slot numeral index).source ++ rest) (.slot numeral index :: parts) where
  whole := by rw [List.flatMap_cons, cut.whole]
  slots numeral' index' member := by
    rcases List.mem_cons.mp member with own | later
    · cases own
      exact denotes
    · exact cut.slots numeral' index' later
  plain before c after same := by
    cases before with
    | nil => cases same
    | cons first before => exact cut.plain before c after (List.cons.inj same).2

theorem IsCut.character {c : Char} (closed : ¬ BeginsWithSlot count (c :: rest)) (cut : IsCut rest parts) :
    IsCut (c :: rest) (.plain c :: parts) where
  whole := by rw [List.flatMap_cons, cut.whole]; rfl
  slots numeral index member := by
    rcases List.mem_cons.mp member with own | later
    · cases own
    · exact cut.slots numeral index later
  plain before d after same := by
    cases before with
    | nil =>
      cases same
      rwa [cut.whole]
    | cons first before => exact cut.plain before d after (List.cons.inj same).2

theorem beginsWithSlot_iff : BeginsWithSlot count text ↔
    ∃ following found, text = '{' :: following ∧ slot? count following = some found := by
  constructor
  · rintro ⟨numeral, index, rest, denotes, rfl⟩
    exact ⟨numeral ++ '}' :: rest, _, by simp [Part.source], slot?_of_denotes denotes rest⟩
  · rintro ⟨_, ⟨index, rest⟩, rfl, found⟩
    obtain ⟨known, numeral, rfl, denotes⟩ := slot?_eq_some_iff.mp found
    exact ⟨numeral, ⟨index, known⟩, rest, denotes, by simp [Part.source]⟩

/-- A cut begins with a slot just if the text does. -/
theorem IsCut.begins_iff (cut : IsCut text (part :: parts)) :
    BeginsWithSlot count text ↔ ∃ numeral index, part = .slot numeral index := by
  obtain ⟨spelled, _⟩ := cut.tail
  cases part with
  | plain c =>
    have closed := cut.plain [] c parts rfl
    rw [show text = c :: parts.flatMap Part.source from spelled]
    exact iff_of_false closed (by simp)
  | slot numeral index =>
    have denotes := cut.slots numeral index (List.mem_cons_self ..)
    exact iff_of_true ⟨numeral, index, _, denotes, spelled⟩ ⟨numeral, index, rfl⟩

theorem slot_unique {numeral numeral' : List Char} {index index' : Fin count} {rest rest' : List Char}
    (denotes : Denotes numeral index) (denotes' : Denotes numeral' index')
    (same : (Part.slot numeral index).source ++ rest = (Part.slot numeral' index').source ++ rest') :
    Part.slot numeral index = .slot numeral' index' ∧ rest = rest' := by
  have following : numeral ++ '}' :: rest = numeral' ++ '}' :: rest' := by
    simpa [Part.source] using same
  have found := slot?_of_denotes denotes rest
  rw [following, slot?_of_denotes denotes' rest', Option.some.injEq, Prod.mk.injEq] at found
  obtain ⟨indices, rfl⟩ := found
  obtain rfl := Fin.ext indices
  exact ⟨by rw [List.append_cancel_right following], rfl⟩

/-- Cuts of one text have the same first part, since whether it is a slot is up to the text. -/
theorem IsCut.head_unique {other : Part count} (cut : IsCut text (part :: parts))
    (cut' : IsCut text (other :: others)) :
    part = other ∧ parts.flatMap Part.source = others.flatMap Part.source := by
  obtain ⟨spelled, _⟩ := cut.tail
  obtain ⟨spelled', _⟩ := cut'.tail
  have both := cut.begins_iff.symm.trans cut'.begins_iff
  cases part with
  | plain c =>
    cases other with
    | plain d => simpa [Part.source] using spelled.symm.trans spelled'
    | slot numeral index => simp at both
  | slot numeral index =>
    have denotes := cut.slots numeral index (List.mem_cons_self ..)
    cases other with
    | plain d => simp at both
    | slot numeral' index' =>
      have denotes' := cut'.slots numeral' index' (List.mem_cons_self ..)
      exact slot_unique denotes denotes' (spelled.symm.trans spelled')

theorem IsCut.unique (cut : IsCut text parts) (cut' : IsCut text others) : parts = others := by
  induction parts generalizing text others with
  | nil =>
    obtain rfl : [] = text := cut.whole
    cases others with
    | nil => rfl
    | cons other others => cases other <;> cases cut'.whole
  | cons part parts ih =>
    cases others with
    | nil =>
      obtain rfl : [] = text := cut'.whole
      cases part <;> cases cut.whole
    | cons other others =>
      obtain ⟨rfl, rests⟩ := cut.head_unique cut'
      rw [ih cut.tail.2 (rests ▸ cut'.tail.2)]

theorem exists_isCut (count : Nat) (text : List Char) :
    ∃ parts : List (Part count), IsCut text parts ∧ parts.map Part.piece = pieces count text := by
  fun_induction pieces count text with
  | case1 => exact ⟨[], ⟨rfl, by simp, by simp⟩, rfl⟩
  | case2 following index after found ih =>
    obtain ⟨known, numeral, rfl, denotes⟩ := slot?_eq_some_iff.mp found
    obtain ⟨parts, cut, same⟩ := ih
    have whole : '{' :: (numeral ++ '}' :: after) = (Part.slot numeral ⟨index, known⟩).source ++ after := by
      simp [Part.source]
    refine ⟨.slot numeral ⟨index, known⟩ :: parts, whole ▸ cut.slot denotes, ?_⟩
    rw [List.map_cons, same]
    rfl
  | case3 following missing ih =>
    obtain ⟨parts, cut, same⟩ := ih
    refine ⟨.plain '{' :: parts, cut.character ?_, by rw [List.map_cons, same]; rfl⟩
    rw [beginsWithSlot_iff]
    rintro ⟨_, found, ⟨⟩, known⟩
    simp [missing] at known
  | case4 c following other ih =>
    obtain ⟨parts, cut, same⟩ := ih
    refine ⟨.plain c :: parts, cut.character ?_, by rw [List.map_cons, same]; rfl⟩
    rw [beginsWithSlot_iff]
    rintro ⟨_, found, ⟨⟩, known⟩
    exact other rfl

end Cut

/-- A template is cut in one way, which depends on its text and on the number of arguments. A message is the
parts in their order, with each slot filled by its argument as it is. -/
theorem render_fills_slots : ∃ cut : (count : Nat) → String → List (Part count), ∀ template arguments,
    (∀ parts, IsCut template.toList parts ↔ parts = cut arguments.length template) ∧
      render template arguments =
        String.join ((cut arguments.length template).map (Part.fill arguments)) := by
  choose cut isCut same using fun (count : Nat) (template : String) => exists_isCut count template.toList
  refine ⟨cut, fun template arguments => ⟨fun parts => ?_, ?_⟩⟩
  · constructor
    · exact fun own => own.unique (isCut _ _)
    · rintro rfl
      exact isCut _ _
  · rw [render, ← same, List.map_map]
    congr 2
    funext part
    exact Part.fill_piece arguments part

/-- Braces that hold no numeral stand for themselves, and so does what an argument holds. -/
example : render "\x7b \x7b0\x7d \x7b+1\x7d \x7b2\x7d \x7b\x7b0\x7d\x7d" ["\x7b1\x7d", "b"] =
    "\x7b \x7b1\x7d b \x7b2\x7d \x7b\x7b1\x7d\x7d" := by cbv

end TermBind.Template
