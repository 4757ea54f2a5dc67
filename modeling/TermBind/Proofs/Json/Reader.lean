import TermBind.Proofs.Json.Tokens

/-! Reading a written value gives the value back. -/
namespace TermBind.Json

open Data State

/-- A value that is written as itself: nothing in it is `other`. -/
inductive IsKept : Value → Prop where
  | null : IsKept .null
  | natural (value : Nat) : IsKept (.natural value)
  | text (value : String) : IsKept (.text value)
  | list {items : List Value} (each : ∀ item ∈ items, IsKept item) : IsKept (.list items)
  | record {entries : List (String × Value)} (each : ∀ entry ∈ entries, IsKept entry.2) :
      IsKept (.record entries)

namespace IsKept

variable {α : Type}

attribute [simp] IsKept.null IsKept.natural IsKept.text

@[simp] theorem record_iff {entries : List (String × Value)} :
    IsKept (.record entries) ↔ ∀ entry ∈ entries, IsKept entry.2 :=
  ⟨fun | .record each => each, .record⟩

theorem ofOption {write : α → Value} {value : Option α} (each : ∀ own ∈ value, IsKept (write own)) :
    IsKept (Value.ofOption write value) := by
  cases value with
  | none => exact .null
  | some own => exact each own rfl

theorem map {write : α → Value} {items : List α} (each : ∀ item ∈ items, IsKept (write item)) :
    IsKept (.list (items.map write)) := by
  refine .list fun value member => ?_
  obtain ⟨item, found, rfl⟩ := List.mem_map.mp member
  exact each item found

@[simp] theorem ofTexts (texts : List String) : IsKept (Value.ofTexts texts) := map fun text _ => .text text

end IsKept

/-- No value begins with the bracket that closes a list. -/
theorem foldlM_firstItem (value : Value) (frames : List Frame) :
    (tokensOf value).foldlM step (.firstItem frames) =
      (tokensOf value).foldlM step (.awaiting (.list [] :: frames)) := by
  cases value with
  | list items => cases items <;> rfl
  | record entries => cases entries <;> rfl
  | _ => rfl

/-- The tokens of a value deliver it to what is waiting for it. -/
def Delivers (value : Value) : Prop :=
  ∀ frames, (tokensOf value).foldlM step (.awaiting frames) = some (deliver value frames)

theorem foldlM_tokensOfItems {items : List Value} (each : ∀ item ∈ items, Delivers item)
    (read : List Value) (frames : List Frame) :
    (tokensOf.tokensOfItems items).foldlM step (.afterItem read frames) =
      some (.afterItem (items.reverse ++ read) frames) := by
  induction items generalizing read with
  | nil => rfl
  | cons value items ih =>
    have own := each value (by simp) (.list read :: frames)
    have later := ih (fun item member => each item (List.mem_cons_of_mem _ member)) (value :: read)
    rw [tokensOf.tokensOfItems, List.cons_append, List.foldlM_cons]
    change (tokensOf value ++ tokensOf.tokensOfItems items).foldlM step
      (.awaiting (.list read :: frames)) = _
    rw [List.foldlM_append, own]
    change (tokensOf.tokensOfItems items).foldlM step (.afterItem (value :: read) frames) = _
    rw [later, List.reverse_cons, List.append_assoc, List.singleton_append]

theorem foldlM_tokensOfEntries {entries : List (String × Value)}
    (each : ∀ entry ∈ entries, Delivers entry.2) (read : List (String × Value)) (frames : List Frame) :
    (tokensOf.tokensOfEntries entries).foldlM step (.afterEntry read frames) =
      some (.afterEntry (entries.reverse ++ read) frames) := by
  induction entries generalizing read with
  | nil => rfl
  | cons entry entries ih =>
    obtain ⟨key, value⟩ := entry
    have own := each (key, value) (by simp) (.record read key :: frames)
    have later := ih (fun entry member => each entry (List.mem_cons_of_mem _ member))
      ((key, value) :: read)
    rw [tokensOf.tokensOfEntries, List.cons_append, List.foldlM_cons]
    change (tokensOf value ++ tokensOf.tokensOfEntries entries).foldlM step
      (.awaiting (.record read key :: frames)) = _
    rw [List.foldlM_append, own]
    change (tokensOf.tokensOfEntries entries).foldlM step (.afterEntry ((key, value) :: read) frames) = _
    rw [later, List.reverse_cons, List.append_assoc, List.singleton_append]

theorem delivers {value : Value} (kept : IsKept value) : Delivers value := by
  induction kept with
  | null => exact fun _ => rfl
  | natural => exact fun _ => rfl
  | text => exact fun _ => rfl
  | @list items _ each =>
    intro frames
    cases items with
    | nil => rfl
    | cons first items =>
      have own := each first (by simp) (.list [] :: frames)
      have later := foldlM_tokensOfItems (fun item member => each item (List.mem_cons_of_mem _ member))
        [first] frames
      rw [tokensOf, List.cons_append, List.cons_append, List.foldlM_cons]
      change (tokensOf first ++ tokensOf.tokensOfItems items ++ [Token.endList]).foldlM step
        (.firstItem frames) = _
      rw [List.foldlM_append, List.foldlM_append, foldlM_firstItem, own]
      change ((tokensOf.tokensOfItems items).foldlM step (.afterItem [first] frames)).bind _ = _
      rw [later]
      change some (deliver (.list (items.reverse ++ [first]).reverse) frames) = _
      rw [List.reverse_append, List.reverse_reverse]
      rfl
  | @record entries _ each =>
    intro frames
    cases entries with
    | nil => rfl
    | cons entry entries =>
      obtain ⟨key, value⟩ := entry
      have own := each (key, value) (by simp) (.record [] key :: frames)
      have later := foldlM_tokensOfEntries
        (fun entry member => each entry (List.mem_cons_of_mem _ member)) [(key, value)] frames
      rw [tokensOf, List.cons_append, List.cons_append, List.foldlM_cons]
      change (tokensOf value ++ tokensOf.tokensOfEntries entries ++ [Token.endRecord]).foldlM step
        (.awaiting (.record [] key :: frames)) = _
      rw [List.foldlM_append, List.foldlM_append, own]
      change ((tokensOf.tokensOfEntries entries).foldlM step (.afterEntry [(key, value)] frames)).bind _ = _
      rw [later]
      change some (deliver (.record (entries.reverse ++ [(key, value)]).reverse) frames) = _
      rw [List.reverse_append, List.reverse_reverse]
      rfl

/-- A value is read back from the text it is written as. -/
theorem read?_write {layout : Layout} (spaced : layout.IsSpaced) {value : Value} (kept : IsKept value) :
    read? (String.ofList (write layout 0 value)) = some value := by
  rw [read?, String.toList_ofList, tokens?_write spaced]
  change ((tokensOf value).foldlM step (.awaiting [])).bind result? = _
  rw [delivers kept]
  rfl

end TermBind.Json
