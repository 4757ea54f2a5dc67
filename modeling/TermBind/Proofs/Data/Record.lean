import TermBind.Data.Record
import TermBind.Proofs.Collection.Ascending

/-! Records, lists and absent values are read back from the values they are written as. -/
namespace TermBind.Data

variable {α β γ : Type}

/-- Reading every value that was written, where reading one gives what it should. -/
theorem mapM_map_eq_some {write : α → β} {read : β → Option γ} {result : α → γ} {items : List α}
    (each : ∀ item ∈ items, read (write item) = some (result item)) :
    (items.map write).mapM read = some (items.map result) := by
  induction items with
  | nil => rfl
  | cons item items ih =>
    have own := each item (by simp)
    have others := ih fun other member => each other (List.mem_cons_of_mem _ member)
    rw [List.map_cons, List.mapM_cons, own, others]
    rfl

/-- A record with all its fields gives each of them. -/
theorem slots?_record (dialect : Dialect) {entries : List (String × Value)}
    (different : (entries.map Prod.fst).Nodup) :
    slots? dialect (entries.map Prod.fst) (.record entries) =
      some (entries.map fun entry => .given entry.2) := by
  refine mapM_map_eq_some fun entry member => ?_
  rw [slot?, Collection.filter_key_of_nodup different member]

theorem optional_ofOption {write : α → Value} {read : Value → Option α} {value : Option α}
    (shown : ∀ own, write own ≠ .null) (each : ∀ own ∈ value, read (write own) = some own) :
    (Slot.given (Value.ofOption write value)).optional read = some value := by
  cases value with
  | none => rfl
  | some own =>
    rw [Value.ofOption, Slot.optional, each own rfl]
    · rfl
    · exact shown own

theorem natural?_natural {bound value : Nat} (below : value < bound) :
    natural? bound (.natural value) = some value := if_pos below

theorem list?_map {write : α → Value} {read : Value → Option α} {items : List α}
    (each : ∀ item ∈ items, read (write item) = some item) :
    list? read (.list (items.map write)) = some items := by
  have all : (items.map write).mapM read = some (items.map id) := mapM_map_eq_some each
  rwa [List.map_id] at all

theorem list?_ofTexts (texts : List String) : list? text? (Value.ofTexts texts) = some texts :=
  list?_map fun _ _ => rfl

/-- Entries under names that need not be known. -/
theorem entries?_map (write : α → Value) {read : Value → Option α} {entries : List (String × α)}
    (each : ∀ entry ∈ entries, read (write entry.2) = some entry.2) :
    entries? read (.record (entries.map fun entry => (entry.1, write entry.2))) = some entries := by
  have all : (entries.map fun entry => (entry.1, write entry.2)).mapM
      (fun entry => (read entry.2).map fun value => (entry.1, value)) = some (entries.map id) := by
    refine mapM_map_eq_some fun entry member => ?_
    rw [each entry member]
    rfl
  rwa [List.map_id] at all

end TermBind.Data
