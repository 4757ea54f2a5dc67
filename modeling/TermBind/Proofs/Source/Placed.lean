import Mathlib.Data.List.Basic
import TermBind.Source.Declared

/-! All items of a file with their places: at file level, and inside inline modules at any depth. The
declarations with attributes are read off this list. -/
namespace TermBind.Source

/-- What an item is called and carries; imports and other items have no heading. -/
def Item.heading? : Item → Option Heading
  | .declaration heading => some heading
  | .inlineModule heading _ => some heading
  | .imports .. => none
  | .other _ => none

/-- An item with the module that it stands in and all items of this module. -/
structure Placed where
  item : Item
  module : Option (List String)
  beside : List Item

namespace Placed

/-- An item, and the contents of an inline module after it. -/
def ofItem (module : Option (List String)) (beside : List Item) : Item → List Placed
  | .inlineModule heading items =>
    ⟨.inlineModule heading items, module, beside⟩ ::
      ofItems (module.map (· ++ [heading.name])) items items
  | .declaration heading => [⟨.declaration heading, module, beside⟩]
  | .imports attributes tree => [⟨.imports attributes tree, module, beside⟩]
  | .other attributes => [⟨.other attributes, module, beside⟩]
where
  ofItems (module : Option (List String)) (beside : List Item) : List Item → List Placed
    | [] => []
    | item :: rest => ofItem module beside item ++ ofItems module beside rest

/-- The items of a file in source order. -/
def ofFile (module : Option (List String)) (items : List Item) : List Placed :=
  ofItem.ofItems module items items

/-- The places in a file: file level, and any inline module that has a place itself. -/
inductive StandsIn (module : Option (List String)) (items : List Item) : Placed → Prop
  | top {item : Item} (member : item ∈ items) : StandsIn module items ⟨item, module, items⟩
  | inside {heading : Heading} {inner beside : List Item} {outer : Option (List String)} {item : Item}
      (stands : StandsIn module items ⟨.inlineModule heading inner, outer, beside⟩)
      (member : item ∈ inner) :
      StandsIn module items ⟨item, outer.map (· ++ [heading.name]), inner⟩

theorem mem_ofItems_of_mem {module : Option (List String)} {beside items : List Item} {item : Item}
    (member : item ∈ items) : ⟨item, module, beside⟩ ∈ ofItem.ofItems module beside items := by
  induction items with
  | nil => cases member
  | cons first rest ih =>
    rw [ofItem.ofItems, List.mem_append]
    rcases List.mem_cons.mp member with rfl | later
    · cases item <;> simp [ofItem]
    · exact .inr (ih later)

mutual

theorem mem_ofItem_inside {module outer : Option (List String)} {beside around inner : List Item}
    {heading : Heading} {tree item : Item}
    (listed : ⟨.inlineModule heading inner, outer, around⟩ ∈ ofItem module beside tree)
    (member : item ∈ inner) :
    ⟨item, outer.map (· ++ [heading.name]), inner⟩ ∈ ofItem module beside tree := by
  cases tree with
  | inlineModule own items =>
    rw [ofItem] at listed ⊢
    rcases List.mem_cons.mp listed with same | later
    · cases same
      exact List.mem_cons_of_mem _ (mem_ofItems_of_mem member)
    · exact List.mem_cons_of_mem _ (mem_ofItems_inside later member)
  | _ => simp [ofItem] at listed

theorem mem_ofItems_inside {module outer : Option (List String)} {beside around inner items : List Item}
    {heading : Heading} {item : Item}
    (listed : ⟨.inlineModule heading inner, outer, around⟩ ∈ ofItem.ofItems module beside items)
    (member : item ∈ inner) :
    ⟨item, outer.map (· ++ [heading.name]), inner⟩ ∈ ofItem.ofItems module beside items := by
  cases items with
  | nil => simp [ofItem.ofItems] at listed
  | cons first rest =>
    rw [ofItem.ofItems, List.mem_append] at listed ⊢
    exact listed.imp (mem_ofItem_inside · member) (mem_ofItems_inside · member)

end

mutual

theorem standsIn_of_mem_ofItem {module inner : Option (List String)} {items beside : List Item}
    {tree : Item} {placed : Placed} (stands : StandsIn module items ⟨tree, inner, beside⟩)
    (listed : placed ∈ ofItem inner beside tree) : StandsIn module items placed := by
  cases tree with
  | inlineModule heading contents =>
    rw [ofItem] at listed
    rcases List.mem_cons.mp listed with rfl | later
    · exact stands
    · exact standsIn_of_mem_ofItems (fun item member => .inside stands member) later
  | _ =>
    simp only [ofItem, List.mem_singleton] at listed
    exact listed ▸ stands

theorem standsIn_of_mem_ofItems {module inner : Option (List String)} {items beside trees : List Item}
    {placed : Placed} (stands : ∀ item ∈ trees, StandsIn module items ⟨item, inner, beside⟩)
    (listed : placed ∈ ofItem.ofItems inner beside trees) : StandsIn module items placed := by
  cases trees with
  | nil => simp [ofItem.ofItems] at listed
  | cons first rest =>
    rw [ofItem.ofItems, List.mem_append] at listed
    rcases listed with own | later
    · exact standsIn_of_mem_ofItem (stands first (List.mem_cons_self ..)) own
    · exact standsIn_of_mem_ofItems (fun item member => stands item (List.mem_cons_of_mem _ member)) later

end

theorem mem_ofFile_iff {module : Option (List String)} {items : List Item} {placed : Placed} :
    placed ∈ ofFile module items ↔ StandsIn module items placed := by
  constructor
  · exact standsIn_of_mem_ofItems fun item member => .top member
  · intro stands
    induction stands with
    | top member => exact mem_ofItems_of_mem member
    | inside _ member ih => exact mem_ofItems_inside ih member

/-- The declaration that an item is read as, if it has a heading and any attributes. -/
def declared? (placed : Placed) : Option Declared :=
  match placed.item.heading? with
  | none => none
  | some heading =>
    if heading.attributes.isEmpty then none
    else some { heading, module := placed.module, scope := .ofItems placed.beside }

theorem own_eq (placed : Placed) {heading : Heading} (headed : placed.item.heading? = some heading) :
    Declared.own placed.module (.ofItems placed.beside) heading = placed.declared?.toList := by
  simp only [Declared.own, declared?, headed]
  split <;> rfl

mutual

theorem ofItem_eq_flatMap (module : Option (List String)) (beside : List Item) (item : Item) :
    Declared.ofItem module (.ofItems beside) item =
      (ofItem module beside item).flatMap (·.declared?.toList) := by
  cases item with
  | declaration heading =>
    have own := own_eq ⟨.declaration heading, module, beside⟩ rfl
    rw [Declared.ofItem, ofItem, own, List.flatMap_singleton]
  | inlineModule heading items =>
    have own := own_eq ⟨.inlineModule heading items, module, beside⟩ rfl
    rw [Declared.ofItem, ofItem, own, List.flatMap_cons,
      ofItems_eq_flatMap (module.map (· ++ [heading.name])) items items]
  | imports attributes tree => rfl
  | other attributes => rfl

theorem ofItems_eq_flatMap (module : Option (List String)) (beside items : List Item) :
    Declared.ofItem.ofItems module (.ofItems beside) items =
      (ofItem.ofItems module beside items).flatMap (·.declared?.toList) := by
  cases items with
  | nil => rfl
  | cons first rest =>
    rw [Declared.ofItem.ofItems, ofItem.ofItems, List.flatMap_append,
      ofItem_eq_flatMap module beside first, ofItems_eq_flatMap module beside rest]

end

/-- The declarations of a file are its items that have a heading and attributes, each once and in order. -/
theorem declarations_eq [Wording] {path root : Path} {text : String} {found : List Item}
    (parsed : items text = .ok found) :
    declarations path text root =
      .ok ((ofFile (modulePath? path root) found).filterMap declared?) := by
  rw [declarations, parsed, ofFile, List.filterMap_eq_flatMap_toList]
  exact congrArg Outcome.ok (ofItems_eq_flatMap _ found found)

end Placed
end TermBind.Source
