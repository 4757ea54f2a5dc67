import Mathlib.Data.List.Forall2
import TermBind.Proofs.Source.Imports
import TermBind.Proofs.Source.Placed

/-! The addresses of items in a file, and what the address of a declaration says about it. An address is
the index of an item among those of the file, or the address of an inline module and an index in it. -/
namespace TermBind.Source

/-- What stands at an address: an item, the headings of the inline modules around it with the outermost
first, and all items of the innermost one. -/
structure Standing where
  item : Item
  around : List Heading
  beside : List Item

namespace Standing

/-- Addresses go into inline modules only. -/
def at? (items : List Item) : List Nat → Option Standing
  | [] => none
  | [index] => items[index]?.map fun item => ⟨item, [], items⟩
  | index :: next :: rest =>
    match items[index]? with
    | some (.inlineModule heading inner) =>
      (at? inner (next :: rest)).map fun found => { found with around := heading :: found.around }
    | _ => none

/-- An item with the module that it stands in, below the module of its file. -/
def placed (module : Option (List String)) (standing : Standing) : Placed where
  item := standing.item
  module := module.map (· ++ standing.around.map Heading.name)
  beside := standing.beside

end Standing

namespace Placed

/-- The items of a list from an index on, and the contents of inline modules, with their addresses. -/
def addressedItem (module : Option (List String)) (beside : List Item) (index : Nat) :
    Item → List (List Nat × Placed)
  | .inlineModule heading items =>
    ([index], ⟨.inlineModule heading items, module, beside⟩) ::
      (addressed (module.map (· ++ [heading.name])) items 0 items).map (Prod.map (index :: ·) id)
  | .declaration heading => [([index], ⟨.declaration heading, module, beside⟩)]
  | .imports attributes tree => [([index], ⟨.imports attributes tree, module, beside⟩)]
  | .other attributes => [([index], ⟨.other attributes, module, beside⟩)]
where
  addressed (module : Option (List String)) (beside : List Item) (index : Nat) :
      List Item → List (List Nat × Placed)
    | [] => []
    | item :: rest => addressedItem module beside index item ++ addressed module beside (index + 1) rest

mutual

theorem map_addressedItem (module : Option (List String)) (beside : List Item) (index : Nat)
    (item : Item) :
    (addressedItem module beside index item).map Prod.snd = ofItem module beside item := by
  cases item with
  | inlineModule heading items =>
    rw [addressedItem, ofItem, List.map_cons, List.map_map,
      ← map_addressed (module.map (· ++ [heading.name])) items 0 items]
    rfl
  | _ => rfl

theorem map_addressed (module : Option (List String)) (beside : List Item) (index : Nat)
    (items : List Item) :
    (addressedItem.addressed module beside index items).map Prod.snd =
      ofItem.ofItems module beside items := by
  cases items with
  | nil => rfl
  | cons item rest =>
    rw [addressedItem.addressed, ofItem.ofItems, List.map_append, map_addressedItem, map_addressed]

end

variable {module : Option (List String)} {beside items : List Item} {index : Nat}

/-- An address below an item begins with the index of the item; it is the item's own, or goes on within
the inline module that the item is. -/
theorem mem_addressedItem_iff {item : Item} {address : List Nat} {placed : Placed} :
    (address, placed) ∈ addressedItem module beside index item ↔
      ∃ rest, address = index :: rest ∧ (rest = [] ∧ placed = ⟨item, module, beside⟩ ∨
        ∃ heading inner, item = .inlineModule heading inner ∧ (rest, placed) ∈
          addressedItem.addressed (module.map (· ++ [heading.name])) inner 0 inner) := by
  cases item with
  | inlineModule heading items =>
    rw [addressedItem, List.mem_cons, List.mem_map]
    constructor
    · rintro (same | ⟨⟨rest, placed⟩, member, same⟩)
      · cases same
        exact ⟨[], rfl, Or.inl ⟨rfl, rfl⟩⟩
      · cases same
        exact ⟨rest, rfl, Or.inr ⟨heading, items, rfl, member⟩⟩
    · rintro ⟨rest, rfl, ⟨rfl, rfl⟩ | ⟨_, _, same, member⟩⟩
      · exact Or.inl rfl
      · cases same
        exact Or.inr ⟨(rest, placed), member, rfl⟩
  | _ => simp [addressedItem]

theorem mem_addressed_iff {entry : List Nat × Placed} :
    entry ∈ addressedItem.addressed module beside index items ↔
      ∃ offset item, items[offset]? = some item ∧
        entry ∈ addressedItem module beside (index + offset) item := by
  induction items generalizing index with
  | nil => simp [addressedItem.addressed]
  | cons first rest ih =>
    rw [addressedItem.addressed, List.mem_append, ih]
    constructor
    · rintro (own | ⟨offset, item, found, later⟩)
      · exact ⟨0, first, rfl, own⟩
      · exact ⟨offset + 1, item, by simpa using found, by rwa [← Nat.add_assoc, Nat.add_right_comm]⟩
    · rintro ⟨offset, item, found, member⟩
      cases offset with
      | zero =>
        cases found
        exact Or.inl member
      | succ offset =>
        exact Or.inr ⟨offset, item, by simpa using found, by rwa [Nat.add_right_comm, Nat.add_assoc]⟩

/-- The first index of an address leads to an item of the list. -/
theorem mem_addressed_cons_iff {rest : List Nat} {placed : Placed} :
    (index :: rest, placed) ∈ addressedItem.addressed module items 0 items ↔
      ∃ item, items[index]? = some item ∧ (rest = [] ∧ placed = ⟨item, module, items⟩ ∨
        ∃ heading inner, item = .inlineModule heading inner ∧ (rest, placed) ∈
          addressedItem.addressed (module.map (· ++ [heading.name])) inner 0 inner) := by
  rw [mem_addressed_iff]
  constructor
  · rintro ⟨offset, item, found, member⟩
    rw [Nat.zero_add] at member
    obtain ⟨_, same, stands⟩ := mem_addressedItem_iff.mp member
    cases same
    exact ⟨item, found, stands⟩
  · rintro ⟨item, found, stands⟩
    refine ⟨index, item, found, ?_⟩
    rw [Nat.zero_add]
    exact mem_addressedItem_iff.mpr ⟨rest, rfl, stands⟩

theorem placed_around (standing : Standing) (heading : Heading) :
    { standing with around := heading :: standing.around }.placed module =
      standing.placed (module.map (· ++ [heading.name])) := by
  simp [Standing.placed, Function.comp_def]

/-- Listed with an address is what stands there. -/
theorem mem_addressed_iff_at? {address : List Nat} {placed : Placed} :
    (address, placed) ∈ addressedItem.addressed module items 0 items ↔
      ∃ standing, Standing.at? items address = some standing ∧ standing.placed module = placed := by
  induction address generalizing module items with
  | nil =>
    constructor
    · intro member
      obtain ⟨_, _, _, member⟩ := mem_addressed_iff.mp member
      obtain ⟨_, empty, _⟩ := mem_addressedItem_iff.mp member
      cases empty
    · rintro ⟨_, none, _⟩
      cases none
  | cons index rest ih =>
    simp only [mem_addressed_cons_iff, ih]
    cases rest with
    | nil =>
      simp only [Standing.at?, Option.map_eq_some_iff]
      constructor
      · rintro ⟨item, found, ⟨_, rfl⟩ | ⟨_, _, _, _, none, _⟩⟩
        · exact ⟨_, ⟨item, found, rfl⟩, by simp [Standing.placed]⟩
        · cases none
      · rintro ⟨_, ⟨item, found, rfl⟩, rfl⟩
        exact ⟨item, found, Or.inl ⟨trivial, by simp [Standing.placed]⟩⟩
    | cons next rest =>
      rw [Standing.at?]
      constructor
      · rintro ⟨_, found, ⟨empty, _⟩ | ⟨heading, inner, rfl, standing, stands, rfl⟩⟩
        · cases empty
        · rw [found]
          exact ⟨_, congrArg (Option.map _) stands, placed_around standing heading⟩
      · rintro ⟨_, stands, rfl⟩
        split at stands
        · rename_i heading inner found
          obtain ⟨standing, within, rfl⟩ := Option.map_eq_some_iff.mp stands
          exact ⟨_, found,
            Or.inr ⟨heading, inner, rfl, standing, within, (placed_around standing heading).symm⟩⟩
        · cases stands

theorem exists_index_of_mem {entry : List Nat × Placed}
    (member : entry ∈ addressedItem.addressed module beside index items) :
    ∃ first rest, entry.1 = first :: rest ∧ index ≤ first := by
  obtain ⟨offset, item, _, member⟩ := mem_addressed_iff.mp member
  obtain ⟨rest, spelled, _⟩ := mem_addressedItem_iff.mp member
  exact ⟨index + offset, rest, spelled, Nat.le_add_right ..⟩

mutual

/-- An inline module comes before its contents. -/
theorem pairwise_addressedItem (module : Option (List String)) (beside : List Item) (index : Nat)
    (item : Item) :
    ((addressedItem module beside index item).map Prod.fst).Pairwise (· < ·) := by
  cases item with
  | inlineModule heading items =>
    rw [addressedItem, List.map_cons, List.map_map, List.pairwise_cons]
    constructor
    · rintro address member
      obtain ⟨entry, listed, rfl⟩ := List.mem_map.mp member
      obtain ⟨first, rest, spelled, _⟩ := exists_index_of_mem listed
      simp [spelled]
    · have inner := pairwise_addressed (module.map (· ++ [heading.name])) items 0 items
      rw [List.pairwise_map] at inner ⊢
      exact inner.imp fun less => by simpa using less
  | _ => exact List.pairwise_singleton _ _

theorem pairwise_addressed (module : Option (List String)) (beside : List Item) (index : Nat)
    (items : List Item) :
    ((addressedItem.addressed module beside index items).map Prod.fst).Pairwise (· < ·) := by
  cases items with
  | nil => exact List.Pairwise.nil
  | cons item rest =>
    rw [addressedItem.addressed, List.map_append, List.pairwise_append]
    refine ⟨pairwise_addressedItem module beside index item,
      pairwise_addressed module beside (index + 1) rest, ?_⟩
    rintro left member right member'
    obtain ⟨⟨_, _⟩, listed, rfl⟩ := List.mem_map.mp member
    obtain ⟨entry, listed', rfl⟩ := List.mem_map.mp member'
    obtain ⟨own, rfl, _⟩ := mem_addressedItem_iff.mp listed
    obtain ⟨first, others, spelled, later⟩ := exists_index_of_mem listed'
    rw [spelled]
    exact List.cons_lt_cons_iff.mpr (Or.inl later)

end

theorem declared?_eq_some_iff {placed : Placed} {declared : Declared} :
    placed.declared? = some declared ↔
      placed.item.heading? = some declared.heading ∧ declared.heading.attributes ≠ [] ∧
        declared.module = placed.module ∧ declared.scope = .ofItems placed.beside := by
  unfold declared?
  cases declared
  split
  · rename_i none
    simp [none]
  · rename_i heading headed
    rw [headed]
    split
    · rename_i empty
      rw [List.isEmpty_iff] at empty
      simp only [reduceCtorEq, Option.some.injEq, false_iff]
      rintro ⟨rfl, filled, _⟩
      exact filled empty
    · rename_i filled
      rw [List.isEmpty_iff] at filled
      simp only [Option.some.injEq, Declared.mk.injEq]
      constructor
      · rintro ⟨rfl, rfl, rfl⟩
        exact ⟨rfl, filled, rfl, rfl⟩
      · rintro ⟨rfl, _, rfl, rfl⟩
        exact ⟨rfl, rfl, rfl⟩

end Placed

theorem Grammar.Every.heading {called : Heading → Prop} {item : Item} (every : Every called item)
    {heading : Heading} (headed : item.heading? = some heading)
    (isImplementation : heading.kind = .implementation) : called heading := by
  cases every with
  | made made =>
    cases made with
    | implementation own =>
      cases headed
      exact own
    | declaration other =>
      cases headed
      exact absurd isImplementation other
    | inlineModule other _ =>
      cases headed
      exact absurd isImplementation other
    | imports _ _ => cases headed
    | other _ => cases headed

theorem Standing.every_item {called : Heading → Prop} {found : List Item} {address : List Nat}
    {standing : Standing} (every : ∀ item ∈ found, Grammar.Every called item)
    (stands : at? found address = some standing) : Grammar.Every called standing.item := by
  induction address generalizing found standing with
  | nil => cases stands
  | cons index rest ih =>
    cases rest with
    | nil =>
      obtain ⟨item, known, rfl⟩ := Option.map_eq_some_iff.mp stands
      exact every item (List.mem_of_getElem? known)
    | cons next rest =>
      rw [at?] at stands
      split at stands
      · rename_i heading inner known
        obtain ⟨standing, below, rfl⟩ := Option.map_eq_some_iff.mp stands
        cases every _ (List.mem_of_getElem? known) with
        | made made =>
          cases made with
          | inlineModule _ within =>
            have own : Grammar.Every called standing.item := ih within below
            exact own
      · cases stands

theorem exists_of_readAll {α : Type} {reader : Grammar.Rules → Grammar.Reader α} {trees : List Tree}
    {value : α} (read : Grammar.readAll reader trees = .ok value) :
    ∃ depth state after, reader (Grammar.rulesWithin depth) state = .ok (value, after) := by
  simp only [Grammar.readAll] at read
  cases result : (reader (Grammar.rulesWithin (8 * Tree.size.sizeAll trees + 32))).run
      { rest := trees, close := {} } with
  | error place =>
    rw [result] at read
    cases read
  | ok found =>
    rw [result] at read
    dsimp only [bind, Except.bind] at read
    cases left : found.2.stray.or (found.2.rest.head?.map Tree.start) with
    | some place =>
      rw [left] at read
      cases read
    | none =>
      rw [left] at read
      cases read
      exact ⟨_, _, _, result⟩

/-- In a file that can be read, every implementation is called by its type. -/
theorem every_isCalledByType {text : String} {found : List Item} (parsed : items text = .ok found) :
    ∀ item ∈ found, Grammar.Every Grammar.IsCalledByType item := by
  unfold items at parsed
  cases lexed : trees (withoutLoaderLine (withoutMark text.toList)) with
  | error place =>
    rw [lexed] at parsed
    cases parsed
  | ok tokens =>
    rw [lexed] at parsed
    obtain ⟨depth, state, after, read⟩ := exists_of_readAll parsed
    have gives : Grammar.Gives (fileItems (Grammar.rulesWithin depth)) state fun items =>
        ∀ item ∈ items, Grammar.Every Grammar.IsCalledByType item :=
      .after fun _ _ => Grammar.gives_items fun _ => Grammar.gives_item depth
    exact gives found after read

/-- What a declaration takes from where it stands in a file of a module: its full name, unless the file
has no module, and the names of its attributes by the imports among the items beside it. An
implementation has the text of its type for its own name. -/
structure IsPlacedAt (module : Option (List String)) (standing : Standing) (declared : Declared) :
    Prop where
  headed : standing.item.heading? = some declared.heading
  typed : declared.heading.kind = .implementation → Grammar.IsCalledByType declared.heading
  called : declared.qualifiedName? = module.map fun module =>
    ⟨"::".intercalate ("crate" :: (module ++ standing.around.map Heading.name)), declared.heading.name⟩
  shown : declared.qualifiedName?.map QualifiedName.display = module.map fun module =>
    "::".intercalate ("crate" :: (module ++ standing.around.map Heading.name ++ [declared.heading.name]))
  resolved : ∀ held, (declared.annotationUse held).name =
    "::".intercalate (resolved (importedLeaves standing.beside) held.path)

/-- The declarations of a file go by ascending addresses, which are those of the items with a heading and
with attributes. -/
structure AreListed (module : Option (List String)) (found : List Item) (addresses : List (List Nat))
    (declared : List Declared) : Prop where
  ascending : addresses.Pairwise (· < ·)
  complete : ∀ address, address ∈ addresses ↔ ∃ standing heading,
    Standing.at? found address = some standing ∧ standing.item.heading? = some heading ∧
      heading.attributes ≠ []
  placed : List.Forall₂ (fun address declared => ∃ standing,
    Standing.at? found address = some standing ∧ IsPlacedAt module standing declared) addresses declared

theorem display_qualifiedName (segments : List String) (name : String) :
    QualifiedName.display ⟨"::".intercalate ("crate" :: segments), name⟩ =
      "::".intercalate ("crate" :: (segments ++ [name])) := by
  have joined := String.intercalate_append_of_ne_nil (s := "::") (List.cons_ne_nil "crate" segments)
    (List.cons_ne_nil name [])
  rw [String.intercalate_singleton, List.cons_append] at joined
  rw [joined]
  rfl

theorem isPlacedAt_of_declared? {module : Option (List String)} {standing : Standing}
    {declared : Declared} (every : Grammar.Every Grammar.IsCalledByType standing.item)
    (read : (standing.placed module).declared? = some declared) :
    IsPlacedAt module standing declared := by
  obtain ⟨headed, _, own, imported⟩ := Placed.declared?_eq_some_iff.mp read
  have called : declared.qualifiedName? = module.map fun module =>
      ⟨"::".intercalate ("crate" :: (module ++ standing.around.map Heading.name)),
        declared.heading.name⟩ := by
    rw [Declared.qualifiedName?, own, Standing.placed, Option.map_map]
    rfl
  refine ⟨headed, every.heading headed, called, ?_, fun held => ?_⟩
  · rw [called, Option.map_map]
    exact congrArg (Option.map · module) (funext fun module => display_qualifiedName _ _)
  · rw [Declared.annotationUse, imported, Scope.resolve_ofItems]
    rfl

/-- The declarations of a list of items with their addresses. -/
def Declared.addressed (module : Option (List String)) (found : List Item) :
    List (List Nat × Declared) :=
  (Placed.addressedItem.addressed module found 0 found).filterMap fun entry =>
    entry.2.declared?.map (entry.1, ·)

variable {module : Option (List String)} {found : List Item}

theorem map_addressed_declared : (Declared.addressed module found).map Prod.snd =
    (Placed.ofFile module found).filterMap Placed.declared? := by
  rw [Declared.addressed, List.map_filterMap, Placed.ofFile, ← Placed.map_addressed module found 0 found,
    List.filterMap_map]
  refine List.filterMap_congr fun entry _ => ?_
  simp [Function.comp_def]

theorem mem_addressed_declared_iff {address : List Nat} {declared : Declared} :
    (address, declared) ∈ Declared.addressed module found ↔
      ∃ standing, Standing.at? found address = some standing ∧
        (standing.placed module).declared? = some declared := by
  rw [Declared.addressed, List.mem_filterMap]
  constructor
  · rintro ⟨⟨_, placed⟩, listed, read⟩
    obtain ⟨_, read, same⟩ := Option.map_eq_some_iff.mp read
    cases same
    obtain ⟨standing, stands, rfl⟩ := Placed.mem_addressed_iff_at?.mp listed
    exact ⟨standing, stands, read⟩
  · rintro ⟨standing, stands, read⟩
    exact ⟨(address, standing.placed module), Placed.mem_addressed_iff_at?.mpr ⟨standing, stands, rfl⟩,
      by simp [read]⟩

theorem pairwise_addressed_declared :
    ((Declared.addressed module found).map Prod.fst).Pairwise (· < ·) := by
  have ascending := Placed.pairwise_addressed module found 0 found
  rw [List.pairwise_map] at ascending ⊢
  rw [Declared.addressed, List.pairwise_filterMap]
  refine ascending.imp fun less _ read _ read' => ?_
  obtain ⟨_, _, rfl⟩ := Option.map_eq_some_iff.mp read
  obtain ⟨_, _, rfl⟩ := Option.map_eq_some_iff.mp read'
  exact less

theorem areListed_addressed (every : ∀ item ∈ found, Grammar.Every Grammar.IsCalledByType item) :
    AreListed module found ((Declared.addressed module found).map Prod.fst)
    ((Declared.addressed module found).map Prod.snd) := by
  refine ⟨pairwise_addressed_declared, fun address => ?_, ?_⟩
  · rw [List.mem_map]
    constructor
    · rintro ⟨⟨_, declared⟩, listed, rfl⟩
      obtain ⟨standing, stands, read⟩ := mem_addressed_declared_iff.mp listed
      obtain ⟨headed, filled, _⟩ := Placed.declared?_eq_some_iff.mp read
      exact ⟨standing, declared.heading, stands, headed, filled⟩
    · rintro ⟨standing, heading, stands, headed, filled⟩
      let declared : Declared :=
        { heading, module := (standing.placed module).module, scope := .ofItems standing.beside }
      have read : (standing.placed module).declared? = some declared :=
        Placed.declared?_eq_some_iff.mpr ⟨headed, filled, rfl, rfl⟩
      exact ⟨(address, declared), mem_addressed_declared_iff.mpr ⟨standing, stands, read⟩, rfl⟩
  · rw [List.forall₂_map_left_iff, List.forall₂_map_right_iff, List.forall₂_same]
    rintro ⟨address, declared⟩ listed
    obtain ⟨standing, stands, read⟩ := mem_addressed_declared_iff.mp listed
    exact ⟨standing, stands, isPlacedAt_of_declared? (standing.every_item every stands) read⟩

/-- The declarations of a file that can be read are its items with a heading and attributes, at file
level and inside inline modules at any depth, each once and a module before its contents. What each one
is called and what its attributes stand for depends on where it stands. -/
theorem exists_areListed [Wording] {path root : Path} {text : String} {found : List Item}
    (parsed : items text = .ok found) : ∃ addresses declared,
      declarations path text root = .ok declared ∧
        AreListed (modulePath? path root) found addresses declared :=
  ⟨_, _, by rw [Placed.declarations_eq parsed, map_addressed_declared],
    areListed_addressed (every_isCalledByType parsed)⟩

/-- A type and, in an inline module, an implementation, both with an attribute that is imported under the
same name. -/
def nestedText : String :=
  "#[c]struct A;mod m{#[c]impl B<u8>{}use d::e as c;}use a::b as c;"

section

open scoped Wording

/-- The import of the inner module is not seen at file level, nor that of the file inside. -/
theorem declarations_nestedText :
    (declarations ⟨"src/lib.rs"⟩ nestedText ⟨"src"⟩).value?.map (·.map fun declared =>
      (declared.qualifiedName?.map (·.display),
        declared.heading.attributes.map fun held => (declared.annotationUse held).name)) =
      some [(some "crate::A", ["a::b"]), (some "crate::m::B < u8 >", ["d::e"])] := by decide +kernel

theorem exists_areListed_nested : ∃ found, items nestedText = .ok found ∧ ∃ addresses declared,
    declarations ⟨"src/lib.rs"⟩ nestedText ⟨"src"⟩ = .ok declared ∧
      AreListed (modulePath? ⟨"src/lib.rs"⟩ ⟨"src"⟩) found addresses declared := by
  cases parsed : items nestedText with
  | ok found => exact ⟨found, rfl, exists_areListed parsed⟩
  | error place =>
    have readable := declarations_nestedText
    rw [declarations, parsed] at readable
    cases readable

end

end TermBind.Source
