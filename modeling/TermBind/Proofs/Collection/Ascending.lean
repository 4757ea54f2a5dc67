import TermBind.Collection.Ascending

/-! Ascending lists are determined by their members, and stably sorted lists by the entries under
each key. Groups are the entries of each key that occurs. -/
namespace TermBind.Collection

open Std

variable {α : Type u} {κ : Type v}

section Members

variable [Ord α]

theorem mem_insertAscending [LawfulEqOrd α] {item other : α} {items : List α} :
    other ∈ insertAscending item items ↔ other = item ∨ other ∈ items := by
  induction items with
  | nil => simp [insertAscending]
  | cons head rest ih =>
    simp only [insertAscending]
    cases order : compare item head with
    | lt => simp
    | eq =>
      have same := LawfulEqOrd.eq_of_compare order
      subst same
      simp
    | gt =>
      simp only [List.mem_cons, ih]
      exact or_left_comm

theorem mem_ascending [LawfulEqOrd α] {item : α} {items : List α} :
    item ∈ ascending items ↔ item ∈ items := by
  induction items with
  | nil => rfl
  | cons head rest ih => rw [ascending_cons, mem_insertAscending, ih, List.mem_cons]

theorem pairwise_insertAscending [TransOrd α] [LawfulEqOrd α] {item : α} {items : List α}
    (sorted : items.Pairwise fun left right => compare left right = .lt) :
    (insertAscending item items).Pairwise fun left right => compare left right = .lt := by
  induction items with
  | nil => simp [insertAscending]
  | cons head rest ih =>
    obtain ⟨first, sorted'⟩ := List.pairwise_cons.mp sorted
    simp only [insertAscending]
    cases order : compare item head with
    | lt =>
      refine List.pairwise_cons.mpr ⟨?_, sorted⟩
      intro other member
      rcases List.mem_cons.mp member with rfl | later
      · exact order
      · exact TransCmp.lt_trans order (first other later)
    | eq => exact sorted
    | gt =>
      refine List.pairwise_cons.mpr ⟨?_, ih sorted'⟩
      intro other member
      rcases mem_insertAscending.mp member with rfl | later
      · exact OrientedCmp.lt_of_gt order
      · exact first other later

theorem pairwise_ascending [TransOrd α] [LawfulEqOrd α] (items : List α) :
    (ascending items).Pairwise fun left right => compare left right = .lt := by
  induction items with
  | nil => exact .nil
  | cons head rest ih => exact pairwise_insertAscending ih

/-- A strictly ascending list is in order already. -/
theorem ascending_eq_self {items : List α}
    (sorted : items.Pairwise fun left right => compare left right = .lt) : ascending items = items := by
  induction items with
  | nil => rfl
  | cons head rest ih =>
    obtain ⟨first, sorted'⟩ := List.pairwise_cons.mp sorted
    rw [ascending_cons, ih sorted']
    cases rest with
    | nil => rfl
    | cons next others => rw [insertAscending, first next (List.mem_cons_self ..)]

theorem nodup_of_pairwise_lt [TransOrd α] {items : List α}
    (sorted : items.Pairwise fun left right => compare left right = .lt) : items.Nodup := by
  refine sorted.imp ?_
  rintro left right before rfl
  simp at before

theorem nodup_ascending [TransOrd α] [LawfulEqOrd α] (items : List α) :
    (ascending items).Nodup :=
  nodup_of_pairwise_lt (pairwise_ascending items)

/-- Strictly ascending lists with the same members are equal. -/
theorem eq_of_pairwise_lt [TransOrd α] {left right : List α}
    (sorted : left.Pairwise fun first second => compare first second = .lt)
    (sorted' : right.Pairwise fun first second => compare first second = .lt)
    (same : ∀ item, item ∈ left ↔ item ∈ right) : left = right := by
  have perm : left.Perm right := by
    rw [List.perm_ext_iff_of_nodup (nodup_of_pairwise_lt sorted) (nodup_of_pairwise_lt sorted')]
    exact same
  refine perm.eq_of_pairwise ?_ sorted sorted'
  intro first second _ _ before after
  have cycle := TransCmp.lt_trans before after
  simp at cycle

theorem ascending_congr [TransOrd α] [LawfulEqOrd α] {left right : List α}
    (same : ∀ item, item ∈ left ↔ item ∈ right) : ascending left = ascending right := by
  apply eq_of_pairwise_lt (pairwise_ascending left) (pairwise_ascending right)
  intro item
  rw [mem_ascending, mem_ascending, same]

/-- In a list in order the first item of a kind is the least one. -/
theorem find?_eq_some_iff [TransOrd α] [LawfulEqOrd α] {items : List α}
    (sorted : items.Pairwise fun left right => (compare left right).isLE) {kind : α → Bool} {item : α} :
    items.find? kind = some item ↔ item ∈ items ∧ kind item = true ∧
      ∀ other ∈ items, kind other = true → (compare item other).isLE := by
  have least : ∀ {item}, items.find? kind = some item →
      ∀ other ∈ items, kind other = true → (compare item other).isLE := by
    intro item found other member own
    obtain ⟨_, before, after, rfl, skipped⟩ := List.find?_eq_some_iff_append.mp found
    rcases List.mem_append.mp member with early | late
    · have unlike := skipped other early
      simp [own] at unlike
    · rcases List.mem_cons.mp late with rfl | later
      · simp
      · exact (List.pairwise_cons.mp (List.pairwise_append.mp sorted).2.1).1 other later
  constructor
  · exact fun found => ⟨List.mem_of_find?_eq_some found, List.find?_some found, least found⟩
  · rintro ⟨member, own, first⟩
    obtain ⟨found, known⟩ := Option.isSome_iff_exists.mp (List.find?_isSome.mpr ⟨item, member, own⟩)
    have below := first found (List.mem_of_find?_eq_some known) (List.find?_some known)
    have level := OrientedCmp.isLE_antisymm below (least known item member own)
    rw [known, LawfulEqOrd.eq_of_compare level]

/-- Lists in order that have the same members have the same first item of a kind. -/
theorem find?_congr [TransOrd α] [LawfulEqOrd α] {left right : List α}
    (sorted : left.Pairwise fun first second => (compare first second).isLE)
    (sorted' : right.Pairwise fun first second => (compare first second).isLE)
    (same : ∀ item, item ∈ left ↔ item ∈ right) (kind : α → Bool) : left.find? kind = right.find? kind := by
  apply Option.ext
  intro item
  rw [find?_eq_some_iff sorted, find?_eq_some_iff sorted']
  simp only [same]

end Members

section Reordering

/-- A list of one item over and over has no other order. -/
theorem eq_of_perm_of_alike {left right : List α} (perm : left.Perm right)
    (alike : ∀ first ∈ left, ∀ second ∈ left, first = second) : left = right := by
  refine perm.eq_of_pairwise ?_ (List.pairwise_of_forall (R := fun _ _ => True) ?_)
    (List.pairwise_of_forall ?_)
  · exact fun first second member member' _ _ => alike first member second (perm.mem_iff.mpr member')
  · exact fun _ _ => trivial
  · exact fun _ _ => trivial

/-- The order of a list does not matter to what comes of it if that comes of one item alone. -/
theorem flatMap_eq_of_perm {β : Type w} {next : α → List β} {left right : List α}
    (perm : left.Perm right)
    (alone : ∀ first ∈ left, ∀ second ∈ left, next first ≠ [] → next second ≠ [] →
      first = second) : left.flatMap next = right.flatMap next := by
  have skip : ∀ items : List α,
      items.flatMap next = (items.filter fun item => !(next item).isEmpty).flatMap next := by
    intro items
    induction items with
    | nil => rfl
    | cons head rest ih => cases own : next head <;> simp [own, ih]
  rw [skip left, skip right]
  congr 1
  apply eq_of_perm_of_alike (perm.filter _)
  intro first member second member'
  obtain ⟨known, fruitful⟩ := List.mem_filter.mp member
  obtain ⟨known', fruitful'⟩ := List.mem_filter.mp member'
  exact alone first known second known' (by simpa using fruitful) (by simpa using fruitful')

/-- A list with another order has several items. -/
theorem eq_or_several_of_perm {left right : List α} (perm : left.Perm right) :
    left = right ∨ (∃ first second rest, left = first :: second :: rest) ∧
      ∃ first second rest, right = first :: second :: rest := by
  rcases left with _ | ⟨first, _ | ⟨second, rest⟩⟩
  · exact Or.inl (List.nil_perm.mp perm).symm
  · exact Or.inl (List.singleton_perm.mp perm)
  rcases right with _ | ⟨first', _ | ⟨second', rest'⟩⟩
  · cases perm.length_eq
  · cases perm.length_eq
  · exact Or.inr ⟨⟨first, second, rest, rfl⟩, first', second', rest', rfl⟩

end Reordering

section Sorting

variable [Ord κ] [TransOrd κ] (key : α → κ)

omit [TransOrd κ] in
theorem isLE_total [OrientedOrd κ] (left right : κ) :
    ((compare left right).isLE || (compare right left).isLE) = true := by
  cases order : compare left right with
  | lt => rfl
  | eq => rfl
  | gt => simp [OrientedCmp.lt_of_gt order]

theorem pairwise_sortOn (items : List α) :
    (sortOn key items).Pairwise fun left right => (compare (key left) (key right)).isLE := by
  apply List.pairwise_mergeSort
  · exact fun _ _ _ first second => TransCmp.isLE_trans first second
  · exact fun _ _ => isLE_total ..

theorem tied_of_mem_filter {items : List α} {at_ : κ} {first second : α}
    (member : first ∈ items.filter fun item => compare (key item) at_ == .eq)
    (member' : second ∈ items.filter fun item => compare (key item) at_ == .eq) :
    compare (key first) (key second) = .eq := by
  have level : compare (key first) at_ = .eq := by simpa using (List.mem_filter.mp member).2
  have level' : compare (key second) at_ = .eq := by simpa using (List.mem_filter.mp member').2
  rw [TransCmp.congr_left level]
  exact OrientedCmp.eq_symm level'

/-- Sorting keeps the entries under each key in their order. -/
theorem filter_sortOn (items : List α) (at_ : κ) :
    (sortOn key items).filter (fun item => compare (key item) at_ == .eq) =
      items.filter fun item => compare (key item) at_ == .eq := by
  let tied : α → Bool := fun item => compare (key item) at_ == .eq
  have level : (items.filter tied).Pairwise fun left right =>
      (compare (key left) (key right)).isLE = true := by
    apply List.pairwise_of_forall_mem_list
    intro left member right member'
    rw [tied_of_mem_filter key member member']
    rfl
  -- Entries under one key are sorted already, so a stable sort keeps them as a sublist.
  have kept : (items.filter tied).Sublist (sortOn key items) := by
    apply List.sublist_mergeSort _ _ level List.filter_sublist
    · exact fun _ _ _ first second => TransCmp.isLE_trans first second
    · exact fun _ _ => isLE_total ..
  have within := kept.filter tied
  rw [List.filter_filter] at within
  simp only [Bool.and_self] at within
  exact (within.eq_of_length ((sortOn_perm key items).filter tied).length_eq.symm).symm

/-- Where the entries under each key are the same, so are the entries. -/
theorem mem_of_filter_eq {left right : List α}
    (same : ∀ at_, left.filter (fun item => compare (key item) at_ == .eq) =
      right.filter fun item => compare (key item) at_ == .eq) {item : α} (member : item ∈ left) :
    item ∈ right := by
  have kept : item ∈ left.filter fun other => compare (key other) (key item) == .eq := by
    simp [member]
  rw [same] at kept
  exact (List.mem_filter.mp kept).1

theorem isLE_head {head item : α} {rest : List α}
    (sorted : (head :: rest).Pairwise fun first second => (compare (key first) (key second)).isLE)
    (member : item ∈ head :: rest) : (compare (key head) (key item)).isLE := by
  rcases List.mem_cons.mp member with rfl | later
  · simp
  · exact (List.pairwise_cons.mp sorted).1 item later

/-- Sorted lists that have the same entries in the same order under each key are equal. -/
theorem eq_of_pairwise_le {left right : List α}
    (sorted : left.Pairwise fun first second => (compare (key first) (key second)).isLE)
    (sorted' : right.Pairwise fun first second => (compare (key first) (key second)).isLE)
    (same : ∀ at_, left.filter (fun item => compare (key item) at_ == .eq) =
      right.filter fun item => compare (key item) at_ == .eq) : left = right := by
  induction left generalizing right with
  | nil =>
    cases right with
    | nil => rfl
    | cons head rest => simpa using same (key head)
  | cons head rest ih =>
    cases right with
    | nil => simpa using same (key head)
    | cons head' rest' =>
      have below := isLE_head key sorted' (mem_of_filter_eq key same (List.mem_cons_self ..))
      have above := isLE_head key sorted
        (mem_of_filter_eq key (fun at_ => (same at_).symm) (List.mem_cons_self ..))
      have level : compare (key head') (key head) = .eq := by
        apply OrientedCmp.eq_symm
        exact OrientedCmp.isLE_antisymm above below
      have heads : head = head' := by
        have tied := same (key head)
        simp only [List.filter_cons, ReflOrd.compare_self, level, BEq.rfl, if_true] at tied
        exact (List.cons.inj tied).1
      subst heads
      congr 1
      apply ih (List.pairwise_cons.mp sorted).2 (List.pairwise_cons.mp sorted').2
      intro at_
      have tied := same at_
      simp only [List.filter_cons] at tied
      split at tied
      · exact (List.cons.inj tied).2
      · exact tied

/-- Lists that have the same entries in the same order under each key are sorted alike. -/
theorem sortOn_congr {left right : List α}
    (same : ∀ at_, left.filter (fun item => compare (key item) at_ == .eq) =
      right.filter fun item => compare (key item) at_ == .eq) :
    sortOn key left = sortOn key right := by
  apply eq_of_pairwise_le key (pairwise_sortOn key left) (pairwise_sortOn key right)
  intro at_
  rw [filter_sortOn, filter_sortOn, same]

/-- The order of a list does not matter to sorting it where only equal entries share a key. -/
theorem sortOn_eq_of_perm {left right : List α} (perm : left.Perm right)
    (tied : ∀ first ∈ left, ∀ second ∈ left,
      compare (key first) (key second) = .eq → first = second) :
    sortOn key left = sortOn key right := by
  apply sortOn_congr
  intro at_
  apply eq_of_perm_of_alike (perm.filter _)
  intro first member second member'
  have known := (List.mem_filter.mp member).1
  have known' := (List.mem_filter.mp member').1
  exact tied first known second known' (tied_of_mem_filter key member member')

theorem exists_sortOn_cons (head : α) (items : List α) :
    ∃ before after, sortOn key (head :: items) = before ++ head :: after ∧
      sortOn key items = before ++ after ∧
      ∀ item ∈ before, (!(compare (key head) (key item)).isLE) = true := by
  apply List.mergeSort_cons
  · exact fun _ _ _ first second => TransCmp.isLE_trans first second
  · exact fun _ _ => isLE_total ..

/-- An item is sorted in after what is below it and before what is not. -/
theorem sortOn_cons (head : α) (items : List α) :
    sortOn key (head :: items) =
      (sortOn key items).filter (fun item => !(compare (key head) (key item)).isLE) ++
        head :: (sortOn key items).filter fun item => (compare (key head) (key item)).isLE := by
  obtain ⟨before, after, whole, others, below⟩ := exists_sortOn_cons key head items
  have sorted := pairwise_sortOn key (head :: items)
  rw [whole, List.pairwise_append, List.pairwise_cons] at sorted
  have above : ∀ item ∈ after, (compare (key head) (key item)).isLE = true := sorted.2.1.1
  have none : after.filter (fun item => !(compare (key head) (key item)).isLE) = [] :=
    List.filter_eq_nil_iff.mpr fun item member => by simp only [above item member]; decide
  have none' : before.filter (fun item => (compare (key head) (key item)).isLE) = [] :=
    List.filter_eq_nil_iff.mpr fun item member => by simpa using below item member
  rw [whole, others, List.filter_append, List.filter_append, none, none',
    List.filter_eq_self.mpr below, List.filter_eq_self.mpr above, List.append_nil, List.nil_append]

/-- What is sorted with other items stands as when it is sorted alone. -/
theorem sortOn_sublist {left right : List α} (sub : left.Sublist right) :
    (sortOn key left).Sublist (sortOn key right) := by
  induction sub with
  | slnil => exact List.Sublist.refl _
  | @cons left right head sub ih =>
    obtain ⟨before, after, whole, others, _⟩ := exists_sortOn_cons key head right
    rw [others] at ih
    rw [whole]
    exact ih.trans ((List.sublist_cons_self head after).append_left before)
  | cons_cons head sub ih =>
    rw [sortOn_cons, sortOn_cons]
    exact (ih.filter _).append ((ih.filter _).cons_cons head)

end Sorting

section Groups

variable [Ord κ] [BEq κ] [LawfulBEq κ]

/-- Grouping items by a key that some of them have. -/
theorem groups_filterMap (key? : α → Option κ) (items : List α) :
    groups (items.filterMap fun item => (key? item).map fun key => (key, item)) =
      (ascending (items.filterMap key?)).map fun key =>
        (key, items.filter fun item => key? item == some key) := by
  have keys : (items.filterMap fun item => (key? item).map fun key => (key, item)).map Prod.fst =
      items.filterMap key? := by
    simp [List.map_filterMap, Function.comp_def]
  unfold groups
  rw [keys]
  apply List.map_congr_left
  rintro key -
  clear keys
  congr 1
  induction items with
  | nil => rfl
  | cons head rest ih =>
    cases own : key? head with
    | none => simpa [List.filterMap_cons, List.filter_cons, own] using ih
    | some other =>
      by_cases same : other = key
      · subst same
        simpa [List.filterMap_cons, List.filter_cons, own] using ih
      · simpa [List.filterMap_cons, List.filter_cons, own, same] using ih

theorem groups_map (key : α → κ) (items : List α) :
    groups (items.map fun item => (key item, item)) =
      (ascending (items.map key)).map fun at_ =>
        (at_, items.filter fun item => key item == at_) := by
  have grouped := groups_filterMap (fun item => some (key item)) items
  simpa [List.filterMap_eq_map'] using grouped

omit [Ord κ] in
/-- Looking up a key among the values that some keys have. -/
theorem lookup_filterMap (value? : κ → Option α) (keys : List κ) (key : κ) :
    (keys.filterMap fun other => (value? other).map fun value => (other, value)).lookup key =
      if key ∈ keys then value? key else none := by
  induction keys with
  | nil => rfl
  | cons head rest ih =>
    cases own : value? head with
    | none =>
      by_cases same : key = head
      · subst same
        simp [own, ih]
      · simp [own, ih, same]
    | some value =>
      by_cases same : key = head
      · subst same
        simp [own]
      · have apart : (key == head) = false := by simpa using same
        simp [own, List.lookup_cons, apart, ih, same]

omit [Ord κ] [BEq κ] [LawfulBEq κ] in
theorem keys_sublist (value? : κ → Option α) (keys : List κ) :
    ((keys.filterMap fun key => (value? key).map fun value => (key, value)).map Prod.fst).Sublist
      keys := by
  induction keys with
  | nil => exact .slnil
  | cons head rest ih =>
    cases own : value? head with
    | none => simpa [own] using ih.cons head
    | some value => simpa [own] using ih.cons_cons head

omit [Ord κ] in
/-- Among entries under different keys, one is alone under its own. -/
theorem filter_key_of_nodup {entries : List (κ × α)} (different : (entries.map Prod.fst).Nodup)
    {entry : κ × α} (member : entry ∈ entries) :
    (entries.filter fun other => other.1 == entry.1) = [entry] := by
  induction entries with
  | nil => cases member
  | cons head rest ih =>
    obtain ⟨absent, different'⟩ := List.nodup_cons.mp different
    rcases List.mem_cons.mp member with rfl | later
    · have none : (rest.filter fun other => other.1 == entry.1) = [] := by
        refine List.filter_eq_nil_iff.mpr fun other found => ?_
        intro same
        rw [beq_iff_eq] at same
        exact absent (same ▸ List.mem_map_of_mem found)
      simp [none]
    · have apart : head.1 ≠ entry.1 := by
        intro same
        exact absent (same ▸ List.mem_map_of_mem later)
      rw [List.filter_cons_of_neg (by simpa using apart), ih different' later]

/-- Entries under strictly ascending keys are stored as they are. -/
theorem lastByKey_eq_self [TransOrd κ] {entries : List (κ × α)}
    (sorted : (entries.map Prod.fst).Pairwise fun left right => compare left right = .lt) :
    lastByKey entries = entries := by
  have different := nodup_of_pairwise_lt sorted
  let stored : κ × α → Option (κ × α) := fun entry =>
    ((entries.filter fun other => other.1 == entry.1).map Prod.snd).getLast?.map fun value =>
      (entry.1, value)
  have each : ∀ entry ∈ entries, stored entry = some entry := by
    intro entry member
    change (((entries.filter fun other => other.1 == entry.1).map Prod.snd).getLast?.map _) = _
    rw [filter_key_of_nodup different member]
    rfl
  unfold lastByKey groups
  rw [ascending_eq_self sorted, List.map_map, List.filterMap_map]
  change entries.filterMap (id ∘ stored) = entries
  rw [← List.filterMap_map, List.map_congr_left each, List.filterMap_map]
  exact List.filterMap_some

omit [LawfulBEq κ] in
/-- What is stored under keys is stored under ascending ones. -/
theorem pairwise_lastByKey [TransOrd κ] [LawfulEqOrd κ] (entries : List (κ × α)) :
    ((lastByKey entries).map Prod.fst).Pairwise fun left right => compare left right = .lt := by
  unfold lastByKey groups
  rw [List.filterMap_map]
  exact (pairwise_ascending (entries.map Prod.fst)).sublist (keys_sublist ..)

omit [Ord κ] in
/-- Items that are taken key by key are the items in another order. -/
theorem flatMap_filter_perm (key : α → κ) {keys : List κ} (nodup : keys.Nodup) {items : List α}
    (all : ∀ item ∈ items, key item ∈ keys) :
    (keys.flatMap fun at_ => items.filter fun item => key item == at_).Perm items := by
  induction keys generalizing items with
  | nil =>
    cases items with
    | nil => rfl
    | cons head rest => cases all head (List.mem_cons_self ..)
  | cons first keys ih =>
    obtain ⟨absent, nodup'⟩ := List.nodup_cons.mp nodup
    let others := items.filter fun item => !(key item == first)
    have later : ∀ item ∈ others, key item ∈ keys := by
      intro item member
      obtain ⟨known, different⟩ := List.mem_filter.mp member
      have different : key item ≠ first := by simpa using different
      exact (List.mem_cons.mp (all item known)).resolve_left different
    have same : (keys.flatMap fun at_ => items.filter fun item => key item == at_) =
        keys.flatMap fun at_ => others.filter fun item => key item == at_ := by
      rw [List.flatMap_def, List.flatMap_def]
      congr 1
      apply List.map_congr_left
      intro at_ member
      rw [List.filter_filter]
      apply List.filter_congr
      intro item _
      by_cases own : key item = at_
      · subst own
        have apart : key item ≠ first := fun equal => absent (equal ▸ member)
        simp [apart]
      · simp [own]
    rw [List.flatMap_cons, same]
    exact ((ih nodup' later).append_left _).trans (List.filter_append_perm ..)

end Groups

theorem flatMap_filterMap {β : Type w} (value? : κ → Option α) (next : α → List β) (keys : List κ) :
    (keys.filterMap value?).flatMap next = keys.flatMap fun key => (value? key).elim [] next := by
  induction keys with
  | nil => rfl
  | cons head rest ih => cases own : value? head <;> simp [own, ih]

end TermBind.Collection
