import Mathlib.Data.List.Infix
import TermBind.Proofs.Path.Spelling

/-! What joining, shortening and stripping do to the components of a path. These operations work on
texts; each is described here by what it does to the place that the path names. -/
namespace TermBind.Path

open Collection

section Segments

/-- No segment holds a slash. -/
def SlashFree (segments : List String) : Prop := ∀ segment ∈ segments, '/' ∉ segment.toList

theorem slashFree_segments (path : Path) : SlashFree path.segments := by
  intro segment member
  obtain ⟨characters, split, rfl⟩ := List.mem_map.mp member
  simpa using not_mem_of_mem_splitOn split

theorem segments_ne_nil (path : Path) : path.segments ≠ [] := by
  simp [segments]

theorem toList_ofSegments (segments : List String) :
    (ofSegments segments).text.toList = ['/'].intercalate (segments.map String.toList) := by
  simp [ofSegments, String.toList_intercalate]

theorem map_splitOn {segments : List String} (some : segments ≠ []) (free : SlashFree segments) :
    ((ofSegments segments).text.toList.splitOn '/').map String.ofList = segments := by
  rw [toList_ofSegments, List.splitOn_intercalate '/' ?free (by simpa using some)]
  · simp [Function.comp_def]
  · intro characters member
    obtain ⟨segment, known, rfl⟩ := List.mem_map.mp member
    exact free segment known

theorem isAbsolute_ofSegments {segments : List String} (free : SlashFree segments)
    (begun : segments.head? ≠ some "") : (ofSegments segments).isAbsolute = false := by
  rw [isAbsolute, toList_ofSegments, beq_eq_false_iff_ne]
  cases segments with
  | nil => simp
  | cons first rest =>
    have filled : first.toList ≠ [] := by
      intro empty
      exact begun (congrArg some (String.toList_eq_nil_iff.mp empty))
    obtain ⟨c, others, spelled⟩ := List.exists_cons_of_ne_nil filled
    have notSlash : c ≠ '/' := by
      rintro rfl
      exact free first (by simp) (by simp [spelled])
    cases rest <;> simp [spelled, notSlash]

theorem segments_ofSegments {segments : List String} (some : segments ≠ [])
    (free : SlashFree segments) (begun : segments.head? ≠ Option.some "") :
    (ofSegments segments).segments = segments := by
  rw [Path.segments]
  simp only [isAbsolute_ofSegments free begun, Bool.false_eq_true, if_false]
  exact map_splitOn some free

/-- A relative path has a first segment unless it is empty. -/
theorem head?_segments {path : Path} (relative : path.isAbsolute = false) (filled : path.text ≠ "") :
    path.segments.head? ≠ some "" := by
  rw [segments]
  simp only [relative, Bool.false_eq_true, if_false]
  have letters : path.text.toList ≠ [] := by simpa [String.toList_eq_nil_iff] using filled
  obtain ⟨c, rest, spelled⟩ := List.exists_cons_of_ne_nil letters
  have notSlash : c ≠ '/' := by simpa [isAbsolute, spelled] using relative
  obtain ⟨first, others, split⟩ := List.exists_cons_of_ne_nil (List.splitOn_ne_nil '/' rest)
  rw [spelled, List.splitOn_cons_eq_if_modifyHead, split]
  simp [notSlash, ← String.toList_inj]

end Segments

section Steps

/-- The root of an absolute path, the leading dot of a relative one. -/
def start (path : Path) : List Component :=
  if path.isAbsolute then [.root] else if path.segments.head? = some "." then [.current] else []

/-- What follows the start. -/
def steps (path : Path) : List Component := path.segments.filterMap component?

theorem components_eq (path : Path) : path.components = path.start ++ path.steps := by
  rw [components, start, steps]
  cases path.isAbsolute with
  | true => rfl
  | false =>
    cases path.segments with
    | nil => rfl
    | cons first rest =>
      by_cases dot : first = "."
      · subst dot
        rfl
      · simp only [leading?, beq_iff_eq, dot, if_false, List.head?_cons, Option.some.injEq,
          List.filterMap_cons, Bool.false_eq_true, List.nil_append]
        cases component? first <;> rfl

theorem component?_eq_none_iff {segment : String} :
    component? segment = none ↔ isBlank segment = true := by
  unfold component? isBlank
  split
  · simp_all
  · split <;> simp_all

theorem ne_of_component? {segment : String} {component : Component}
    (denoted : component? segment = some component) : component ≠ .root ∧ component ≠ .current := by
  unfold component? at denoted
  split at denoted
  · cases denoted
  · split at denoted <;> cases denoted <;> simp

theorem ne_of_mem_steps {path : Path} {component : Component} (member : component ∈ path.steps) :
    component ≠ .root ∧ component ≠ .current := by
  obtain ⟨segment, _, denoted⟩ := List.mem_filterMap.mp member
  exact ne_of_component? denoted

theorem eq_of_mem_start {path : Path} {component : Component} (member : component ∈ path.start) :
    component = .root ∨ component = .current := by
  unfold start at member
  split at member
  · exact Or.inl (List.mem_singleton.mp member)
  split at member
  · exact Or.inr (List.mem_singleton.mp member)
  · cases member

theorem isAbsolute_of_start {path : Path} (unstarted : path.start = []) : path.isAbsolute = false := by
  rw [start] at unstarted
  split at unstarted
  · cases unstarted
  · simpa using ‹¬ path.isAbsolute = true›

/-- A path of names has no start. -/
theorem start_eq_nil {path : Path}
    (named : ∀ component ∈ path.components, component.name?.isSome) : path.start = [] := by
  rw [List.eq_nil_iff_forall_not_mem]
  intro component member
  have own := named component (by simp [components_eq, member])
  rcases eq_of_mem_start member with rfl | rfl <;> cases own

theorem ne_of_mem_tail {path : Path} {component : Component} (member : component ∈ path.components.tail) :
    component ≠ .root ∧ component ≠ .current := by
  rw [components_eq] at member
  apply ne_of_mem_steps
  unfold start at member
  split at member
  · exact member
  split at member
  · exact member
  · exact List.mem_of_mem_tail member

theorem isAbsolute_iff {path : Path} :
    path.isAbsolute = true ↔ path.components.head? = some .root := by
  rw [components_eq, start]
  cases absolute : path.isAbsolute with
  | true => simp
  | false =>
    split
    · contradiction
    split
    · simp
    · refine iff_of_false (by simp) fun headed => ?_
      exact (ne_of_mem_steps (List.mem_of_head? headed)).1 rfl

theorem components_ne_nil {path : Path} (filled : path.text ≠ "") : path.components ≠ [] := by
  rw [components_eq]
  intro none
  obtain ⟨unstarted, unstepped⟩ := List.append_eq_nil_iff.mp none
  rw [start] at unstarted
  split at unstarted
  · cases unstarted
  split at unstarted
  · cases unstarted
  · rename_i relative undotted
    obtain ⟨first, rest, spelled⟩ := List.exists_cons_of_ne_nil (segments_ne_nil path)
    have begun := head?_segments (by simpa using relative) filled
    have blank : isBlank first = true := component?_eq_none_iff.mp <|
      List.filterMap_eq_nil_iff.mp unstepped first (by simp [spelled])
    simp_all [isBlank]

theorem components_eq_nil_iff {path : Path} : path.components = [] ↔ path.text = "" := by
  refine ⟨fun none => by_contra fun filled => components_ne_nil filled none, fun empty => ?_⟩
  rw [show path = ⟨""⟩ from congrArg Path.mk empty]
  rfl

theorem component?_of_mem {segment : String} {c : Char} (notDot : c ≠ '.')
    (member : c ∈ segment.toList) : component? segment = some (.normal segment) := by
  have filled : segment ≠ "" := by
    rintro rfl
    simp at member
  have undotted : segment ≠ "." := by
    rintro rfl
    simp [notDot] at member
  have notDots : segment ≠ ".." := by
    rintro rfl
    simp [notDot] at member
  simp [component?, filled, undotted, notDots]

theorem normal_mem_components_iff {path : Path} {name : String} :
    .normal name ∈ path.components ↔ name ∈ path.segments ∧ component? name = some (.normal name) := by
  have unstarted : Component.normal name ∉ path.start := by
    unfold start
    split
    · simp
    split <;> simp
  rw [components_eq, List.mem_append, or_iff_right unstarted, steps, List.mem_filterMap]
  constructor
  · rintro ⟨segment, member, denoted⟩
    obtain rfl : segment = name := by
      unfold component? at denoted
      split at denoted
      · cases denoted
      split at denoted <;> cases denoted
      rfl
    exact ⟨member, denoted⟩
  · rintro ⟨member, denoted⟩
    exact ⟨name, member, denoted⟩

/-- A character other than slashes and dots stands in one of the names of a path. -/
theorem mem_text_iff {path : Path} {c : Char} (notSlash : c ≠ '/') (notDot : c ≠ '.') :
    c ∈ path.text.toList ↔ ∃ name, .normal name ∈ path.components ∧ c ∈ name.toList := by
  have afterRoot : c ∈ path.text.toList ↔
      c ∈ if path.isAbsolute then path.text.toList.tail else path.text.toList := by
    split
    · rename_i absolute
      obtain ⟨rest, spelled⟩ := List.head?_eq_some_iff.mp (by simpa [isAbsolute] using absolute)
      simp [spelled, notSlash]
    · rfl
  rw [afterRoot, mem_iff_mem_splitOn notSlash]
  constructor
  · rintro ⟨characters, split, member⟩
    have segment : String.ofList characters ∈ path.segments := List.mem_map.mpr ⟨_, split, rfl⟩
    have denoted := component?_of_mem notDot (show c ∈ (String.ofList characters).toList by simpa)
    exact ⟨_, normal_mem_components_iff.mpr ⟨segment, denoted⟩, by simpa⟩
  · rintro ⟨name, known, member⟩
    obtain ⟨characters, split, rfl⟩ := List.mem_map.mp (normal_mem_components_iff.mp known).1
    exact ⟨characters, split, by simpa using member⟩

end Steps

section Join

theorem join_empty {base : Path} (empty : base.text = "") (child : Path) : base.join child = child := by
  cases child
  simp [join, empty]

/-- The text of a joined path goes on after a slash, which may be there already. -/
theorem exists_joined {base child : Path} (relative : child.isAbsolute = false)
    (filled : base.text ≠ "") :
    ∃ before, (base.text.toList = before ∨ base.text.toList = before ++ ['/']) ∧
      (base.join child).text.toList = before ++ '/' :: child.text.toList := by
  have unjoined : (base.text == "") = false := by simpa using filled
  rw [join]
  simp only [relative, unjoined, Bool.false_or, Bool.false_eq_true, if_false]
  by_cases slash : base.text.toList.getLast? = some '/'
  · obtain ⟨before, spelled⟩ := List.getLast?_eq_some_iff.mp slash
    exact ⟨before, Or.inr spelled, by simp [spelled]⟩
  · exact ⟨base.text.toList, Or.inl rfl, by simp [slash]⟩

/-- The text after the root slash, in which a path is split. -/
theorem segments_eq (path : Path) : path.segments =
    ((if path.isAbsolute then path.text.toList.tail else path.text.toList).splitOn '/').map
      String.ofList := rfl

theorem isAbsolute_join {base child : Path} (relative : child.isAbsolute = false)
    (filled : base.text ≠ "") : (base.join child).isAbsolute = base.isAbsolute := by
  obtain ⟨before, spelled, joined⟩ := exists_joined relative filled
  rw [isAbsolute, isAbsolute, joined]
  cases before with
  | nil =>
    rcases spelled with empty | slash
    · exact absurd (String.toList_eq_nil_iff.mp empty) filled
    · simp [slash]
  | cons c rest => rcases spelled with same | slash <;> simp [*]

/-- A joined path has the segments of both parts, up to empty ones. -/
theorem components_join {base child : Path} (relative : child.isAbsolute = false)
    (filled : base.text ≠ "") : (base.join child).components = base.components ++ child.steps := by
  have rooted := isAbsolute_join relative filled
  obtain ⟨before, spelled, joined⟩ := exists_joined relative filled
  rw [components_eq, components_eq, start, start, steps, steps, steps, segments_eq (base.join child),
    segments_eq base, segments_eq child, rooted, joined, relative]
  simp only [Bool.false_eq_true, if_false, List.head?_map, List.append_assoc]
  -- The part before the slash has the same steps with and without it.
  have parted : ∀ left : List Char,
      (((left ++ '/' :: child.text.toList).splitOn '/').map String.ofList).filterMap component? =
        ((left.splitOn '/').map String.ofList).filterMap component? ++
          ((child.text.toList.splitOn '/').map String.ofList).filterMap component? := by
    intro left
    rw [List.splitOn_append_cons_self, List.map_append, List.filterMap_append]
  have closed : ∀ left : List Char,
      (((left ++ ['/']).splitOn '/').map String.ofList).filterMap component? =
        ((left.splitOn '/').map String.ofList).filterMap component? := by
    intro left
    rw [List.splitOn_append_cons_self, List.map_append, List.filterMap_append]
    simp [component?]
  cases before with
  | nil =>
    rcases spelled with empty | slash
    · exact absurd (String.toList_eq_nil_iff.mp empty) filled
    · have absolute : base.isAbsolute = true := by simp [isAbsolute, slash]
      simp [absolute, slash, component?]
  | cons c rest =>
    cases base.isAbsolute with
    | true =>
      rcases spelled with same | slash
      · simp [same, parted]
      · simp [slash, parted, closed]
    | false =>
      rcases spelled with same | slash
      · simp only [same, Bool.false_eq_true, if_false, parted, head?_splitOn_append]
      · simp only [slash, Bool.false_eq_true, if_false, parted, closed, head?_splitOn_append]

/-- A path of names goes on from any other. -/
theorem components_join_of_names {child : Path}
    (named : ∀ component ∈ child.components, component.name?.isSome) (base : Path) :
    (base.join child).components = base.components ++ child.components := by
  by_cases empty : base.text = ""
  · rw [join_empty empty, components_eq_nil_iff.mpr empty, List.nil_append]
  · rw [components_join (isAbsolute_of_start (start_eq_nil named)) empty, components_eq child,
      start_eq_nil named, List.nil_append]

/-- A name that an entry of a directory can have. -/
structure IsName (name : String) : Prop where
  filled : name ≠ ""
  notDot : name ≠ "."
  notDots : name ≠ ".."
  slashFree : '/' ∉ name.toList

instance (name : String) : Decidable (IsName name) :=
  decidable_of_iff (name ≠ "" ∧ name ≠ "." ∧ name ≠ ".." ∧ '/' ∉ name.toList)
    ⟨fun named => ⟨named.1, named.2.1, named.2.2.1, named.2.2.2⟩,
      fun named => ⟨named.filled, named.notDot, named.notDots, named.slashFree⟩⟩

theorem isName_of_mem {path : Path} {name : String} (member : .normal name ∈ path.components) :
    IsName name := by
  obtain ⟨segment, denoted⟩ := normal_mem_components_iff.mp member
  refine ⟨?_, ?_, ?_, slashFree_segments path name segment⟩
  all_goals
    rintro rfl
    simp [component?] at denoted

theorem IsName.isAbsolute {name : String} (named : IsName name) : (Path.mk name).isAbsolute = false := by
  rw [Path.isAbsolute, beq_eq_false_iff_ne]
  exact fun slash => named.slashFree (List.mem_of_head? slash)

theorem IsName.segments {name : String} (named : IsName name) : (Path.mk name).segments = [name] := by
  rw [segments_eq, named.isAbsolute]
  simp [List.splitOn_eq_singleton named.slashFree]

theorem IsName.component? {name : String} (named : IsName name) :
    component? name = some (.normal name) := by
  simp [Path.component?, named.filled, named.notDot, named.notDots]

theorem IsName.steps {name : String} (named : IsName name) : (Path.mk name).steps = [.normal name] := by
  simp [Path.steps, named.segments, named.component?]

theorem IsName.components {name : String} (named : IsName name) :
    (Path.mk name).components = [.normal name] := by
  simp [components_eq, start, named.isAbsolute, named.segments, named.steps, named.notDot]

theorem components_join_name (base : Path) {name : String} (named : IsName name) :
    (base.join ⟨name⟩).components = base.components ++ [.normal name] := by
  by_cases empty : base.text = ""
  · rw [join_empty empty, named.components]
    cases base
    subst empty
    rfl
  · rw [components_join named.isAbsolute empty, named.steps]

end Join

section Shorten

theorem filterMap_dropWhile_isBlank (segments : List String) :
    (segments.dropWhile isBlank).filterMap component? = segments.filterMap component? := by
  induction segments with
  | nil => rfl
  | cons first rest ih =>
    by_cases blank : isBlank first = true
    · simp [blank, component?_eq_none_iff.mpr blank, ih]
    · simp [blank]

theorem filterMap_trimEnd (segments : List String) :
    (trimEnd segments).filterMap component? = segments.filterMap component? := by
  rw [trimEnd, List.filterMap_reverse, filterMap_dropWhile_isBlank, List.filterMap_reverse,
    List.reverse_reverse]

theorem trimEnd_isFirst (segments : List String) : trimEnd segments <+: segments := by
  rw [trimEnd, ← List.reverse_suffix, List.reverse_reverse]
  exact List.dropWhile_suffix isBlank

theorem filterMap_dropComponents (count : Nat) (segments : List String) :
    (dropComponents count segments).filterMap component? =
      (segments.filterMap component?).drop count := by
  induction segments generalizing count with
  | nil => cases count <;> simp [dropComponents]
  | cons first rest ih =>
    cases count with
    | zero => simp [dropComponents]
    | succ count =>
      rw [dropComponents]
      by_cases blank : isBlank first = true
      · simp [blank, ih, component?_eq_none_iff.mpr blank]
      · obtain ⟨component, denoted⟩ :=
          Option.ne_none_iff_exists'.mp (mt component?_eq_none_iff.mp blank)
        simp [blank, ih, denoted]

theorem dropComponents_suffix (count : Nat) (segments : List String) :
    dropComponents count segments <:+ segments := by
  induction segments generalizing count with
  | nil => cases count <;> simp [dropComponents]
  | cons first rest ih =>
    cases count with
    | zero => simp [dropComponents]
    | succ count =>
      rw [dropComponents]
      split <;> exact (ih _).trans (List.suffix_cons first rest)

/-- A path is put together again from segments of its own. -/
theorem components_rebuild {path : Path} {segments : List String} (free : SlashFree segments)
    (begun : path.isAbsolute = false → segments.head? ≠ some "") :
    (path.rebuild segments).components =
      (if path.isAbsolute then [.root] else if segments.head? = some "." then [.current] else []) ++
        segments.filterMap component? := by
  rw [rebuild]
  cases absolute : path.isAbsolute with
  | true =>
    have rooted : isAbsolute ⟨"/" ++ (ofSegments segments).text⟩ = true := by
      simp [isAbsolute, String.toList_append]
    simp only [if_true, components_eq, start, rooted, steps, segments_eq, String.toList_append]
    congr 1
    cases segments with
    | nil => rfl
    | cons first rest => simp [map_splitOn (List.cons_ne_nil first rest) free]
  | false =>
    simp only [Bool.false_eq_true, if_false]
    cases segments with
    | nil => rfl
    | cons first rest =>
      rw [components_eq, start, steps, isAbsolute_ofSegments free (begun absolute),
        segments_ofSegments (List.cons_ne_nil first rest) free (begun absolute)]
      rfl

/-- The leading dot of a relative path stands before the other segments. -/
theorem body_eq (path : Path) : path.body.1 ++ path.body.2 = path.segments ∧
    path.body.1 = if path.start = [.current] then ["."] else [] := by
  rw [body, start]
  split
  · rename_i rest spelled
    cases path.isAbsolute <;> simp [spelled]
  · rename_i segments other
    refine ⟨rfl, ?_⟩
    cases path.isAbsolute with
    | true => simp
    | false =>
      have notDot : path.segments.head? ≠ some "." := by
        intro dot
        obtain ⟨rest, spelled⟩ := List.head?_eq_some_iff.mp dot
        exact other rest spelled
      simp [notDot]

theorem filterMap_body (path : Path) : path.body.2.filterMap component? = path.steps := by
  obtain ⟨whole, lead⟩ := body_eq path
  rw [steps, ← whole, lead]
  split <;> simp [component?]

theorem slashFree_of_subset (path : Path) {segments : List String} (known : segments ⊆ path.segments) :
    SlashFree segments :=
  fun segment member => slashFree_segments path segment (known member)

/-- Putting a path together from its first segments keeps where it starts. -/
theorem components_rebuild_first {path : Path} {segments : List String}
    (filled : path.isAbsolute = false → path.text ≠ "") (first : segments <+: path.body.2) :
    (path.rebuild (path.body.1 ++ segments)).components =
      path.start ++ segments.filterMap component? := by
  obtain ⟨whole, lead⟩ := body_eq path
  have begins : path.body.1 ++ segments <+: path.segments := by
    rw [← whole]
    exact List.prefix_append_right_inj _ |>.mpr first
  have heads : ∀ segment, (path.body.1 ++ segments).head? = some segment →
      path.segments.head? = some segment := by
    intro segment headed
    obtain ⟨rest, spelled⟩ := begins
    rw [← spelled, List.head?_append, headed]
    rfl
  rw [components_rebuild (slashFree_of_subset path begins.subset), List.filterMap_append]
  · rw [← List.append_assoc]
    congr 1
    cases absolute : path.isAbsolute with
    | true => simp [lead, start, absolute]
    | false =>
      by_cases dot : path.segments.head? = some "."
      · simp [lead, start, absolute, dot, component?]
      · have unled : path.body.1 = [] := by simp [lead, start, absolute, dot]
        have notDot : segments.head? ≠ some "." := fun headed => dot (heads "." (by simpa [unled]))
        simp [unled, start, absolute, dot, notDot]
  · intro relative headed
    exact head?_segments relative (filled relative) (heads "" headed)

theorem components_trimmed (path : Path) : path.trimmed.components = path.components := by
  by_cases empty : path.text = ""
  · cases path
    subst empty
    rfl
  · rw [components_eq path, ← filterMap_body, ← filterMap_trimEnd]
    exact components_rebuild_first (fun _ => empty) (trimEnd_isFirst _)

/-- The path above a path names the place that all its components but the last lead to. -/
theorem components_parent? {path parent : Path} (above : path.parent? = some parent) :
    parent.components = path.components.dropLast := by
  have steps := filterMap_body path
  rw [← filterMap_trimEnd] at steps
  rw [components_eq path]
  simp only [parent?] at above
  split at above
  · rename_i none
    have empty : trimEnd path.body.2 = [] := by simpa using none
    obtain ⟨_, lead⟩ := body_eq path
    split at above
    · cases above
    · rename_i led
      cases above
      have dot : path.start = [.current] := by
        by_contra other
        simp [lead, other] at led
      simp [dot, ← steps, empty]
      rfl
  · rename_i last earlier spelled
    cases above
    have split : trimEnd path.body.2 = earlier.reverse ++ [last] := by
      simpa using congrArg List.reverse spelled
    have nonblank : isBlank last = false := by
      have found : path.body.2.reverse.dropWhile isBlank = last :: earlier := by
        simpa [trimEnd] using spelled
      have kept := List.head?_dropWhile_not isBlank path.body.2.reverse
      rw [found] at kept
      simpa using kept
    have denotes : component? last ≠ none := fun none => by simp [component?_eq_none_iff.mp none] at nonblank
    obtain ⟨component, denoted⟩ := Option.ne_none_iff_exists'.mp denotes
    have filled : path.isAbsolute = false → path.text ≠ "" := by
      rintro _ empty
      rw [← steps, split] at steps
      cases path
      subst empty
      simp [body, segments, isAbsolute, trimEnd, isBlank] at split
    have first : trimEnd earlier.reverse <+: path.body.2 :=
      (trimEnd_isFirst _).trans ((List.prefix_append earlier.reverse [last]).trans
        (split ▸ trimEnd_isFirst path.body.2))
    rw [components_rebuild_first filled first, filterMap_trimEnd, ← steps, split,
      List.filterMap_append, ← List.append_assoc]
    simp [denoted]

theorem components_ofSegments {segments : List String} (free : SlashFree segments)
    (nonblank : ∀ first, segments.head? = some first → isBlank first = false) :
    (ofSegments segments).components = segments.filterMap component? := by
  have filled : segments.head? ≠ some "" := fun headed => absurd (nonblank "" headed) (by decide)
  have undotted : segments.head? ≠ some "." := fun headed => absurd (nonblank "." headed) (by decide)
  cases segments with
  | nil => rfl
  | cons first rest =>
    rw [components_eq, start, steps, isAbsolute_ofSegments free filled,
      segments_ofSegments (List.cons_ne_nil first rest) free filled]
    simp only [Bool.false_eq_true, if_false, undotted, List.nil_append]

theorem isBlank_head?_trimEnd {segments : List String} {first : String}
    (headed : (trimEnd (segments.dropWhile isBlank)).head? = some first) : isBlank first = false := by
  obtain ⟨rest, spelled⟩ := trimEnd_isFirst (segments.dropWhile isBlank)
  have kept := List.head?_dropWhile_not isBlank segments
  rw [← spelled, List.head?_append, headed] at kept
  simpa using kept

theorem length_start (path : Path) :
    path.start.length = if path.isAbsolute then 1 else path.body.1.length := by
  rw [(body_eq path).2, start]
  cases path.isAbsolute with
  | true => rfl
  | false => by_cases dot : path.segments.head? = some "." <;> simp [dot]

/-- What is left of a path below a base names the place that its further components lead to. -/
theorem components_stripPrefix? {path base rest : Path}
    (stripped : path.stripPrefix? base = some rest) :
    path.components = base.components ++ rest.components := by
  simp only [stripPrefix?] at stripped
  split at stripped
  · cases stripped
  rename_i begins
  have begun : base.components <+: path.components := by simpa using begins
  split at stripped
  · rename_i empty
    cases stripped
    rw [components_trimmed, List.isEmpty_iff.mp empty]
    rfl
  · rename_i some
    cases stripped
    obtain ⟨others, whole⟩ := begun
    have started : path.start.length ≤ base.components.length := by
      have long : 0 < base.components.length := List.length_pos_iff.mpr (by simpa using some)
      have short : path.start.length ≤ 1 := by
        rw [start]
        split
        · simp
        · split <;> simp
      omega
    have free : SlashFree (trimEnd ((dropComponents (base.components.length -
        (if path.isAbsolute = true then 1 else path.body.1.length)) path.body.2).dropWhile isBlank)) := by
      apply slashFree_of_subset path
      rw [← (body_eq path).1]
      exact List.Subset.trans
        (List.Subset.trans (trimEnd_isFirst _).subset (List.dropWhile_subset isBlank))
        (List.Subset.trans (dropComponents_suffix _ _).subset (List.subset_append_right ..))
    rw [components_ofSegments free fun first headed => isBlank_head?_trimEnd headed,
      filterMap_trimEnd, filterMap_dropWhile_isBlank, filterMap_dropComponents, filterMap_body,
      ← length_start, ← whole]
    congr 1
    have dropped := congrArg (List.drop base.components.length) whole
    rw [List.drop_left, components_eq path, List.drop_append, List.drop_eq_nil_of_le started] at dropped
    exact dropped

theorem stripPrefix?_isSome {path base : Path} :
    (path.stripPrefix? base).isSome = true ↔ base.components <+: path.components := by
  rw [← List.isPrefixOf_iff_prefix]
  simp only [stripPrefix?]
  split
  · simp_all
  · split <;> simp_all

end Shorten

end TermBind.Path
