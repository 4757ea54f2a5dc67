import TermBind.Command
import TermBind.Proofs.Discovery.Inputs
import TermBind.Proofs.Workspace.Accounting
import TermBind.Proofs.Workspace.Faults
import TermBind.Proofs.Workspace.Opening

/-! How often a file is found. A walk comes to each file once. The directories of schema documents are
searched one by one, so a document is found once for every directory that leads to it. -/
namespace TermBind

namespace Discovery

open File TermBind.Path

section Walk

variable {skip path : Path} {tree : Tree}

theorem walkedAll_eq_flatMap (skip path : Path) (entries : List (String × Tree)) :
    walked.walkedAll skip path entries =
      entries.flatMap fun entry => walked skip (path.join ⟨entry.1⟩) entry.2 := by
  induction entries with
  | nil => rfl
  | cons entry rest ih => rw [walked.walkedAll, ih, List.flatMap_cons]

/-- What a walk finds is spelled below its root. -/
theorem components_of_mem_walked (formed : tree.WellFormed) {file : Path × ByteArray}
    (member : file ∈ walked skip path tree) : path.components <+: file.1.components := by
  obtain ⟨names, spelled, stored, _⟩ := (mem_walked_iff formed).mp member
  rw [spelled, components_below path fun name known => ((formed.at? stored).2 name known).toIsName]
  exact List.prefix_append _ _

/-- A walk comes to no path twice. -/
theorem nodup_walked (formed : tree.WellFormed) (skip path : Path) :
    ((walked skip path tree).map fun file => file.1.components).Nodup := by
  induction formed generalizing path with
  | file content =>
    rw [walked]
    split <;> simp
  | directory entries ascending named inner ih =>
    rw [walked]
    split
    · exact .nil
    rw [walkedAll_eq_flatMap, List.map_flatMap, List.nodup_flatMap]
    refine ⟨fun entry member => ih entry member _, ?_⟩
    -- The names of the entries differ, and each stands in the paths that are found in its entry.
    refine ascending.imp_of_mem fun {left right} member member' before => ?_
    intro components found found'
    obtain ⟨file, known, rfl⟩ := List.mem_map.mp found
    obtain ⟨file', known', same⟩ := List.mem_map.mp found'
    have begins := components_of_mem_walked (inner _ member) known
    have begins' := components_of_mem_walked (inner _ member') known'
    rw [components_join_name path (named _ member).toIsName] at begins
    rw [components_join_name path (named _ member').toIsName, same] at begins'
    have level := List.prefix_of_prefix_length_le begins begins' (by simp)
    rw [List.prefix_append_right_inj, List.cons_prefix_cons, Component.normal.injEq] at level
    rw [level.1] at before
    simp at before

end Walk

section Search

variable {disk : Disk} {config : Config} {files : ProjectFiles}

/-- Where the paths by which files are handed on lead. -/
def placesOf (disk : Disk) (config : Config) (found : List (Path × String)) : List (Option Place) :=
  found.map fun file => disk.locate? (config.resolve file.1)

theorem placesOf_append (left right : List (Path × String)) :
    placesOf disk config (left ++ right) = placesOf disk config left ++ placesOf disk config right :=
  List.map_append

theorem map_fst_of_texts {found : List (Path × ByteArray)} {read : List (Path × String)}
    (known : texts config found = .ok read) :
    read.map Prod.fst = found.map fun file => relative config file.1 := by
  induction found generalizing read with
  | nil =>
    cases known
    rfl
  | cons file rest ih =>
    rw [texts] at known
    split at known
    · cases others : texts config rest with
      | error problem =>
        rw [others] at known
        cases known
      | ok later =>
        rw [others] at known
        cases known
        rw [List.map_cons, List.map_cons, ih others]
    · cases known

/-- A file that is found below a directory is handed on by a path to its place. -/
theorem locate_of_mem_filesAt (formed : disk.tree.WellFormed) {directory : Path}
    {file : Path × ByteArray} (member : file ∈ filesAt disk config directory) :
    ∃ root names, disk.locate (config.resolve directory) = .ok root ∧
      disk.locate (config.resolve (relative config file.1)) = .ok (root ++ names) ∧
      disk.tree.at? (root ++ names) = some (.file file.2) ∧
      file.1.components = (config.resolve directory).components ++ names.map .normal := by
  obtain ⟨root, names, located, _, spelled, stored, _⟩ := (mem_filesAt_iff config formed).mp member
  have named : ∀ name ∈ names, IsEntryName name := fun name known =>
    (formed.at? stored).2 name (List.mem_append_right _ known)
  have components := components_below (config.resolve directory) fun name known =>
    (named name known).toIsName
  rw [← spelled] at components
  refine ⟨root, names, located, ?_, stored, components⟩
  rw [Disk.locate_congr (components_resolve_relative components), spelled]
  exact Disk.locate_below located stored named

/-- No file is collected twice from one directory. -/
theorem nodup_collected (formed : disk.tree.WellFormed) {wanted : Path → Bool} {directory : Path}
    {found : List (Path × String)} (known : collected disk config wanted directory = .ok found) :
    (placesOf disk config found).Nodup := by
  let wantedFiles := (filesAt disk config directory).filter fun file => wanted file.1
  have places : placesOf disk config found =
      wantedFiles.map fun file => disk.locate? (config.resolve (relative config file.1)) := by
    have handed := congrArg (List.map fun path => disk.locate? (config.resolve path))
      (map_fst_of_texts known)
    rwa [List.map_map, List.map_map] at handed
  have spelled : (wantedFiles.map fun file => file.1.components).Nodup := by
    refine List.Nodup.sublist (List.filter_sublist.map _) ?_
    rw [filesAt]
    rcases there : disk.node? (config.resolve directory) with _ | _ | entries
    · exact .nil
    · exact .nil
    · obtain ⟨place, _, here⟩ := Disk.node?_eq_directory_iff.mp there
      exact nodup_walked (formed.at? here).1 _ _
  -- From one directory, files at one place are found by one path.
  rw [places, List.Nodup, List.pairwise_map]
  refine (List.pairwise_map.mp spelled).imp_of_mem fun {left right} member member' different same => ?_
  obtain ⟨root, names, located, place, _, components⟩ :=
    locate_of_mem_filesAt formed (List.mem_filter.mp member).1
  obtain ⟨root', names', located', place', _, components'⟩ :=
    locate_of_mem_filesAt formed (List.mem_filter.mp member').1
  obtain rfl : root = root' := Except.ok.inj (located.symm.trans located')
  rw [Disk.locate?_eq_some_iff.mpr place, Disk.locate?_eq_some_iff.mpr place', Option.some.injEq,
    List.append_cancel_left_eq] at same
  exact different (by rw [components, components', same])

/-- Whatever was collected is a file at a place. -/
theorem exists_place_of_collected (formed : disk.tree.WellFormed) {wanted : Path → Bool}
    {directory : Path} {found : List (Path × String)}
    (known : collected disk config wanted directory = .ok found) {entry : Path × String}
    (member : entry ∈ found) : ∃ place content, disk.locate (config.resolve entry.1) = .ok place ∧
      disk.tree.at? place = some (.file content) := by
  obtain ⟨file, here, _, spelled, _⟩ := (mem_collected_iff known).mp member
  obtain ⟨root, names, _, located, stored, _⟩ := locate_of_mem_filesAt formed here
  exact ⟨root ++ names, file.2, by rw [spelled]; exact located, stored⟩

/-- Searches for schema documents in two directories come to one file. -/
def Overlap (disk : Disk) (config : Config) (left right : Path) : Prop :=
  ∃ place content, disk.tree.at? place = some (.file content) ∧
    (Search.mk (isSchema config) left).ComesTo disk config place ∧
    (Search.mk (isSchema config) right).ComesTo disk config place

theorem mem_placesOf {found : List (Path × String)} {entry : Path × String} (member : entry ∈ found)
    {place : Place} (located : disk.locate (config.resolve entry.1) = .ok place) :
    some place ∈ placesOf disk config found :=
  List.mem_map.mpr ⟨entry, member, Disk.locate?_eq_some_iff.mpr located⟩

/-- What one directory yields is not among what others yield just if none of them overlaps with it. -/
theorem disjoint_collected_iff (formed : disk.tree.WellFormed) {directory : Path} {rest : List Path}
    {own later : List (Path × String)}
    (known : collected disk config (isSchema config) directory = .ok own)
    (others : collectedAll disk config (isSchema config) rest = .ok later) :
    (∀ left ∈ placesOf disk config own, ∀ right ∈ placesOf disk config later, left ≠ right) ↔
      ∀ other ∈ rest, ¬ Overlap disk config directory other := by
  obtain ⟨each, members⟩ := mem_collectedAll_iff others
  constructor
  · rintro apart other listed ⟨place, content, stored, comes, comes'⟩
    obtain ⟨part, known'⟩ := each other listed
    obtain ⟨entry, member, located⟩ := (Search.comesTo_iff formed known stored).mpr comes
    obtain ⟨entry', member', located'⟩ := (Search.comesTo_iff formed known' stored).mpr comes'
    have member'' := (members entry').mpr ⟨other, listed, part, known', member'⟩
    exact apart _ (mem_placesOf member located) _ (mem_placesOf member'' located') rfl
  · rintro separate left found right found' rfl
    obtain ⟨entry, member, located⟩ := List.mem_map.mp found
    obtain ⟨entry', member', located'⟩ := List.mem_map.mp found'
    obtain ⟨other, listed, part, known', member''⟩ := (members entry').mp member'
    obtain ⟨place, content, leads, stored⟩ := exists_place_of_collected formed known member
    rw [Disk.locate?_eq_some_iff.mpr leads] at located
    subst located
    have leads' := Disk.locate?_eq_some_iff.mp located'
    exact separate other listed ⟨place, content, stored,
      (Search.comesTo_iff formed known stored).mp ⟨entry, member, leads⟩,
      (Search.comesTo_iff formed known' stored).mp ⟨entry', member'', leads'⟩⟩

/-- Directories that are searched one by one yield no file twice just if no two of them lead to one
file. -/
theorem nodup_collectedAll_iff (formed : disk.tree.WellFormed) {directories : List Path}
    {found : List (Path × String)}
    (known : collectedAll disk config (isSchema config) directories = .ok found) :
    (placesOf disk config found).Nodup ↔
      directories.Pairwise fun left right => ¬ Overlap disk config left right := by
  induction directories generalizing found with
  | nil =>
    cases known
    simp [placesOf]
  | cons directory rest ih =>
    rw [collectedAll] at known
    cases first : collected disk config (isSchema config) directory with
    | error problem =>
      rw [first] at known
      cases known
    | ok own =>
      rw [first] at known
      cases others : collectedAll disk config (isSchema config) rest with
      | error problem =>
        rw [others] at known
        cases known
      | ok later =>
        rw [others] at known
        cases known
        have once := nodup_collected formed first
        have apart := disjoint_collected_iff formed first others
        rw [placesOf_append, List.nodup_append, List.pairwise_cons, ih others, apart]
        constructor
        · intro whole
          exact ⟨whole.2.2, whole.2.1⟩
        · intro parts
          exact ⟨once, parts.2, parts.1⟩

end Search

end Discovery

namespace Workspace.Contents

variable {contents : Contents}

theorem code_of_mem_loadProblems [Wording] {diagnostic : Diagnostic}
    (member : diagnostic ∈ contents.loadProblems) : diagnostic.code = .schemaParseError := by
  obtain ⟨key, _, faulty⟩ := List.mem_flatMap.mp member
  unfold faults at faulty
  split at faulty
  · rw [eq_of_mem_documentOf faulty]
    rfl
  · cases faulty

/-- A key that is reported as duplicate has several files, and their paths are told. -/
theorem exists_providers_of_duplicate [Wording] {diagnostic : Diagnostic}
    (member : diagnostic ∈ contents.output.diagnostics)
    (duplicate : diagnostic.code = .duplicateSchemaKey) :
    ∃ key first second rest, contents.providers key = first :: second :: rest ∧
      diagnostic.arguments = [key, ", ".intercalate
        ((Collection.sortOn id ((contents.providers key).map Prod.fst)).map Path.text)] := by
  rw [output_eq] at member
  obtain ⟨unset, listed, rfl⟩ := List.mem_map.mp ((Collection.sortOn_perm ..).mem_iff.mp member)
  replace duplicate : unset.code = .duplicateSchemaKey := duplicate
  rcases List.mem_append.mp listed with before | contest
  · rcases List.mem_append.mp before with given | failure
    · rcases List.mem_append.mp given with key | load
      · obtain ⟨key, known, clash⟩ := List.mem_filterMap.mp key
        have provided := (mem_keys contents).mp known
        refine ⟨key, ?_⟩
        generalize contents.providers key = files at clash provided
        rcases files with _ | ⟨first, _ | ⟨second, rest⟩⟩
        · exact absurd rfl provided
        · cases clash
        · cases clash
          exact ⟨first, second, rest, rfl, rfl⟩
      · rw [code_of_mem_loadProblems load] at duplicate
        cases duplicate
    · obtain ⟨outcome, produced, reported⟩ := List.mem_flatMap.mp failure
      obtain ⟨file, _, produced⟩ := List.mem_flatMap.mp produced
      have known := code_outcomesOf contents file outcome produced unset reported
      rw [duplicate] at known
      exact absurd known (by decide)
  · obtain ⟨⟨name, rivals⟩, _, reported⟩ := List.mem_flatMap.mp contest
    rw [Output.contested_eq_ite] at reported
    split at reported
    · cases reported
    · obtain ⟨product, _, rfl⟩ := List.mem_map.mp reported
      cases duplicate

end Workspace.Contents

namespace Discovery

open File Workspace

section Report

variable {disk : Disk} {config : Config} {files : ProjectFiles}

/-- A diagnostic tells a key and schema documents that have it, two of them at different places. -/
def NamesSeveral (disk : Disk) (config : Config) (files : ProjectFiles) (diagnostic : Diagnostic) :
    Prop :=
  ∃ key, ∃ named : List Path,
    diagnostic.arguments = [key, ", ".intercalate (named.map Path.text)] ∧
    (∀ path ∈ named, path ∈ files.schemas.map Prod.fst ∧
      keyOf? config.schema.extension path = some key) ∧
    ∃ first ∈ named, ∃ second ∈ named,
      disk.locate? (config.resolve first) ≠ disk.locate? (config.resolve second)

/-- Where no document was found twice, a duplicate key has documents at different places. -/
theorem namesSeveral_of_nodup [Wording] (once : (placesOf disk config files.schemas).Nodup)
    {diagnostic : Diagnostic} (member : diagnostic ∈ (Command.outputOf config files).diagnostics)
    (duplicate : diagnostic.code = .duplicateSchemaKey) :
    NamesSeveral disk config files diagnostic := by
  let contents : Contents := { config, sources := files.sources, schemas := files.schemas }
  rw [Command.outputOf, Session.pipeline_ofFiles] at member
  obtain ⟨key, first, second, rest, provided, told⟩ :=
    Contents.exists_providers_of_duplicate member duplicate
  have listed : (contents.providers key).Sublist files.schemas := List.filter_sublist
  have mem_named : ∀ {path}, path ∈ Collection.sortOn id ((contents.providers key).map Prod.fst) ↔
      path ∈ (contents.providers key).map Prod.fst := (Collection.sortOn_perm ..).mem_iff
  refine ⟨key, _, told, fun path named => ?_, first.1, mem_named.mpr ?_, second.1,
    mem_named.mpr ?_, ?_⟩
  · obtain ⟨file, known, rfl⟩ := List.mem_map.mp (mem_named.mp named)
    exact ⟨List.mem_map_of_mem (listed.subset known), by simpa using (List.mem_filter.mp known).2⟩
  · simp [contents, provided]
  · simp [contents, provided]
  · have apart := once.sublist (listed.map _)
    rw [show contents.providers key = _ from provided] at apart
    exact (List.pairwise_cons.mp apart).1 _ (by simp)

/-- No source file is found twice. No schema document is either, just if no two of the directories in
the settings lead to one document, and then a duplicate key is reported with different documents. -/
theorem nodup_discovered_iff [Wording] (formed : disk.tree.WellFormed) {after : Disk}
    (found : (discover Disk.host config).run.run disk = (.ok files, after)) :
    (placesOf disk config files.sources).Nodup ∧
      ((placesOf disk config files.schemas).Nodup ↔
        config.schema.directories.Pairwise fun left right => ¬ Overlap disk config left right) ∧
      ((config.schema.directories.Pairwise fun left right => ¬ Overlap disk config left right) →
        ∀ diagnostic ∈ (Command.outputOf config files).diagnostics,
          diagnostic.code = .duplicateSchemaKey → NamesSeveral disk config files diagnostic) := by
  rw [run_discover config formed, Prod.mk.injEq] at found
  obtain ⟨sources, schemas⟩ := collected_of_discovered found.1
  have once := nodup_collectedAll_iff formed schemas
  exact ⟨nodup_collected formed sources, once, fun separate _ member duplicate =>
    namesSeveral_of_nodup (once.mpr separate) member duplicate⟩

end Report

/-- Two directories that both have a document named `a.ttl`. -/
def pairDisk : Disk where
  tree := .directory
    [("left", .directory [("a.ttl", .file "".toUTF8)]),
      ("right", .directory [("a.ttl", .file "".toUTF8)])]

def pairConfig : Config := { schema := { directories := [⟨"left"⟩, ⟨"right"⟩] } }

def pairFiles : ProjectFiles := { schemas := [(⟨"left/a.ttl"⟩, ""), (⟨"right/a.ttl"⟩, "")] }

section

open scoped Wording

theorem nodup_pairFiles : pairDisk.tree.WellFormed ∧
    (discover Disk.host pairConfig).run.run pairDisk = (.ok pairFiles, pairDisk) ∧
    (placesOf pairDisk pairConfig pairFiles.schemas).Nodup ∧
    (pairConfig.schema.directories.Pairwise fun left right => ¬ Overlap pairDisk pairConfig left right) ∧
    ∃ diagnostic ∈ (Command.outputOf pairConfig pairFiles).diagnostics,
      diagnostic.code = .duplicateSchemaKey ∧ NamesSeveral pairDisk pairConfig pairFiles diagnostic := by
  have formed : pairDisk.tree.WellFormed := Tree.wellFormed_of_isWellFormed (by decide +kernel)
  have found : (discover Disk.host pairConfig).run.run pairDisk = (.ok pairFiles, pairDisk) := by
    rw [run_discover _ formed]
    rfl
  have once : (placesOf pairDisk pairConfig pairFiles.schemas).Nodup := by decide +kernel
  obtain ⟨_, separate, several⟩ := nodup_discovered_iff formed found
  have duplicate : ∃ diagnostic ∈ (Command.outputOf pairConfig pairFiles).diagnostics,
      diagnostic.code = .duplicateSchemaKey := by decide +kernel
  obtain ⟨diagnostic, member, known⟩ := duplicate
  exact ⟨formed, found, once, separate.mp once, diagnostic, member, known,
    several (separate.mp once) diagnostic member known⟩

/-- A directory of documents with another below it. -/
def nestedDisk : Disk where
  tree := .directory [("schemas", .directory [("core", .directory [("a.ttl", .file "".toUTF8)])])]

def nestedConfig : Config := { schema := { directories := [⟨"schemas"⟩, ⟨"schemas/core"⟩] } }

def nestedFiles : ProjectFiles :=
  { schemas := [(⟨"schemas/core/a.ttl"⟩, ""), (⟨"schemas/core/a.ttl"⟩, "")] }

/-- Where both directories are searched, the one document is found twice, and reported as its own
duplicate. -/
theorem twice_nestedFiles : nestedDisk.tree.WellFormed ∧
    (discover Disk.host nestedConfig).run.run nestedDisk = (.ok nestedFiles, nestedDisk) ∧
    ¬ (placesOf nestedDisk nestedConfig nestedFiles.schemas).Nodup ∧
    ∃ diagnostic ∈ (Command.outputOf nestedConfig nestedFiles).diagnostics,
      diagnostic.code = .duplicateSchemaKey ∧
      diagnostic.arguments = ["a.ttl", "schemas/core/a.ttl, schemas/core/a.ttl"] ∧
      ¬ NamesSeveral nestedDisk nestedConfig nestedFiles diagnostic := by
  have formed : nestedDisk.tree.WellFormed := Tree.wellFormed_of_isWellFormed (by decide +kernel)
  have duplicate : ∃ diagnostic ∈ (Command.outputOf nestedConfig nestedFiles).diagnostics,
      diagnostic.code = .duplicateSchemaKey := by decide +kernel
  obtain ⟨diagnostic, member, code⟩ := duplicate
  have told : diagnostic.arguments = ["a.ttl", "schemas/core/a.ttl, schemas/core/a.ttl"] := by
    rw [Command.outputOf, Session.pipeline_ofFiles] at member
    obtain ⟨key, first, second, rest, provided, told⟩ :=
      Contents.exists_providers_of_duplicate member code
    obtain ⟨listed, known⟩ := List.mem_filter.mp
      (show first ∈ _ from provided ▸ List.mem_cons_self)
    obtain rfl : first = (⟨"schemas/core/a.ttl"⟩, "") := by simpa [nestedFiles] using listed
    have keyed : keyOf? nestedConfig.schema.extension ⟨"schemas/core/a.ttl"⟩ = some "a.ttl" := by
      decide +kernel
    obtain rfl : "a.ttl" = key := Option.some.inj (keyed.symm.trans (eq_of_beq known))
    rw [told, ← Collection.eq_of_perm_of_alike (Collection.sortOn_perm ..).symm (by decide +kernel)]
    rfl
  refine ⟨formed, ?_, by decide +kernel, diagnostic, member, code, told, ?_⟩
  · rw [run_discover _ formed]
    rfl
  · rintro ⟨_, named, _, known, first, member, second, member', apart⟩
    have listed := (known first member).1
    have listed' := (known second member').1
    simp only [nestedFiles, List.map_cons, List.map_nil, List.mem_cons, List.not_mem_nil, or_false,
      or_self] at listed listed'
    exact apart (by rw [listed, listed'])

end

end Discovery
end TermBind
