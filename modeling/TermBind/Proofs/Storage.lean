import TermBind.DirectorySink
import TermBind.Output
import TermBind.Proofs.File.Run
import TermBind.Proofs.File.Writing

/-! Storing sources on a disk. A source is settled once it was stored or refused: storing it again leaves
the disk as it is, also after others were stored. -/
namespace TermBind.DirectorySink

open File

/-- What comes of storing a source: its file holds it already, or the directory cannot be made, or the
file cannot be written, or it is written. -/
inductive Storage where
  | held
  | unmade
  | refused
  | written
deriving DecidableEq, Repr

namespace Storage

def isStored : Storage → Bool
  | .held | .written => true
  | .unmade | .refused => false

/-- What comes of storing a source again. -/
def again : Storage → Storage
  | .written => .held
  | other => other

theorem isStored_again (storage : Storage) : storage.again.isStored = storage.isStored := by
  cases storage <;> rfl

end Storage

/-- Store a source, given by its name and text, in a directory of a disk. -/
def stored (root : Path) (source : String × String) (disk : Disk) : Storage × Disk :=
  if (disk.read? (root.join ⟨source.1⟩)).bind String.fromUTF8? = some source.2 then (.held, disk)
  else
    match disk.createDirectories root with
    | (made, false) => (.unmade, made)
    | (made, true) =>
      match made.write? (root.join ⟨source.1⟩) source.2.toUTF8 with
      | some after => (.written, after)
      | none => (.refused, made)

/-- What comes of storing a source, by what the disk has and takes. -/
inductive Stores (root : Path) (source : String × String) (disk : Disk) : Storage → Disk → Prop where
  | held (read : disk.read? (root.join ⟨source.1⟩) = some source.2.toUTF8) :
      Stores root source disk .held disk
  | unmade {made : Disk} (stale : disk.read? (root.join ⟨source.1⟩) ≠ some source.2.toUTF8)
      (failed : disk.createDirectories root = (made, false)) : Stores root source disk .unmade made
  | refused {made : Disk} (stale : disk.read? (root.join ⟨source.1⟩) ≠ some source.2.toUTF8)
      (created : disk.createDirectories root = (made, true))
      (blocked : made.write? (root.join ⟨source.1⟩) source.2.toUTF8 = none) :
      Stores root source disk .refused made
  | written {made after : Disk} (stale : disk.read? (root.join ⟨source.1⟩) ≠ some source.2.toUTF8)
      (created : disk.createDirectories root = (made, true))
      (done : made.write? (root.join ⟨source.1⟩) source.2.toUTF8 = some after) :
      Stores root source disk .written after

theorem fromUTF8?_eq_some_iff {bytes : ByteArray} {text : String} :
    String.fromUTF8? bytes = some text ↔ bytes = text.toUTF8 := by
  rw [String.fromUTF8?]
  constructor
  · intro decoded
    split at decoded
    · cases decoded
      rfl
    · cases decoded
  · rintro rfl
    rw [dif_pos (show text.toUTF8.IsValidUTF8 from text.isValidUTF8)]
    rfl

variable {root : Path} {source other : String × String} {disk after : Disk} {storage storage' : Storage}

theorem holds_iff : (disk.read? (root.join ⟨source.1⟩)).bind String.fromUTF8? = some source.2 ↔
    disk.read? (root.join ⟨source.1⟩) = some source.2.toUTF8 := by
  simp [Option.bind_eq_some_iff, fromUTF8?_eq_some_iff]

theorem stores_iff : Stores root source disk storage after ↔ stored root source disk = (storage, after) := by
  constructor
  · intro stores
    cases stores with
    | held read => rw [stored, if_pos (holds_iff.mpr read)]
    | unmade stale failed => rw [stored, if_neg (mt holds_iff.mp stale), failed]
    | refused stale created blocked =>
      rw [stored, if_neg (mt holds_iff.mp stale), created]
      dsimp only
      rw [blocked]
    | written stale created done =>
      rw [stored, if_neg (mt holds_iff.mp stale), created]
      dsimp only
      rw [done]
  · intro result
    rw [stored] at result
    split at result
    · cases result
      exact .held (holds_iff.mp ‹_›)
    · rename_i stale
      have stale := mt holds_iff.mpr stale
      split at result
      · cases result
        exact .unmade stale ‹_›
      · split at result
        · cases result
          exact .written stale ‹_› ‹_›
        · cases result
          exact .refused stale ‹_› ‹_›

theorem stores_stored (root : Path) (source : String × String) (disk : Disk) :
    Stores root source disk (stored root source disk).1 (stored root source disk).2 :=
  stores_iff.mpr rfl

/-- A file of another name is read as before. -/
theorem read?_of_write_other (named : Path.IsName source.1) (named' : Path.IsName other.1)
    (different : other.1 ≠ source.1) {bytes bytes' : ByteArray}
    (done : disk.write? (root.join ⟨other.1⟩) bytes' = some after) :
    after.read? (root.join ⟨source.1⟩) = some bytes ↔
      disk.read? (root.join ⟨source.1⟩) = some bytes := by
  obtain ⟨_, target, located', notDirectory, put, _⟩ := Disk.exists_write done
  have apart : ∀ place, disk.locate (root.join ⟨source.1⟩) = .ok place → place ≠ target := by
    rintro place located rfl
    obtain ⟨above, _, rfl⟩ := Disk.exists_above named located
    obtain ⟨above', _, same⟩ := Disk.exists_above named' located'
    exact different (List.concat_inj.mp (by simpa using same)).2.symm
  rw [Disk.read?_eq_some_iff, Disk.read?_eq_some_iff]
  refine and_congr_right fun _ => exists_congr fun place => ?_
  rw [Disk.locate_of_write done]
  exact and_congr_right fun located => Tree.at?_written_file_iff put notDirectory (apart place located)

section Settled

variable (filled : root.text ≠ "") (named : Path.IsName source.1)
include filled named

/-- A file in the directory is where the directory is. -/
theorem isDirectory_of_locate {place : Place} (located : disk.locate (root.join ⟨source.1⟩) = .ok place) :
    disk.isDirectory root = true := by
  obtain ⟨above, located, here, _⟩ := (Disk.locate_join_iff filled named).mp located
  exact Disk.isDirectory_iff.mpr ⟨above, located, here⟩

theorem createDirectories_of_read {bytes : ByteArray}
    (read : disk.read? (root.join ⟨source.1⟩) = some bytes) :
    disk.createDirectories root = (disk, true) := by
  obtain ⟨_, place, located, _⟩ := Disk.read?_eq_some_iff.mp read
  exact Disk.createDirectories_of_isDirectory (isDirectory_of_locate filled named located)

/-- Storing a source a second time leaves the disk as it is. -/
theorem Stores.settled (stores : Stores root source disk storage after) :
    Stores root source after storage.again after := by
  cases stores with
  | held read => exact .held read
  | unmade _ failed =>
    have again := Disk.createDirectories_again failed
    refine .unmade (fun read => ?_) again
    have created := createDirectories_of_read filled named read
    simp [created] at again
  | refused _ created blocked =>
    refine .refused (fun read => ?_) (Disk.createDirectories_again created) blocked
    obtain ⟨fits, place, located, here⟩ := Disk.read?_eq_some_iff.mp read
    have writable : (after.write? (root.join ⟨source.1⟩) source.2.toUTF8).isSome := by
      refine Disk.write?_isSome located fits ?_
      rintro ⟨entries, here'⟩
      simp [here] at here'
    rw [blocked] at writable
    cases writable
  | written _ _ done => exact .held (Disk.read?_of_write done)

/-- Making the directory of a settled source changes nothing. -/
theorem Stores.made_eq (settled : Stores root source disk storage disk) {made : Disk}
    {isPresent : Bool} (created : disk.createDirectories root = (made, isPresent)) : made = disk := by
  cases settled with
  | held read =>
    rw [createDirectories_of_read filled named read] at created
    cases created
    rfl
  | unmade _ failed =>
    rw [failed] at created
    cases created
    rfl
  | refused _ created' _ =>
    rw [created'] at created
    cases created
    rfl
  | written stale _ done => exact absurd (Disk.read?_of_write done) stale

variable (named' : Path.IsName other.1) (different : other.1 ≠ source.1)
include named' different

/-- What is settled stays settled when another source is stored. -/
theorem Stores.stays (settled : Stores root source disk storage disk)
    (stores : Stores root other disk storage' after) : Stores root source after storage after := by
  cases stores with
  | held => exact settled
  | unmade _ failed =>
    obtain rfl := settled.made_eq filled named failed
    exact settled
  | refused _ created _ =>
    obtain rfl := settled.made_eq filled named created
    exact settled
  | written _ created done =>
    obtain rfl := settled.made_eq filled named created
    have read : ∀ {bytes : ByteArray}, after.read? (root.join ⟨source.1⟩) = some bytes ↔ _ :=
      read?_of_write_other named named' different done
    obtain ⟨_, target, located', _⟩ := Disk.exists_write done
    have present : after.isDirectory root = true :=
      isDirectory_of_locate filled named' ((Disk.locate_of_write done).mpr located')
    cases settled with
    | held read' => exact .held (read.mpr read')
    | unmade _ failed =>
      rw [created] at failed
      cases failed
    | refused stale _ blocked =>
      refine .refused (mt read.mp stale) (Disk.createDirectories_of_isDirectory present) ?_
      rw [Option.eq_none_iff_forall_ne_some]
      intro later written
      obtain ⟨fits, place, located, notDirectory, _⟩ := Disk.exists_write written
      rw [Disk.locate_of_write done] at located
      rw [Disk.hasDirectory_of_write done] at notDirectory
      have writable : Option.isSome (Disk.write? _ (root.join ⟨source.1⟩) source.2.toUTF8) :=
        Disk.write?_isSome located fits notDirectory
      rw [blocked] at writable
      cases writable
    | written stale _ done' => exact absurd (Disk.read?_of_write done') stale

end Settled

/-- Store sources in order. -/
def storedAll (root : Path) : List (String × String) → Disk → List Storage × Disk
  | [], disk => ([], disk)
  | source :: rest, disk =>
    let (storage, middle) := stored root source disk
    let (others, after) := storedAll root rest middle
    (storage :: others, after)

/-- Sources of different names, all of which files can have. -/
structure AreApart (sources : List (String × String)) : Prop where
  named : ∀ source ∈ sources, Path.IsName source.1
  different : sources.Pairwise fun source other => source.1 ≠ other.1

variable {sources : List (String × String)}

theorem AreApart.tail (apart : AreApart (source :: sources)) :
    (∀ other ∈ sources, other.1 ≠ source.1) ∧ AreApart sources := by
  obtain ⟨first, rest⟩ := List.pairwise_cons.mp apart.different
  exact ⟨fun other member => (first other member).symm,
    fun other member => apart.named other (List.mem_cons_of_mem _ member), rest⟩

theorem Stores.stays_all (filled : root.text ≠ "") (named : Path.IsName source.1)
    (apart : AreApart sources) (different : ∀ other ∈ sources, other.1 ≠ source.1)
    (settled : Stores root source disk storage disk) :
    Stores root source (storedAll root sources disk).2 storage (storedAll root sources disk).2 := by
  induction sources generalizing disk with
  | nil => exact settled
  | cons other rest ih =>
    obtain ⟨_, apart'⟩ := apart.tail
    have first := stores_stored root other disk
    have settled' := settled.stays filled named (apart.named other (by simp))
      (different other (by simp)) first
    exact ih apart' (fun source member => different source (List.mem_cons_of_mem _ member)) settled'

/-- Storing sources a second time leaves the disk as it is, and stores the same ones. -/
theorem storedAll_again (filled : root.text ≠ "") (apart : AreApart sources) (disk : Disk) :
    storedAll root sources (storedAll root sources disk).2 =
      ((storedAll root sources disk).1.map Storage.again, (storedAll root sources disk).2) := by
  induction sources generalizing disk with
  | nil => rfl
  | cons source rest ih =>
    obtain ⟨different, apart'⟩ := apart.tail
    have named := apart.named source (by simp)
    have first := stores_stored root source disk
    have settled := (first.settled filled named).stays_all filled named apart' different
    have again := ih apart' (stored root source disk).2
    change storedAll root (source :: rest) (storedAll root rest (stored root source disk).2).2 = _
    rw [storedAll, stores_iff.mp settled]
    dsimp only
    rw [again]
    rfl

theorem Stores.keeps (stores : Stores root source disk storage after) : disk.Keeps after := by
  cases stores with
  | held => exact .refl disk
  | unmade _ failed => exact Disk.keeps_createDirectories failed
  | refused _ created _ => exact Disk.keeps_createDirectories created
  | written _ created done => exact (Disk.keeps_createDirectories created).trans (Disk.keeps_write done)

theorem keeps_storedAll (root : Path) (sources : List (String × String)) (disk : Disk) :
    disk.Keeps (storedAll root sources disk).2 := by
  induction sources generalizing disk with
  | nil => exact .refl disk
  | cons source rest ih => exact (stores_stored root source disk).keeps.trans (ih _)

theorem Stores.read?_of_written (stores : Stores root source disk .written after) :
    after.read? (root.join ⟨source.1⟩) = some source.2.toUTF8 := by
  cases stores with
  | written _ _ done => exact Disk.read?_of_write done

/-- There is a file wherever a source was written. -/
theorem exists_file_of_written
    (written : (source, Storage.written) ∈ sources.zip (storedAll root sources disk).1) :
    ∃ place content, (storedAll root sources disk).2.locate (root.join ⟨source.1⟩) = .ok place ∧
      (storedAll root sources disk).2.tree.at? place = some (.file content) := by
  induction sources generalizing disk with
  | nil => cases written
  | cons first rest ih =>
    have keeps := keeps_storedAll root rest (stored root first disk).2
    have stores := stores_stored root first disk
    rcases List.mem_cons.mp written with own | later
    · obtain ⟨rfl, same⟩ := Prod.mk.inj own
      rw [show (stored root source disk).1 = .written from same.symm] at stores
      obtain ⟨_, place, located, here⟩ := Disk.read?_eq_some_iff.mp stores.read?_of_written
      obtain ⟨content, here'⟩ := keeps.files place _ here
      exact ⟨place, content, keeps.locate located, here'⟩
    · exact ih later

def Storage.problem? (root : Path) (name : String) : Storage → Option StorageProblem
  | .held | .written => none
  | .unmade => some ⟨name, s!"cannot create {root.text}"⟩
  | .refused => some ⟨name, s!"cannot write {(root.join ⟨name⟩).text}"⟩

/-- A sink that has taken note of what came of storing a source. -/
def noted (sink : DirectorySink) (name : String) : Storage → DirectorySink
  | .held => { sink with unchanged := sink.unchanged + 1 }
  | .written => { sink with written := sink.written ++ [sink.root.join ⟨name⟩] }
  | .unmade | .refused => sink

theorem run_add (sink : DirectorySink) (source : String × String) (disk : Disk) :
    ((add Disk.host source.1 source.2).run sink).run disk =
      (((stored sink.root source disk).1.problem? sink.root source.1,
        sink.noted source.1 (stored sink.root source disk).1), (stored sink.root source disk).2) := by
  rcases result : stored sink.root source disk with ⟨storage, after⟩
  have read := Disk.run_readText disk (sink.root.join ⟨source.1⟩)
  rw [add, run_state_bind (run_state_get sink), run_state_bind (run_state_lift read sink)]
  cases stores_iff.mpr result with
  | held current =>
    rw [if_pos (beq_iff_eq.mpr (holds_iff.mpr current))]
    rfl
  | unmade stale failed =>
    have created := Disk.run_createDirectories disk sink.root
    rw [failed] at created
    rw [if_neg (by simpa using mt holds_iff.mp stale), run_state_bind (run_state_lift created sink)]
    rfl
  | refused stale created blocked =>
    have created' := Disk.run_createDirectories disk sink.root
    have refused := Disk.run_writeText after (sink.root.join ⟨source.1⟩) source.2
    rw [created] at created'
    rw [blocked] at refused
    rw [if_neg (by simpa using mt holds_iff.mp stale), run_state_bind (run_state_lift created' sink),
      if_neg (by simp), run_state_bind (run_state_lift refused sink)]
    rfl
  | @written made _ stale created done =>
    have created' := Disk.run_createDirectories disk sink.root
    have written := Disk.run_writeText made (sink.root.join ⟨source.1⟩) source.2
    rw [created] at created'
    rw [done] at written
    rw [if_neg (by simpa using mt holds_iff.mp stale), run_state_bind (run_state_lift created' sink),
      if_neg (by simp), run_state_bind (run_state_lift written sink), if_neg (by simp)]
    rfl

/-- The first source that could not be stored. -/
def problemOf (root : Path) : List (String × String) → List Storage → Option StorageProblem
  | source :: rest, storage :: others => (storage.problem? root source.1).or (problemOf root rest others)
  | _, _ => none

def notedAll (sink : DirectorySink) : List (String × String) → List Storage → DirectorySink
  | source :: rest, storage :: others => notedAll (sink.noted source.1 storage) rest others
  | _, _ => sink

@[simp] theorem root_noted (sink : DirectorySink) (name : String) (storage : Storage) :
    (sink.noted name storage).root = sink.root := by
  cases storage <;> rfl

theorem diagnostics_notedAll (sink : DirectorySink) (sources : List (String × String))
    (storages : List Storage) : (sink.notedAll sources storages).diagnostics = sink.diagnostics := by
  induction sources generalizing sink storages with
  | nil => rfl
  | cons source rest ih =>
    cases storages with
    | nil => rfl
    | cons storage others =>
      rw [notedAll, ih]
      cases storage <;> rfl

/-- What was written is the files of the sources that were. -/
theorem mem_written_notedAll {sink : DirectorySink} {sources : List (String × String)}
    {storages : List Storage} {path : Path} : path ∈ (sink.notedAll sources storages).written ↔
      path ∈ sink.written ∨ ∃ source, (source, Storage.written) ∈ sources.zip storages ∧
        path = sink.root.join ⟨source.1⟩ := by
  induction sources generalizing sink storages with
  | nil => simp [notedAll]
  | cons source rest ih =>
    cases storages with
    | nil => simp [notedAll]
    | cons storage others =>
      rw [notedAll, ih, root_noted]
      cases storage <;> simp [noted, or_assoc]

theorem isSome_problemOf (root : Path) (sources : List (String × String)) (disk : Disk) :
    (problemOf root sources (storedAll root sources disk).1).isSome =
      (storedAll root sources disk).1.any fun storage => !storage.isStored := by
  induction sources generalizing disk with
  | nil => rfl
  | cons source rest ih =>
    rw [storedAll, problemOf, Option.isSome_or, ih, List.any_cons]
    cases (stored root source disk).1 <;> rfl

/-- The names and texts of artifacts. -/
def sourcesOf (artifacts : List (String × Artifact)) : List (String × String) :=
  artifacts.map fun entry => (entry.2.name, entry.2.text)

theorem run_offer (sink : DirectorySink) (artifacts : List (String × Artifact)) (disk : Disk) :
    ((Output.offer (DirectorySink.sink Disk.host) artifacts).run sink).run disk =
      let all := storedAll sink.root (sourcesOf artifacts) disk
      ((problemOf sink.root (sourcesOf artifacts) all.1, sink.notedAll (sourcesOf artifacts) all.1),
        all.2) := by
  induction artifacts generalizing sink disk with
  | nil => rfl
  | cons entry rest ih =>
    have first := run_add sink (entry.2.name, entry.2.text) disk
    have others := ih (sink.noted entry.2.name (stored sink.root (entry.2.name, entry.2.text) disk).1)
      (stored sink.root (entry.2.name, entry.2.text) disk).2
    rw [root_noted] at others
    rw [Output.offer]
    refine (run_state_bind first _).trans ((run_state_bind others _).trans ?_)
    rfl

theorem run_reportAll (sink : DirectorySink) (diagnostics : List Diagnostic) (disk : Disk) :
    ((Output.reportAll (DirectorySink.sink Disk.host) diagnostics).run sink).run disk =
      ((⟨⟩, { sink with diagnostics := sink.diagnostics ++ diagnostics }), disk) := by
  induction diagnostics generalizing sink with
  | nil =>
    change ((PUnit.unit, sink), disk) = _
    simp
  | cons diagnostic rest ih =>
    have first : (((DirectorySink.sink Disk.host).report diagnostic).run sink).run disk =
        ((⟨⟩, { sink with diagnostics := sink.diagnostics ++ [diagnostic] }), disk) := rfl
    rw [Output.reportAll, run_state_bind first, ih]
    simp

/-- An output is emitted by taking its diagnostics and storing its artifacts. -/
theorem run_emit (root : Path) (output : Output) (disk : Disk) :
    ((output.emit (DirectorySink.sink Disk.host)).run { root }).run disk =
      let all := storedAll root (sourcesOf output.artifacts) disk
      ((problemOf root (sourcesOf output.artifacts) all.1,
        notedAll { root, diagnostics := output.diagnostics } (sourcesOf output.artifacts) all.1),
        all.2) := by
  rw [Output.emit, run_state_bind (run_reportAll { root } output.diagnostics disk)]
  exact run_offer _ _ _

end TermBind.DirectorySink
