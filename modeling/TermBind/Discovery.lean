import TermBind.Config
import TermBind.File.Host
import TermBind.Schema

/-! Finding the source files and schema documents of a project. -/
namespace TermBind

open File

/-- Files with their paths, relative to the root of the project where they are below it. -/
structure ProjectFiles where
  sources : List (Path × String) := []
  schemas : List (Path × String) := []
deriving Repr, Inhabited

/-- A file that is no readable text. -/
structure DiscoveryProblem where
  path : Path
deriving Repr

def DiscoveryProblem.message (problem : DiscoveryProblem) : String :=
  s!"Failed to read {problem.path.text}"

namespace Discovery

/-- The paths of the files below a path in order, except what is below the path to skip. -/
def walk (skip path : Path) : Listing → List Path
  | .file => if path.same skip then [] else [path]
  | .directory entries => if path.same skip then [] else walkAll skip path entries
where
  walkAll (skip path : Path) : List (String × Listing) → List Path
    | [] => []
    | (name, entry) :: rest => walk skip (path.join ⟨name⟩) entry ++ walkAll skip path rest

def isSource (path : Path) : Bool := path.extension? == some "rs"

def relative (config : Config) (path : Path) : Path := (path.stripPrefix? config.projectRoot).getD path

variable {m : Type → Type} [Monad m] (host : Host m)

def readAll (config : Config) : List Path → ExceptT DiscoveryProblem m (List (Path × String))
  | [] => return []
  | path :: rest => do
    match ← host.readText path with
    | some text => return (relative config path, text) :: (← readAll config rest)
    | none => throw ⟨path⟩

/-- The wanted files below a directory outside the output directory; none if there is no such
directory. -/
def collect (config : Config) (wanted : Path → Bool) (directory : Path) :
    ExceptT DiscoveryProblem m (List (Path × String)) := do
  let root := config.resolve directory
  match ← host.list root with
  | none => return []
  | some listing =>
    readAll host config ((walk (config.resolve config.output.directory) root listing).filter wanted)

def collectAll (config : Config) (wanted : Path → Bool) :
    List Path → ExceptT DiscoveryProblem m (List (Path × String))
  | [] => return []
  | directory :: rest => do
    return (← collect host config wanted directory) ++ (← collectAll config wanted rest)

end Discovery

/-- Find the files of a project. The directories of schema documents are taken one by one. -/
def discover {m : Type → Type} [Monad m] (host : Host m) (config : Config) :
    ExceptT DiscoveryProblem m ProjectFiles := do
  let sources ← Discovery.collect host config Discovery.isSource config.binding.sourceRoot
  let schemas ← Discovery.collectAll host config
    (fun path => Schema.isSchemaFile path config.schema.extension) config.schema.directories
  return { sources, schemas }

end TermBind
