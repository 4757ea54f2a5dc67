import TermBind.File.Host
import TermBind.Sink

/-! Storing generated sources as files of a directory. -/
namespace TermBind

open File

/-- What was done in one run. A source that its file already holds is not written. -/
structure DirectorySink where
  root : Path
  written : List Path := []
  unchanged : Nat := 0
  diagnostics : List Diagnostic := []
deriving Repr, Inhabited

namespace DirectorySink

variable {m : Type → Type} [Monad m] (host : Host m)

/-- Store a source, in a directory that is made if there is none. -/
def add (name text : String) : StateT DirectorySink m (Option StorageProblem) := do
  let sink ← get
  let path := sink.root.join ⟨name⟩
  if (← host.readText path) == some text then
    set { sink with unchanged := sink.unchanged + 1 }
    return none
  if !(← host.createDirectories sink.root) then
    return some ⟨name, s!"cannot create {sink.root.text}"⟩
  if !(← host.writeText path text) then return some ⟨name, s!"cannot write {path.text}"⟩
  set { sink with written := sink.written ++ [path] }
  return none

def report (diagnostic : Diagnostic) : StateT DirectorySink m Unit :=
  modify fun sink => { sink with diagnostics := sink.diagnostics ++ [diagnostic] }

def sink : Sink (StateT DirectorySink m) StorageProblem := ⟨add host, report⟩

end DirectorySink
end TermBind
