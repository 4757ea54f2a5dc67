import TermBind.Scan
import TermBind.Source.Declared

/-! Scanning source files. -/
namespace TermBind.Scan

variable {m : Type → Type} [Monad m] [Wording]

/-- Scan the declarations of a source file. One that cannot be read passes no checkpoint. -/
def file (checkpoint : m Unit) (name : String) (path : Path) (text : String) (root : Path) :
    m (List (Outcome ScannedBinding)) :=
  match Source.declarations path text root with
  | .ok declared => declarations checkpoint name (declared.map (·.view path.text))
  | .failed diagnostics => return [.failed diagnostics]

end TermBind.Scan
