import TermBind.Exchange
import TermBind.File.Host

/-! Loading the settings of a project from a file. -/
namespace TermBind

open File

inductive SettingsProblem where
  | unreadable (path : Path)
  | malformed (path : Path)
deriving Repr

def SettingsProblem.message : SettingsProblem → String
  | .unreadable path => s!"IO error: cannot read {path.text}"
  | .malformed path => s!"Parse error: {path.text} does not hold settings"

/-- The directory of the file becomes the root of the project. -/
def Config.ofFile {m : Type → Type} [Monad m] (host : Host m) (path : Path) :
    ExceptT SettingsProblem m Config := do
  match ← host.readText path with
  | none => throw (.unreadable path)
  | some text =>
    match Config.ofToml? text with
    | none => throw (.malformed path)
    | some config => return { config with projectRoot := path.parent?.getD config.projectRoot }

end TermBind
