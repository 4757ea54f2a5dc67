import TermBind.Artifact

/-! Receivers of generated sources and diagnostics. -/
namespace TermBind

/-- A receiver. Storing a source may fail. -/
structure Sink (m : Type → Type) (ε : Type) where
  add : (name text : String) → m (Option ε)
  report : Diagnostic → m Unit

/-- A source that could not be stored. -/
structure StorageProblem where
  name : String
  reason : String
deriving DecidableEq, Repr

def StorageProblem.message (problem : StorageProblem) : String :=
  s!"IO error writing {problem.name}: {problem.reason}"

/-- Sources by name in the order in which the names first came. -/
structure MemorySink where
  sources : List (String × String) := []
  diagnostics : List Diagnostic := []
deriving DecidableEq, Repr, Inhabited

namespace MemorySink

def source? (sink : MemorySink) (name : String) : Option String := sink.sources.lookup name

/-- Replace the text stored first under a name, or put a new entry at the end. -/
def store (name text : String) : List (String × String) → List (String × String)
  | [] => [(name, text)]
  | entry :: rest =>
    if entry.1 == name then (name, text) :: rest else entry :: store name text rest

def add (name text : String) (sink : MemorySink) : MemorySink :=
  { sink with sources := store name text sink.sources }

def report (diagnostic : Diagnostic) (sink : MemorySink) : MemorySink :=
  { sink with diagnostics := sink.diagnostics ++ [diagnostic] }

/-- Keeps everything. -/
def sink {ε : Type} : Sink (StateM MemorySink) ε where
  add name text := do
    modify (add name text)
    return none
  report diagnostic := modify (report diagnostic)

end MemorySink
end TermBind
