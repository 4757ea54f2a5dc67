/-! File paths: the text as it was written, and the components it denotes. -/
namespace TermBind

inductive Component where
  | root
  | current
  | parent
  | normal (name : String)
deriving DecidableEq, Repr, Inhabited

namespace Component

def rank : Component → Nat
  | .root => 0
  | .current => 1
  | .parent => 2
  | .normal _ => 3

instance : Ord Component where
  compare
    | .normal left, .normal right => compare left right
    | left, right => compare left.rank right.rank

def name? : Component → Option String
  | .normal name => some name
  | _ => none

end Component

/-- A path is kept as written; two spellings of one path have the same components. -/
structure Path where
  text : String
deriving DecidableEq, Repr, Inhabited

namespace Path

instance : Coe String Path := ⟨Path.mk⟩

def isAbsolute (path : Path) : Bool := path.text.toList.head? == some '/'

/-- The text between slashes, after the root slash of an absolute path. -/
def segments (path : Path) : List String :=
  let text := path.text.toList
  ((if path.isAbsolute then text.tail else text).splitOn '/').map String.ofList

/-- What a segment denotes when something precedes it: empty and dot segments denote nothing. -/
def component? (segment : String) : Option Component :=
  if segment == "" || segment == "." then none
  else if segment == ".." then some .parent
  else some (.normal segment)

/-- A leading dot of a relative path is kept. -/
def leading? (segment : String) : Option Component :=
  if segment == "." then some .current else component? segment

def components (path : Path) : List Component :=
  if path.isAbsolute then .root :: path.segments.filterMap component?
  else
    match path.segments with
    | [] => []
    | first :: rest => (leading? first).toList ++ rest.filterMap component?

/-- Equality of paths as places, not as texts. -/
def same (left right : Path) : Bool := left.components == right.components

instance : Ord Path := ⟨fun left right => compare left.components right.components⟩

def fileName? (path : Path) : Option String :=
  path.components.getLast?.bind Component.name?

/-- Position of the last dot, unless it is the first character. -/
def splitName (name : String) : String × Option String :=
  let reversed := name.toList.reverse
  let extension := reversed.takeWhile (· ≠ '.')
  match reversed.dropWhile (· ≠ '.') with
  | [] => (name, none)
  | [_] => (name, none)
  | _ :: stem => (String.ofList stem.reverse, some (String.ofList extension.reverse))

def fileStem? (path : Path) : Option String := path.fileName?.map fun name => (splitName name).1

def extension? (path : Path) : Option String := path.fileName?.bind fun name => (splitName name).2

def join (base child : Path) : Path :=
  if child.isAbsolute then child
  else if base.text == "" || base.text.toList.getLast? == some '/' then ⟨base.text ++ child.text⟩
  else ⟨base.text ++ "/" ++ child.text⟩

def isBlank (segment : String) : Bool := segment == "" || segment == "."

def trimEnd (segments : List String) : List String :=
  (segments.reverse.dropWhile isBlank).reverse

def ofSegments (segments : List String) : Path := ⟨"/".intercalate segments⟩

/-- Split off the leading dot of a relative path, which trimming never removes. -/
def body (path : Path) : List String × List String :=
  match path.segments with
  | "." :: rest => if path.isAbsolute then ([], path.segments) else (["."], rest)
  | segments => ([], segments)

def rebuild (path : Path) (segments : List String) : Path :=
  if path.isAbsolute then ⟨"/" ++ (ofSegments segments).text⟩ else ofSegments segments

/-- The path without its last component; none for a root and for the empty path. -/
def parent? (path : Path) : Option Path :=
  let (lead, rest) := path.body
  match (trimEnd rest).reverse with
  | [] => if lead.isEmpty then none else some ⟨""⟩
  | _ :: earlier => some (path.rebuild (lead ++ trimEnd earlier.reverse))

def trimmed (path : Path) : Path :=
  let (lead, rest) := path.body
  path.rebuild (lead ++ trimEnd rest)

def dropComponents : Nat → List String → List String
  | 0, segments => segments
  | _ + 1, [] => []
  | count + 1, segment :: rest =>
    if isBlank segment then dropComponents (count + 1) rest else dropComponents count rest

/-- The rest of a path below a base whose components it begins with. -/
def stripPrefix? (path base : Path) : Option Path :=
  let matched := base.components
  if !matched.isPrefixOf path.components then none
  else if matched.isEmpty then some path.trimmed
  else
    let (lead, rest) := path.body
    let inBody := matched.length - (if path.isAbsolute then 1 else lead.length)
    some (ofSegments (trimEnd ((dropComponents inBody rest).dropWhile isBlank)))

end Path
end TermBind
