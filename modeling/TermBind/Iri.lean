import TermBind.Url.Address

/-! Internationalized resource identifiers: their parts, their characters and their resolution. -/
namespace TermBind.Iri

def isUnreserved (c : Char) : Bool :=
  let code := c.toNat
  if code < 128 then c.isAlphanum || c == '-' || c == '.' || c == '_' || c == '~'
  else
    (0xa0 ≤ code && code ≤ 0xd7ff) || (0xf900 ≤ code && code ≤ 0xfdcf) ||
      (0xfdf0 ≤ code && code ≤ 0xffef) ||
      (0x10000 ≤ code && code ≤ 0xdffff && code % 0x10000 ≤ 0xfffd) ||
      (0xe1000 ≤ code && code ≤ 0xefffd)

def isPrivate (c : Char) : Bool :=
  let code := c.toNat
  (0xe000 ≤ code && code ≤ 0xf8ff) || (0xf0000 ≤ code && code ≤ 0xffffd) ||
    (0x100000 ≤ code && code ≤ 0x10fffd)

def isDelimiter (c : Char) : Bool := "!$&'()*+,;=".toList.contains c

def isPlain (c : Char) : Bool := isUnreserved c || isDelimiter c

def isInPath (c : Char) : Bool := isPlain c || c == ':' || c == '@' || c == '/'

def isInFragment (c : Char) : Bool := isInPath c || c == '?'

def isInQuery (c : Char) : Bool := isInFragment c || isPrivate c

/-- Every character is allowed or begins an escaped byte. -/
def allAllowed (allowed : Char → Bool) : List Char → Bool
  | [] => true
  | '%' :: rest =>
    match rest with
    | high :: low :: rest =>
      Url.isHexDigit high && Url.isHexDigit low && allAllowed allowed rest
    | _ => false
  | c :: rest => allowed c && allAllowed allowed rest

/-- The parts of a reference, each without the mark that sets it off. -/
structure Parts where
  scheme : Option (List Char) := none
  authority : Option (List Char) := none
  path : List Char := []
  query : Option (List Char) := none
  fragment : Option (List Char) := none
deriving DecidableEq, Repr

namespace Parts

private def cut (mark : Char) (text : List Char) : List Char × Option (List Char) :=
  match text.dropWhile (· ≠ mark) with
  | [] => (text, none)
  | _ :: rest => (text.takeWhile (· ≠ mark), some rest)

private def isInScheme (c : Char) : Bool := c.isAlphanum || c == '+' || c == '-' || c == '.'

private def cutScheme (text : List Char) : Option (List Char) × List Char :=
  match text.takeWhile isInScheme, text.dropWhile isInScheme with
  | c :: scheme, ':' :: rest => if c.isAlpha then (some (c :: scheme), rest) else (none, text)
  | _, _ => (none, text)

private def cutAuthority : List Char → Option (List Char) × List Char
  | '/' :: '/' :: rest => (some (rest.takeWhile (· ≠ '/')), rest.dropWhile (· ≠ '/'))
  | text => (none, text)

def ofText (text : List Char) : Parts :=
  let (text, fragment) := cut '#' text
  let (text, query) := cut '?' text
  let (scheme, text) := cutScheme text
  let (authority, path) := cutAuthority text
  { scheme, authority, path, query, fragment }

def toText (parts : Parts) : List Char :=
  (parts.scheme.elim [] (· ++ [':'])) ++ (parts.authority.elim [] (['/', '/'] ++ ·)) ++ parts.path ++
    (parts.query.elim [] ('?' :: ·)) ++ (parts.fragment.elim [] ('#' :: ·))

private def isVersioned (literal : List Char) : Bool :=
  match literal with
  | [] => false
  | _ :: rest =>
    let version := rest.takeWhile (· ≠ '.')
    let address := (rest.dropWhile (· ≠ '.')).drop 1
    !version.isEmpty && version.all Url.isHexDigit && !address.isEmpty &&
      address.all fun c => isPlain c || c == ':'

private def isPort (text : List Char) : Bool :=
  match text with
  | [] => true
  | ':' :: digits => digits.all Char.isDigit
  | _ => false

private def isHost (text : List Char) : Bool :=
  match text with
  | '[' :: rest =>
    let address := rest.takeWhile (· ≠ ']')
    match rest.dropWhile (· ≠ ']') with
    | [] => false
    | _ :: port =>
      (if address.head?.any (fun c => c == 'v' || c == 'V') then isVersioned address
        else Url.Ipv6.isValid address) && isPort port
  | _ =>
    allAllowed isPlain (text.takeWhile (· ≠ ':')) && isPort (text.dropWhile (· ≠ ':'))

def isAuthority (text : List Char) : Bool :=
  match cut '@' text with
  | (user, some host) =>
    if user.contains '[' then isHost text
    else allAllowed (fun c => isPlain c || c == ':') user && isHost host
  | (host, none) => isHost host

/-- Every part holds only its own characters; no reference begins with a colon. -/
def isWellFormed (parts : Parts) : Bool :=
  parts.authority.all isAuthority && allAllowed isInPath parts.path &&
    parts.query.all (allAllowed isInQuery) && parts.fragment.all (allAllowed isInFragment) &&
    (parts.scheme.isSome || parts.path.head? != some ':')

end Parts

/-- Drop dot segments; a double dot takes the segment before it away. The first list is reversed. -/
def removeDots (kept : List (List Char)) : List (List Char) → List (List Char)
  | [] => kept.reverse
  | [['.']] => ([] :: kept).reverse
  | [['.', '.']] => ([] :: kept.tail).reverse
  | ['.'] :: rest => removeDots kept rest
  | ['.', '.'] :: rest => removeDots kept.tail rest
  | segment :: rest => removeDots (segment :: kept) rest

/-- Whether the segments lead back above the given depth. -/
private def climbs (depth : Nat) : List (List Char) → Bool
  | [] => depth == 0
  | ['.'] :: rest => depth == 0 || climbs depth rest
  | ['.', '.'] :: rest => depth ≤ 1 || climbs (depth - 1) rest
  | _ :: rest => depth == 0 || climbs (depth + 1) rest

/-- A path without dot segments; one that began with a slash still does. -/
def withoutDots (path : List Char) : List Char :=
  match path with
  | [] => []
  | '/' :: rest => '/' :: List.intercalate ['/'] (removeDots [] (rest.splitOn '/'))
  | _ =>
    match path.splitOn '/' with
    | first :: second :: rest =>
      if first == ['.'] || first == ['.', '.'] then
        List.intercalate ['/'] (removeDots [] (second :: rest))
      else
        match removeDots [] (second :: rest), climbs 1 (second :: rest) with
        | after, false => List.intercalate ['/'] (first :: after)
        | after, true => '/' :: List.intercalate ['/'] after
    | _ => if path == ['.'] || path == ['.', '.'] then [] else path

private def merge (base : Parts) (path : List Char) : List Char :=
  if base.authority.isSome && base.path.isEmpty then '/' :: path
  else (base.path.reverse.dropWhile (· ≠ '/')).reverse ++ path

/-- The target of a reference read against a base. -/
def target (base reference : Parts) : Parts :=
  if reference.scheme.isSome then { reference with path := withoutDots reference.path }
  else if reference.authority.isSome then
    { reference with scheme := base.scheme, path := withoutDots reference.path }
  else if reference.path.isEmpty then
    { base with query := reference.query.or base.query, fragment := reference.fragment }
  else
    let path := if reference.path.head? == some '/' then reference.path else merge base reference.path
    { reference with scheme := base.scheme, authority := base.authority, path := withoutDots path }

def isAbsolute (text : String) : Bool :=
  let parts := Parts.ofText text.toList
  parts.scheme.isSome && parts.isWellFormed

/-- The absolute form of a reference; without a base it must be absolute itself. -/
def resolve? (base : Option String) (reference : String) : Option String :=
  let parts := Parts.ofText reference.toList
  if !parts.isWellFormed then none
  else
    match base with
    | none => if parts.scheme.isSome then some reference else none
    | some base =>
      let result := target (Parts.ofText base.toList) parts
      if result.authority.isNone && ['/', '/'].isPrefixOf result.path then none
      else some (String.ofList result.toText)

end TermBind.Iri
