import TermBind.Url.Domain

/-! Absolute URLs: which texts are one, and what is wrong with the others. -/
namespace TermBind.Url

inductive Problem where
  | relativeWithoutBase
  | emptyHost
  | invalidPort
  | invalidIpv4
  | invalidIpv6
  | invalidDomain
  | invalidDomainCharacter
deriving DecidableEq, Repr

def Problem.reason : Problem → String
  | .relativeWithoutBase => "relative URL without a base"
  | .emptyHost => "empty host"
  | .invalidPort => "invalid port number"
  | .invalidIpv4 => "invalid IPv4 address"
  | .invalidIpv6 => "invalid IPv6 address"
  | .invalidDomain => "invalid international domain name"
  | .invalidDomainCharacter => "invalid domain character"

/-- How the part after the scheme is read. -/
inductive Kind where
  | web
  | file
  | other
deriving DecidableEq, Repr

namespace Kind

def ofScheme (scheme : List Char) : Kind :=
  let name := String.ofList (scheme.map Char.toLower)
  if name == "file" then .file
  else if ["http", "https", "ws", "wss", "ftp"].contains name then .web
  else .other

def isSpecial : Kind → Bool
  | .other => false
  | _ => true

end Kind

private def isSlash (c : Char) : Bool := c == '/' || c == '\\'

/-- The characters that end the authority. -/
def endsAuthority (kind : Kind) (c : Char) : Bool :=
  c == '/' || c == '?' || c == '#' || (kind.isSpecial && c == '\\')

/-- Outer blanks and controls, and line breaks and tabs anywhere, are not part of a URL. -/
def clean (text : List Char) : List Char :=
  let isOuter := fun (c : Char) => c.toNat ≤ 32
  let trimmed := ((text.dropWhile isOuter).reverse.dropWhile isOuter).reverse
  trimmed.filter fun c => c != '\t' && c != '\n' && c != '\r'

/-- The scheme and what follows its colon. -/
def scheme? (text : List Char) : Option (List Char × List Char) :=
  let isInner := fun (c : Char) => c.isAlphanum || c == '+' || c == '-' || c == '.'
  match text.head?, text.dropWhile isInner with
  | some c, ':' :: rest => if c.isAlpha then some (text.takeWhile isInner, rest) else none
  | _, _ => none

private def hexPair? : List Char → Option Nat
  | high :: low :: _ =>
    if isHexDigit high && isHexDigit low then some (hexValue high * 16 + hexValue low) else none
  | _ => none

def percentDecode : List Char → List UInt8
  | [] => []
  | '%' :: high :: low :: rest =>
    match hexPair? [high, low] with
    | some value => UInt8.ofNat value :: percentDecode rest
    | none => 37 :: percentDecode (high :: low :: rest)
  | c :: rest => (String.singleton c).toUTF8.toList ++ percentDecode rest

/-- The address between brackets. -/
private def bracketed (host : List Char) : Option Problem :=
  if host.getLast? == some ']' && Ipv6.isValid (host.drop 1).dropLast then none
  else some .invalidIpv6

/-- A host that is looked up by name or address. -/
def hostProblem? (host : List Char) : Option Problem :=
  if host.head? == some '[' then bracketed host
  else
    match String.fromUTF8? (ByteArray.mk (percentDecode host).toArray) with
    | none => some .invalidDomain
    | some decoded =>
      match Domain.ofText? decoded.toList with
      | none => some .invalidDomain
      | some name =>
        if name.isEmpty then some .emptyHost
        else if Ipv4.endsInNumber name && !Ipv4.isValid name then some .invalidIpv4
        else none

/-- A host that is only kept as text. -/
def opaqueProblem? (host : List Char) : Option Problem :=
  if host.head? == some '[' then bracketed host
  else if host.any fun c => c == '\x00' || "\t\n\r #/:<>?@[\\]^|".toList.contains c then
    some .invalidDomainCharacter
  else none

/-- The length of the host: a colon ends it outside brackets. -/
def hostLength (kind : Kind) (inBrackets : Bool) : List Char → Nat
  | [] => 0
  | c :: rest =>
    if (c == ':' && !inBrackets) || endsAuthority kind c then 0
    else 1 + hostLength kind (c == '[' || (inBrackets && c != ']')) rest

def portProblem? (text : List Char) : Option Problem :=
  let digits := text.takeWhile Char.isDigit
  match text.drop digits.length with
  | [] => if numberIn 10 digits ≤ 65535 then none else some .invalidPort
  | c :: _ =>
    if numberIn 10 digits ≤ 65535 && (isSlash c || c == '?' || c == '#') then none
    else some .invalidPort

/-- The user part before the last at sign of the authority, and what follows the sign. -/
def splitUser (kind : Kind) (text : List Char) : Option (List Char × List Char) :=
  let authority := text.takeWhile fun c => !endsAuthority kind c
  match authority.reverse.dropWhile (· ≠ '@') with
  | [] => none
  | _ :: user => some (user.reverse, text.drop (user.length + 1))

def authorityProblem? (kind : Kind) (text : List Char) : Option Problem :=
  let (user, rest) := (splitUser kind text).getD ([], text)
  let length := hostLength kind false rest
  let host := rest.take length
  let after := rest.drop length
  let emptyUser := (splitUser kind text).any fun parts =>
    parts.1.isEmpty && parts.2.head?.any (endsAuthority kind)
  if emptyUser then some .emptyHost
  else
    let problem := if kind.isSpecial then
        if host.isEmpty then some .emptyHost else hostProblem? host
      else opaqueProblem? host
    problem <|>
      (if host.isEmpty && after.head? == some ':' then some .emptyHost else none) <|>
      (if after.head? == some ':' then portProblem? (after.drop 1) else none) <|>
      (if host.isEmpty && user.any (fun c => c != ':' || 1 < user.length) then some .emptyHost
        else none)

private def isDriveLetter : List Char → Bool
  | [letter, colon] => letter.isAlpha && (colon == ':' || colon == '|')
  | _ => false

def fileProblem? : List Char → Option Problem
  | first :: second :: rest =>
    if isSlash first && isSlash second then
      let host := rest.takeWhile fun c => !endsAuthority .file c
      if host.isEmpty || isDriveLetter host then none else hostProblem? host
    else none
  | _ => none

/-- What keeps a text from being an absolute URL. -/
def problem? (text : String) : Option Problem :=
  match scheme? (clean text.toList) with
  | none => some .relativeWithoutBase
  | some (scheme, rest) =>
    match Kind.ofScheme scheme, rest with
    | .file, rest => fileProblem? rest
    | .web, rest => authorityProblem? .web (rest.dropWhile isSlash)
    | .other, '/' :: '/' :: rest => authorityProblem? .other rest
    | .other, _ => none

end TermBind.Url
