import TermBind.Url.Address

/-! Tokens of Turtle documents. -/
namespace TermBind.Turtle

inductive Mark where
  | dot
  | semicolon
  | comma
  | openBracket
  | closeBracket
  | openParen
  | closeParen
  | datatype
deriving DecidableEq, Repr

inductive Token where
  | iri (text : String)
  | name (label part : String)
  | word (text : String)
  | blank (label : String)
  | string (value : String)
  | number (text datatype : String)
  | tag (text : String)
  | mark (mark : Mark)
deriving DecidableEq, Repr

def xsd (name : String) : String := "http://www.w3.org/2001/XMLSchema#" ++ name

def isNameBase (c : Char) : Bool :=
  let code := c.toNat
  if code < 128 then c.isAlpha
  else
    (0xc0 ≤ code && code ≤ 0x2ff && code != 0xd7 && code != 0xf7) ||
      (0x370 ≤ code && code ≤ 0x1fff && code != 0x37e) ||
      (0x200c ≤ code && code ≤ 0x200d) || (0x2070 ≤ code && code ≤ 0x218f) ||
      (0x2c00 ≤ code && code ≤ 0x2fef) || (0x3001 ≤ code && code ≤ 0xd7ff) ||
      (0xf900 ≤ code && code ≤ 0xfdcf) || (0xfdf0 ≤ code && code ≤ 0xfffd) ||
      (0x10000 ≤ code && code ≤ 0xeffff)

def isNameStart (c : Char) : Bool := isNameBase c || c == '_'

def isNameChar (c : Char) : Bool :=
  let code := c.toNat
  isNameStart c || c == '-' || c.isDigit || code == 0xb7 || (0x300 ≤ code && code ≤ 0x36f) ||
    (0x203f ≤ code && code ≤ 0x2040)

/-- A reading: the token and the text after it, or nothing if no token begins there. -/
abbrev Reading (α : Type) := Option (α × List Char)

private def hexChar? (count : Nat) (text : List Char) : Reading Char :=
  let digits := text.take count
  let code := Url.numberIn 16 digits
  if digits.length == count && digits.all Url.isHexDigit && code ≤ 0x10ffff &&
      !(0xd800 ≤ code && code ≤ 0xdfff) then
    some (Char.ofNat code, text.drop count)
  else none

/-- The character written by four digits after a small letter or by eight after a capital. -/
def codePoint? : List Char → Reading Char
  | 'u' :: rest => hexChar? 4 rest
  | 'U' :: rest => hexChar? 8 rest
  | _ => none

private def charEscape? : List Char → Reading Char
  | 't' :: rest => some ('\t', rest)
  | 'b' :: rest => some ('\x08', rest)
  | 'n' :: rest => some ('\n', rest)
  | 'r' :: rest => some ('\r', rest)
  | 'f' :: rest => some ('\x0c', rest)
  | '"' :: rest => some ('"', rest)
  | '\'' :: rest => some ('\'', rest)
  | '\\' :: rest => some ('\\', rest)
  | text => codePoint? text

private def iriBody (fuel : Nat) (read : List Char) (text : List Char) : Reading String :=
  match fuel, text with
  | 0, _ | _, [] => none
  | _ + 1, '>' :: rest => some (String.ofList read.reverse, rest)
  | fuel + 1, '\\' :: rest =>
    match codePoint? rest with
    | some (c, rest) => iriBody fuel (c :: read) rest
    | none => none
  | fuel + 1, c :: rest => iriBody fuel (c :: read) rest

/-- Text up to a quote; line breaks must be escaped. -/
private def shortBody (fuel : Nat) (quote : Char) (read : List Char) (text : List Char) :
    Reading String :=
  match fuel, text with
  | 0, _ | _, [] => none
  | fuel + 1, '\\' :: rest =>
    match charEscape? rest with
    | some (c, rest) => shortBody fuel quote (c :: read) rest
    | none => none
  | fuel + 1, c :: rest =>
    if c == quote then some (String.ofList read.reverse, rest)
    else if c == '\n' || c == '\r' then none
    else shortBody fuel quote (c :: read) rest

/-- Text up to three quotes in a row. -/
private def longBody (fuel : Nat) (quote : Char) (read : List Char) (text : List Char) :
    Reading String :=
  match fuel, text with
  | 0, _ | _, [] => none
  | fuel + 1, '\\' :: rest =>
    match charEscape? rest with
    | some (c, rest) => longBody fuel quote (c :: read) rest
    | none => none
  | fuel + 1, c :: rest =>
    if c == quote && rest.take 2 == [quote, quote] then
      some (String.ofList read.reverse, rest.drop 2)
    else longBody fuel quote (c :: read) rest

private def stringToken (quote : Char) (rest : List Char) : Reading Token :=
  let read :=
    if rest.take 2 == [quote, quote] then longBody (rest.length + 1) quote [] (rest.drop 2)
    else shortBody (rest.length + 1) quote [] rest
  read.map fun (value, rest) => (.string value, rest)

private def giveBackDots (read rest : List Char) : List Char × List Char :=
  (read.dropWhile (· == '.'), read.takeWhile (· == '.') ++ rest)

/-- The part of a name after the colon; what was read is kept reversed. Trailing dots that are not
escaped are given back. -/
private def localPart (fuel : Nat) (read : List Char) (dots : Nat) (text : List Char) :
    Reading String :=
  let finish := fun (rest : List Char) =>
    some (String.ofList (read.drop dots).reverse, List.replicate dots '.' ++ rest)
  match fuel, text with
  | 0, _ => none
  | _, [] => finish []
  | fuel + 1, '%' :: rest =>
    match rest with
    | high :: low :: rest =>
      if Url.isHexDigit high && Url.isHexDigit low then
        localPart fuel (low :: high :: '%' :: read) 0 rest
      else none
    | _ => none
  | fuel + 1, '\\' :: rest =>
    match rest with
    | c :: rest =>
      if "_~.-!$&'()*+,;=/?#@%".toList.contains c then localPart fuel (c :: read) 0 rest else none
    | [] => none
  | fuel + 1, c :: rest =>
    if read.isEmpty then
      if isNameStart c || c == ':' || c.isDigit then localPart fuel [c] 0 rest
      else finish (c :: rest)
    else if isNameChar c || c == ':' then localPart fuel (c :: read) 0 rest
    else if c == '.' then localPart fuel (c :: read) (dots + 1) rest
    else finish (c :: rest)

/-- A prefixed name, or a word if no colon follows. -/
private def nameToken (text : List Char) : Reading Token :=
  let isInside := fun (c : Char) => isNameChar c || c == '.'
  let label := text.takeWhile isInside
  if !text.head?.any fun c => isNameBase c || c == ':' then none
  else
    match text.dropWhile isInside with
    | ':' :: rest =>
      if label.getLast? == some '.' then none
      else
        (localPart (rest.length + 1) [] 0 rest).map fun (part, rest) =>
          (.name (String.ofList label) part, rest)
    | rest =>
      let (word, rest) := giveBackDots label.reverse rest
      some (.word (String.ofList word.reverse), rest)

/-- A label ends before two dots in a row, and before a dot that nothing follows. -/
private def blankBody (read : List Char) : List Char → List Char × List Char
  | [] => (read, [])
  | c :: rest =>
    if c == '.' && read.head? == some '.' then (read, c :: rest)
    else if isNameChar c || c == '.' then blankBody (c :: read) rest
    else (read, c :: rest)

private def blankToken : List Char → Reading Token
  | c :: rest =>
    if isNameStart c || c.isDigit then
      let (read, rest) := blankBody [c] rest
      let (label, rest) := giveBackDots read rest
      some (.blank (String.ofList label.reverse), rest)
    else none
  | [] => none

private def isExponentMark (c : Char) : Bool := c == 'e' || c == 'E'

/-- The digits after an exponent mark; without digits there is no number. -/
private def exponent? (text : List Char) : Reading (List Char) :=
  let (sign, rest) := match text with
    | '+' :: rest => (['+'], rest)
    | '-' :: rest => (['-'], rest)
    | rest => ([], rest)
  let digits := rest.takeWhile Char.isDigit
  if digits.isEmpty then none else some (sign ++ digits, rest.drop digits.length)

private def numberToken (text : List Char) : Reading Token :=
  let (sign, rest) := match text with
    | '+' :: rest => (['+'], rest)
    | '-' :: rest => (['-'], rest)
    | rest => ([], rest)
  let whole := rest.takeWhile Char.isDigit
  let rest := rest.drop whole.length
  let (point, fraction, rest) := match rest with
    | '.' :: after =>
      let digits := after.takeWhile Char.isDigit
      let rest := after.drop digits.length
      if digits.isEmpty && !rest.head?.any isExponentMark then ([], [], '.' :: after)
      else (['.'], digits, rest)
    | rest => ([], [], rest)
  if whole.isEmpty && fraction.isEmpty then none
  else
    let before := sign ++ whole ++ point ++ fraction
    match rest with
    | c :: after =>
      if isExponentMark c then
        (exponent? after).map fun (digits, rest) =>
          (.number (String.ofList (before ++ c :: digits)) (xsd "double"), rest)
      else some (plain before point, rest)
    | [] => some (plain before point, rest)
where
  plain (text point : List Char) : Token :=
    .number (String.ofList text) (xsd (if point.isEmpty then "integer" else "decimal"))

private def tagSubtags (fuel : Nat) (text : List Char) : List Char × List Char :=
  match fuel, text with
  | fuel + 1, '-' :: rest =>
    let subtag := rest.takeWhile Char.isAlphanum
    if subtag.isEmpty then ([], text)
    else
      let (tag, rest) := tagSubtags fuel (rest.drop subtag.length)
      ('-' :: subtag ++ tag, rest)
  | _, text => ([], text)

private def tagToken (text : List Char) : Reading Token :=
  let primary := text.takeWhile Char.isAlpha
  if primary.isEmpty then none
  else
    let (subtags, rest) := tagSubtags text.length (text.drop primary.length)
    some (.tag (String.ofList (primary ++ subtags)), rest)

private def skipBlanks (inComment : Bool) : List Char → List Char
  | [] => []
  | c :: rest =>
    if c == '\n' || c == '\r' then skipBlanks false rest
    else if inComment then skipBlanks true rest
    else if c == ' ' || c == '\t' then skipBlanks false rest
    else if c == '#' then skipBlanks true rest
    else c :: rest

/-- The token that a text begins with. -/
def readToken (text : List Char) : Reading Token :=
  match text with
  | [] => none
  | '<' :: rest => (iriBody (rest.length + 1) [] rest).map fun (iri, rest) => (.iri iri, rest)
  | '"' :: rest => stringToken '"' rest
  | '\'' :: rest => stringToken '\'' rest
  | '@' :: rest => tagToken rest
  | '_' :: ':' :: rest => blankToken rest
  | ';' :: rest => some (.mark .semicolon, rest)
  | ',' :: rest => some (.mark .comma, rest)
  | '[' :: rest => some (.mark .openBracket, rest)
  | ']' :: rest => some (.mark .closeBracket, rest)
  | '(' :: rest => some (.mark .openParen, rest)
  | ')' :: rest => some (.mark .closeParen, rest)
  | '^' :: '^' :: rest => some (.mark .datatype, rest)
  | '.' :: rest =>
    if rest.head?.any Char.isDigit then numberToken text else some (.mark .dot, rest)
  | c :: _ => if c.isDigit || c == '+' || c == '-' then numberToken text else nameToken text

private def tokensWithin (fuel : Nat) (text : List Char) : Option (List Token) :=
  match fuel with
  | 0 => none
  | fuel + 1 =>
    match skipBlanks false text with
    | [] => some []
    | text =>
      match readToken text with
      | none => none
      | some (token, rest) => (tokensWithin fuel rest).map (token :: ·)

/-- The tokens of a document, or nothing if some text is no token. -/
def tokens (text : String) : Option (List Token) :=
  tokensWithin (text.length + 1) text.toList

end TermBind.Turtle
