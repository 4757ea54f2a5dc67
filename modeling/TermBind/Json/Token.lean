import TermBind.Data.Value

/-! The tokens of JSON texts. -/
namespace TermBind.Json

open Data

inductive Token where
  | beginList
  | endList
  | beginRecord
  | endRecord
  | colon
  | comma
  | scalar (value : Value)
deriving Repr

def isBlank (c : Char) : Bool := c == ' ' || c == '\n' || c == '\t' || c == '\r'

def hexValue? (c : Char) : Option Nat :=
  if c.isDigit then some (c.toNat - 48)
  else if 'a' ≤ c && c ≤ 'f' then some (c.toNat - 87)
  else if 'A' ≤ c && c ≤ 'F' then some (c.toNat - 55)
  else none

def unit? (digits : List Char) : Option Nat :=
  digits.foldlM (fun value c => (hexValue? c).map fun digit => 16 * value + digit) 0

def escape? : Char → Option Char
  | '"' => some '"'
  | '\\' => some '\\'
  | '/' => some '/'
  | 'b' => some '\x08'
  | 'f' => some '\x0c'
  | 'n' => some '\n'
  | 'r' => some '\r'
  | 't' => some '\t'
  | _ => none

def isHigh (unit : Nat) : Bool := 0xd800 ≤ unit && unit < 0xdc00

def isLow (unit : Nat) : Bool := 0xdc00 ≤ unit && unit < 0xe000

/-- The code units of a string up to its closing quote: characters, and halves of pairs that were
written as escapes. -/
def units? : List Char → Option (List (Char ⊕ Nat) × List Char)
  | '"' :: rest => some ([], rest)
  | '\\' :: 'u' :: a :: b :: c :: d :: rest => do
    let unit ← unit? [a, b, c, d]
    let (units, rest) ← units? rest
    let first := if isHigh unit || isLow unit then .inr unit else .inl (Char.ofNat unit)
    return (first :: units, rest)
  | '\\' :: c :: rest => do
    let c ← escape? c
    let (units, rest) ← units? rest
    return (.inl c :: units, rest)
  | c :: rest => do
    if c.toNat < 0x20 || c == '\\' then none
    let (units, rest) ← units? rest
    return (.inl c :: units, rest)
  | [] => none

/-- The characters of code units; half of a pair is none. -/
def chars? : List (Char ⊕ Nat) → Option (List Char)
  | [] => some []
  | .inl c :: rest => (chars? rest).map (c :: ·)
  | .inr high :: .inr low :: rest =>
    if isHigh high && isLow low then
      (chars? rest).map (Char.ofNat (0x10000 + (high - 0xd800) * 0x400 + (low - 0xdc00)) :: ·)
    else none
  | .inr _ :: _ => none

def digits (text : List Char) : List Char × List Char := text.span Char.isDigit

/-- The digits after a point. -/
def fraction? : List Char → Option (List Char × Bool)
  | '.' :: rest =>
    match digits rest with
    | ([], _) => none
    | (_, rest) => some (rest, true)
  | rest => some (rest, false)

def exponent? : List Char → Option (List Char × Bool)
  | c :: rest =>
    if c == 'e' || c == 'E' then
      let rest := match rest with
        | '+' :: rest => rest
        | '-' :: rest => rest
        | rest => rest
      match digits rest with
      | ([], _) => none
      | (_, rest) => some (rest, true)
    else some (c :: rest, false)
  | [] => some ([], false)

/-- A number without a sign. Only natural numbers are kept. -/
def unsigned? (text : List Char) : Option (Value × List Char) := do
  let (whole, rest) := digits text
  if whole.isEmpty || (whole.head? == some '0' && 1 < whole.length) then none
  let (rest, hasFraction) ← fraction? rest
  let (rest, hasExponent) ← exponent? rest
  let value := whole.foldl (fun value c => 10 * value + (c.toNat - 48)) 0
  return (if hasFraction || hasExponent then .other else .natural value, rest)

def wordAfter? (word : String) (value : Value) (text : List Char) : Option (Token × List Char) :=
  if word.toList.isPrefixOf text then some (.scalar value, text.drop word.length) else none

/-- The token at the start of a text. -/
def token? : List Char → Option (Token × List Char)
  | '[' :: rest => some (.beginList, rest)
  | ']' :: rest => some (.endList, rest)
  | '\x7b' :: rest => some (.beginRecord, rest)
  | '\x7d' :: rest => some (.endRecord, rest)
  | ':' :: rest => some (.colon, rest)
  | ',' :: rest => some (.comma, rest)
  | '"' :: rest => do
    let (units, rest) ← units? rest
    return (.scalar ((chars? units).elim .other fun chars => .text (String.ofList chars)), rest)
  | '-' :: rest => (unsigned? rest).map fun read => (.scalar .other, read.2)
  | 'n' :: rest => wordAfter? "ull" .null rest
  | 't' :: rest => wordAfter? "rue" .other rest
  | 'f' :: rest => wordAfter? "alse" .other rest
  | text => (unsigned? text).map fun read => (.scalar read.1, read.2)

def tokensWithin (fuel : Nat) (text : List Char) : Option (List Token) :=
  match fuel with
  | 0 => none
  | fuel + 1 =>
    match text.dropWhile isBlank with
    | [] => some []
    | text => do
      let (token, rest) ← token? text
      return token :: (← tokensWithin fuel rest)

/-- The tokens of a text with blanks between them; every token takes a character. -/
def tokens? (text : List Char) : Option (List Token) := tokensWithin (text.length + 1) text

end TermBind.Json
