import TermBind.Data.Value

/-! The strings, numbers and dates of TOML. Of numbers and dates only their extent is read, since no
setting holds one. -/
namespace TermBind.Toml

def isBlank (c : Char) : Bool := c == ' ' || c == '\t'

/-- Characters that may stand in comments and in strings that are not escaped. -/
def isPlain (c : Char) : Bool := c == '\t' || (0x20 ≤ c.toNat && c.toNat ≠ 0x7f)

private def hexDigit? (c : Char) : Option Nat :=
  if c.isDigit then some (c.toNat - 48)
  else if 'a' ≤ c && c ≤ 'f' then some (c.toNat - 87)
  else if 'A' ≤ c && c ≤ 'F' then some (c.toNat - 55)
  else none

/-- The character of a number in hexadecimal digits; halves of surrogate pairs are none. -/
private def codePoint? (digits : List Char) : Option Char := do
  let value ← digits.foldlM (fun value c => (hexDigit? c).map fun digit => 16 * value + digit) 0
  if value.isValidChar then some (Char.ofNat value) else none

private def escaped? : Char → Option Char
  | '"' => some '"'
  | '\\' => some '\\'
  | 'b' => some '\x08'
  | 'f' => some '\x0c'
  | 'n' => some '\n'
  | 'r' => some '\r'
  | 't' => some '\t'
  | _ => none

/-- A character written with a backslash, which comes before the text. -/
private def escape? : List Char → Option (Char × List Char)
  | 'u' :: a :: b :: c :: d :: rest => (codePoint? [a, b, c, d]).map (·, rest)
  | 'U' :: a :: b :: c :: d :: e :: f :: g :: h :: rest =>
    (codePoint? [a, b, c, d, e, f, g, h]).map (·, rest)
  | c :: rest => (escaped? c).map (·, rest)
  | [] => none

private def basicFrom (fuel : Nat) (read : List Char) (text : List Char) :
    Option (String × List Char) :=
  match fuel, text with
  | fuel + 1, '\\' :: rest => do
    let (c, rest) ← escape? rest
    basicFrom fuel (c :: read) rest
  | _, '"' :: rest => some (String.ofList read.reverse, rest)
  | fuel + 1, c :: rest => if isPlain c then basicFrom fuel (c :: read) rest else none
  | _, _ => none

/-- A string after its opening quote. -/
def basicString? (text : List Char) : Option (String × List Char) := basicFrom text.length [] text

/-- A string without escapes, after its opening quote. -/
def literalString? (text : List Char) : Option (String × List Char) :=
  match text.span fun c => isPlain c && c ≠ '\'' with
  | (read, '\'' :: rest) => some (String.ofList read, rest)
  | _ => none

/-- A line break at the start of a text. -/
def afterBreak? : List Char → Option (List Char)
  | '\n' :: rest => some rest
  | '\r' :: '\n' :: rest => some rest
  | _ => none

/-- The closing quotes of a string over several lines; up to two more belong to its text. -/
private def closing? (quote : Char) (text : List Char) : Option (List Char × List Char) :=
  let count := (text.takeWhile (· == quote)).length
  if count < 3 then none
  else
    let kept := min (count - 3) 2
    some (List.replicate kept quote, text.drop (kept + 3))

private def skipLines (text : List Char) : Nat → List Char
  | 0 => text
  | fuel + 1 =>
    match afterBreak? text, text with
    | some rest, _ => skipLines rest fuel
    | none, c :: rest => if isBlank c then skipLines rest fuel else text
    | none, [] => []

/-- The text after a backslash at the end of a line, less the blanks that follow. -/
private def afterContinuation? (text : List Char) : Option (List Char) :=
  (afterBreak? (text.dropWhile isBlank)).map fun rest => skipLines rest rest.length

private def linesFrom (quote : Char) (fuel : Nat) (read : List Char) (text : List Char) :
    Option (String × List Char) :=
  match fuel with
  | 0 => none
  | fuel + 1 =>
    match closing? quote text, afterBreak? text, text with
    | some (kept, rest), _, _ => some (String.ofList (read.reverse ++ kept), rest)
    | none, some rest, _ => linesFrom quote fuel ('\n' :: read) rest
    | none, none, '\\' :: rest =>
      if quote = '"' then
        match afterContinuation? rest, escape? rest with
        | some rest, _ => linesFrom quote fuel read rest
        | none, some (c, rest) => linesFrom quote fuel (c :: read) rest
        | none, none => none
      else linesFrom quote fuel ('\\' :: read) rest
    | none, none, c :: rest => if isPlain c then linesFrom quote fuel (c :: read) rest else none
    | none, none, [] => none

/-- A string over several lines, after its opening quotes; a line break right there is left out. -/
private def lines? (quote : Char) (text : List Char) : Option (String × List Char) :=
  linesFrom quote (text.length + 1) [] ((afterBreak? text).getD text)

def string? : List Char → Option (String × List Char)
  | '"' :: '"' :: '"' :: rest => lines? '"' rest
  | '"' :: rest => basicString? rest
  | '\'' :: '\'' :: '\'' :: rest => lines? '\'' rest
  | '\'' :: rest => literalString? rest
  | _ => none

private def afterSign : List Char → List Char
  | '+' :: rest => rest
  | '-' :: rest => rest
  | text => text

/-- Digits in groups with single underscores between them. -/
private def digitGroups? (isDigit : Char → Bool) : List Char → Option (List Char × List Char)
  | '_' :: _ => none
  | text =>
    let rec go : List Char → List Char × List Char
      | '_' :: c :: rest =>
        if isDigit c then
          let (read, rest) := go rest
          (c :: read, rest)
        else ([], '_' :: c :: rest)
      | c :: rest =>
        if isDigit c then
          let (read, rest) := go rest
          (c :: read, rest)
        else ([], c :: rest)
      | [] => ([], [])
    match go text with
    | ([], _) => none
    | read => some read

/-- A decimal number with no zero in front. -/
private def whole? (text : List Char) : Option (List Char × List Char) :=
  match afterSign text with
  | '0' :: rest => some (['0'], rest)
  | text => digitGroups? Char.isDigit text

private def valueOf (base : Nat) (digits : List Char) : Nat :=
  digits.foldl (fun value c => base * value + (hexDigit? c).getD 0) 0

private def inBase? (base : Nat) (isDigit : Char → Bool) (text : List Char) : Option (List Char) := do
  let (digits, rest) ← digitGroups? isDigit text
  if valueOf base digits < Nat.pow 2 63 then rest else none

private def integer? : List Char → Option (List Char)
  | '0' :: 'x' :: rest => inBase? 16 (fun c => (hexDigit? c).isSome) rest
  | '0' :: 'o' :: rest => inBase? 8 (fun c => '0' ≤ c && c ≤ '7') rest
  | '0' :: 'b' :: rest => inBase? 2 (fun c => c == '0' || c == '1') rest
  | text => do
    let (digits, rest) ← whole? text
    let bound := if text.head? == some '-' then Nat.pow 2 63 + 1 else Nat.pow 2 63
    if valueOf 10 digits < bound then rest else none

private def afterPoint? : List Char → Option (List Char × List Char)
  | '.' :: rest => digitGroups? Char.isDigit rest
  | _ => none

private def exponent? : List Char → Option (Int × List Char)
  | c :: rest =>
    if c == 'e' || c == 'E' then
      (digitGroups? Char.isDigit (afterSign rest)).map fun (digits, after) =>
        let value : Int := valueOf 10 digits
        (if rest.head? == some '-' then -value else value, after)
    else none
  | [] => none

/-- Whether digits times a power of ten round to a double, which must be below 2^1024 - 2^970. -/
private def isFinite (digits : List Char) (power : Int) : Bool :=
  let value := valueOf 10 digits
  let size : Int := (Nat.toDigits 10 value).length + power
  let bound := Nat.pow 2 1024 - Nat.pow 2 970
  let scale := Nat.pow 10 power.natAbs
  value == 0 || size < 300 ||
    (size < 320 && (if power < 0 then value < bound * scale else value * scale < bound))

/-- A number with a point or an exponent; a positive one must not be too large. -/
private def float? (text : List Char) : Option (List Char) := do
  let (whole, rest) ← whole? text
  let (fraction, rest) ← match afterPoint? rest, exponent? rest with
    | some read, _ => some read
    | none, some _ => some ([], rest)
    | none, none => none
  let (power, rest) := (exponent? rest).getD (0, rest)
  if text.head? == some '-' || isFinite (whole ++ fraction) (power - fraction.length) then rest
  else none

private def special? (text : List Char) : Option (List Char) :=
  match afterSign text with
  | 'i' :: 'n' :: 'f' :: rest => some rest
  | 'n' :: 'a' :: 'n' :: rest => some rest
  | _ => none

/-- A number of so many digits. -/
private def fixed? (count : Nat) (text : List Char) : Option (Nat × List Char) :=
  let digits := text.take count
  if digits.length = count && digits.all Char.isDigit then some (valueOf 10 digits, text.drop count)
  else none

private def after? (mark : Char) : List Char → Option (List Char)
  | c :: rest => if c = mark then some rest else none
  | [] => none

private def daysIn (year month : Nat) : Nat :=
  if month = 2 then
    if (year % 4 = 0 && year % 100 ≠ 0) || year % 400 = 0 then 29 else 28
  else if [4, 6, 9, 11].contains month then 30
  else 31

private def date? (text : List Char) : Option (List Char) := do
  let (year, rest) ← fixed? 4 text
  let (month, rest) ← fixed? 2 (← after? '-' rest)
  let (day, rest) ← fixed? 2 (← after? '-' rest)
  if 1 ≤ month && month ≤ 12 && 1 ≤ day && day ≤ daysIn year month then rest else none

private def hourAndMinute? (text : List Char) : Option (List Char) := do
  let (hour, rest) ← fixed? 2 text
  let (minute, rest) ← fixed? 2 (← after? ':' rest)
  if hour < 24 && minute < 60 then rest else none

private def time? (text : List Char) : Option (List Char) := do
  let rest ← hourAndMinute? text
  let (second, rest) ← fixed? 2 (← after? ':' rest)
  if 60 < second then none
  match rest with
  | '.' :: c :: digits =>
    if c.isDigit then some (digits.dropWhile Char.isDigit) else some rest
  | _ => some rest

private def afterOffset : List Char → List Char
  | 'Z' :: rest => rest
  | 'z' :: rest => rest
  | '+' :: rest => (hourAndMinute? rest).getD ('+' :: rest)
  | '-' :: rest => (hourAndMinute? rest).getD ('-' :: rest)
  | text => text

private def moment? (text : List Char) : Option (List Char) :=
  match date? text with
  | some (c :: rest) =>
    if c == 'T' || c == 't' || c == ' ' then
      match time? rest with
      | some rest => some (afterOffset rest)
      | none => some (c :: rest)
    else some (c :: rest)
  | some [] => some []
  | none => time? text

/-- What follows a date, a time or a number. -/
def afterNumber? (text : List Char) : Option (List Char) :=
  (moment? text).or ((float? text).or ((special? text).or (integer? text)))

end TermBind.Toml
