import TermBind.Source.Token
import TermBind.Url.Address

/-! Literals: how far each kind reaches in a text, and the values they stand for. -/
namespace TermBind.Source

def suffix (read : Taken) : Taken := (plainIdentifier? read.1 read.2).getD read

inductive StringKind where
  | text
  | bytes
  | terminated
deriving DecidableEq, Repr

namespace Quotation

/-- How the next character of a quotation is read. -/
inductive Mode where
  | plain
  | escape
  | hexFirst
  | hexSecond (high : Nat)
  | brace
  | digits (value count : Nat)
  | lineFeed
  | skipping (afterReturn : Bool)
deriving DecidableEq, Repr

inductive Step where
  | reject
  | close
  | next (mode : Mode) (decoded : Option Char)

private def plainStep (kind : StringKind) (c : Char) : Step :=
  if c = '"' then .close
  else if c = '\r' then .next .lineFeed none
  else if c = '\\' then .next .escape none
  else if kind = .bytes && 128 ≤ c.toNat then .reject
  else if kind = .terminated && c.toNat = 0 then .reject
  else .next .plain (some c)

private def escapeStep (kind : StringKind) (c : Char) : Step :=
  match c with
  | 'n' => .next .plain (some '\n')
  | 'r' => .next .plain (some '\r')
  | 't' => .next .plain (some '\t')
  | '\\' => .next .plain (some '\\')
  | '\'' => .next .plain (some '\'')
  | '"' => .next .plain (some '"')
  | '0' => if kind = .terminated then .reject else .next .plain (some '\x00')
  | 'x' => .next .hexFirst none
  | 'u' => if kind = .bytes then .reject else .next .brace none
  | '\n' => .next (.skipping false) none
  | '\r' => .next (.skipping true) none
  | _ => .reject

private def finish (kind : StringKind) (value : Nat) : Step :=
  if kind = .terminated && value = 0 then .reject
  else if 0x10ffff < value || (0xd800 ≤ value && value ≤ 0xdfff) then .reject
  else .next .plain (some (Char.ofNat value))

/-- Read one character. An escaped line break swallows the blanks after it. -/
def step (kind : StringKind) (mode : Mode) (c : Char) : Step :=
  match mode with
  | .plain => plainStep kind c
  | .escape => escapeStep kind c
  | .hexFirst =>
    if kind = .text && !('0' ≤ c && c ≤ '7') then .reject
    else if Url.isHexDigit c then .next (.hexSecond (Url.hexValue c)) none
    else .reject
  | .hexSecond high =>
    if Url.isHexDigit c then finish kind (high * 16 + Url.hexValue c) else .reject
  | .brace => if c = '{' then .next (.digits 0 0) none else .reject
  | .digits value count =>
    if Url.isHexDigit c then
      if count = 6 then .reject else .next (.digits (value * 16 + Url.hexValue c) (count + 1)) none
    else if count = 0 then .reject
    else if c = '_' then .next (.digits value count) none
    else if c = '}' then finish kind value
    else .reject
  | .lineFeed => if c = '\n' then .next .plain (some '\n') else .reject
  | .skipping true => if c = '\n' then .next (.skipping false) none else .reject
  | .skipping false =>
    if c = '\r' then .next (.skipping true) none
    else if c = ' ' || c = '\t' || c = '\n' then .next (.skipping false) none
    else plainStep kind c

/-- Read up to the closing quote: the text, what it stands for, and what follows. -/
def body? (kind : StringKind) (mode : Mode) (taken decoded : List Char) :
    List Char → Option (Taken × List Char)
  | [] => none
  | c :: rest =>
    match step kind mode c with
    | .reject => none
    | .close => some ((c :: taken, rest), decoded)
    | .next mode value => body? kind mode (c :: taken) (value.toList ++ decoded) rest

/-- Read the rest of one escape. -/
def escape? (kind : StringKind) (mode : Mode) (taken : List Char) :
    List Char → Option (Taken × Char)
  | [] => none
  | c :: rest =>
    match step kind mode c with
    | .next (.skipping _) _ => none
    | .next .plain (some value) => some ((c :: taken, rest), value)
    | .next mode none => escape? kind mode (c :: taken) rest
    | _ => none

/-- Read raw text up to a quote with the hashes of the opening one. -/
def rawBody? (kind : StringKind) (hashes : List Char) (taken : List Char) : List Char → Option Taken
  | [] => none
  | c :: rest =>
    if c = '"' && hashes.isPrefixOf rest then
      some (hashes ++ c :: taken, rest.drop hashes.length)
    else if c = '\r' then
      match rest with
      | '\n' :: rest => rawBody? kind hashes ('\n' :: '\r' :: taken) rest
      | _ => none
    else if kind = .bytes && 128 ≤ c.toNat then none
    else if kind = .terminated && c.toNat = 0 then none
    else rawBody? kind hashes (c :: taken) rest

end Quotation

private def rawString? (kind : StringKind) (taken text : List Char) : Option Taken :=
  let hashes := text.takeWhile (· = '#')
  match text.drop hashes.length with
  | '"' :: rest =>
    if hashes.length ≤ 255 then
      (Quotation.rawBody? kind hashes ('"' :: hashes ++ taken) rest).map suffix
    else none
  | _ => none

private def cookedString? (kind : StringKind) (taken text : List Char) : Option Taken :=
  (Quotation.body? kind .plain ('"' :: taken) [] text).map fun read => suffix read.1

private def closed? (read : Taken) : Option Taken :=
  match read.2 with
  | '\'' :: rest => some (suffix ('\'' :: read.1, rest))
  | _ => none

private def character? (kind : StringKind) (taken : List Char) : List Char → Option Taken
  | [] => none
  | '\\' :: rest =>
    (Quotation.escape? kind .escape ('\\' :: taken) rest).bind fun read => closed? read.1
  | c :: rest => if kind = .bytes && 128 ≤ c.toNat then none else closed? (c :: taken, rest)

private def isNumberDigit (c : Char) : Bool := c.isDigit || c == '_'

/-- Digits and at most one point, up to an exponent mark. -/
private def floatHead? (taken : List Char) (hasPoint : Bool) :
    List Char → Option (Taken × Bool × Bool)
  | [] => some ((taken, []), hasPoint, false)
  | c :: rest =>
    if isNumberDigit c then floatHead? (c :: taken) hasPoint rest
    else if c = '.' then
      if hasPoint then some ((taken, c :: rest), hasPoint, false)
      else if rest.head?.any fun next => next == '.' || isIdentifierStart next then none
      else floatHead? (c :: taken) true rest
    else if c = 'e' || c = 'E' then some ((c :: taken, rest), hasPoint, true)
    else some ((taken, c :: rest), hasPoint, false)

/-- Sign and digits of an exponent, or nothing if it has no digit or two signs. -/
private def exponentTail? (taken : List Char) (hasSign hasDigit : Bool) : List Char → Option Taken
  | [] => if hasDigit then some (taken, []) else none
  | c :: rest =>
    if (c = '+' || c = '-') && !hasDigit then
      if hasSign then none else exponentTail? (c :: taken) true hasDigit rest
    else if c.isDigit then exponentTail? (c :: taken) hasSign true rest
    else if c = '_' then exponentTail? (c :: taken) hasSign hasDigit rest
    else if hasDigit then some (taken, c :: rest)
    else none

private def floatDigits? (text : List Char) : Option Taken :=
  if !text.head?.any Char.isDigit then none
  else
    match floatHead? [] false text with
    | none => none
    | some (read, hasPoint, false) => if hasPoint then some read else none
    | some ((taken, rest), hasPoint, true) =>
      match exponentTail? taken false false rest with
      | some read => some read
      | none =>
        match taken with
        | mark :: before => if hasPoint then some (before, mark :: rest) else none
        | [] => none

private def digitValue? (base : Nat) (c : Char) : Option Nat :=
  if Url.isHexDigit c && (c.isDigit || Url.hexValue c < base) then some (Url.hexValue c) else none

private def intTail? (base : Nat) (taken : List Char) (isEmpty : Bool) : List Char → Option Taken
  | [] => if isEmpty then none else some (taken, [])
  | c :: rest =>
    if c = '_' then
      if isEmpty && base = 10 then none else intTail? base (c :: taken) isEmpty rest
    else
      match digitValue? base c with
      | some value => if value < base then intTail? base (c :: taken) false rest else none
      | none => if isEmpty then none else some (taken, c :: rest)

private def intDigits? : List Char → Option Taken
  | '0' :: 'x' :: rest => intTail? 16 ['x', '0'] true rest
  | '0' :: 'o' :: rest => intTail? 8 ['o', '0'] true rest
  | '0' :: 'b' :: rest => intTail? 2 ['b', '0'] true rest
  | text => intTail? 10 [] true text

/-- A number ends where no identifier could go on. -/
private def bounded? (read : Taken) : Option Taken :=
  let read := suffix read
  if read.2.head?.any isIdentifierRest then none else some read

private def quoted? (text : List Char) : Option Taken :=
  match text with
  | '"' :: rest => cookedString? .text [] rest
  | 'r' :: rest => rawString? .text ['r'] rest
  | 'b' :: '"' :: rest => cookedString? .bytes ['b'] rest
  | 'b' :: 'r' :: rest => rawString? .bytes ['r', 'b'] rest
  | 'c' :: '"' :: rest => cookedString? .terminated ['c'] rest
  | 'c' :: 'r' :: rest => rawString? .terminated ['r', 'c'] rest
  | 'b' :: '\'' :: rest => character? .bytes ['\'', 'b'] rest
  | '\'' :: rest => character? .text ['\''] rest
  | _ => none

/-- The literal that a text begins with. -/
def literal? (text : List Char) : Option Taken :=
  (quoted? text).or (((floatDigits? text).bind bounded?).or ((intDigits? text).bind bounded?))

section Unquoted

variable {text : List Char}

private theorem rawString?_eq_none (kind : StringKind) (taken : List Char) (unquoted : '"' ∉ text) :
    rawString? kind taken text = none := by
  rw [rawString?]
  split
  · rename_i rest found
    have within : '"' ∈ text.drop (text.takeWhile (· = '#')).length := by
      rw [found]
      exact List.mem_cons_self
    exact absurd (List.mem_of_mem_drop within) unquoted
  · rfl

private theorem quoted?_eq_none (unquoted : '"' ∉ text) (unmarked : '\'' ∉ text) : quoted? text = none := by
  unfold quoted?
  split
  · simp at unquoted
  · exact rawString?_eq_none _ _ fun member => unquoted (by simp [member])
  · simp at unquoted
  · exact rawString?_eq_none _ _ fun member => unquoted (by simp [member])
  · simp at unquoted
  · exact rawString?_eq_none _ _ fun member => unquoted (by simp [member])
  · simp at unmarked
  · simp at unmarked
  · rfl

/-- The letters among hexadecimal digits stand for ten or more. -/
private theorem digitValue?_ten {c : Char} (other : c.isDigit = false) : digitValue? 10 c = none := by
  have large : Url.isHexDigit c = true → 10 ≤ Url.hexValue c := by
    intro hex
    simp only [Url.isHexDigit, other, Bool.false_or, Bool.or_eq_true, Bool.and_eq_true,
      decide_eq_true_eq, Char.le_def, UInt32.le_iff_toNat_le] at hex
    simp only [Url.hexValue, other, Bool.false_eq_true, if_false, Char.le_def, UInt32.le_iff_toNat_le]
    change 97 ≤ c.toNat ∧ c.toNat ≤ 102 ∨ 65 ≤ c.toNat ∧ c.toNat ≤ 70 at hex
    change 10 ≤ if 97 ≤ c.toNat then c.toNat - 87 else c.toNat - 55
    split <;> omega
  rw [digitValue?, if_neg]
  simp only [other, Bool.false_or, Bool.and_eq_true, decide_eq_true_eq, not_and, Nat.not_lt]
  exact large

private theorem intDigits?_eq_none (digitless : ∀ c ∈ text.head?, c.isDigit = false) :
    intDigits? text = none := by
  unfold intDigits?
  split
  · exact absurd (digitless '0' rfl) (by decide)
  · exact absurd (digitless '0' rfl) (by decide)
  · exact absurd (digitless '0' rfl) (by decide)
  cases text with
  | nil => rfl
  | cons c rest =>
    rw [intTail?, digitValue?_ten (digitless c rfl)]
    simp

/-- Without quotation marks, a text begins with a literal only if it begins with a digit. -/
theorem literal?_eq_none (digitless : ∀ c ∈ text.head?, c.isDigit = false) (unquoted : '"' ∉ text)
    (unmarked : '\'' ∉ text) : literal? text = none := by
  have first : text.head?.any Char.isDigit = false := by
    cases text with
    | nil => rfl
    | cons c rest => exact digitless c rfl
  rw [literal?, quoted?_eq_none unquoted unmarked, intDigits?_eq_none digitless, floatDigits?, first]
  rfl

end Unquoted

/-- What kind of value a literal is, with the value as text where it has one. -/
inductive Literal where
  | string (value : String)
  | character (value : Char)
  | integer (digits suffix : String)
  | float (digits : String)
  | other
deriving DecidableEq, Repr

namespace Literal

private def isSuffix : List Char → Bool
  | [] => true
  | c :: rest => isIdentifierStart c && rest.all isIdentifierRest

/-- Whether a suffix that begins like an exponent is one. -/
private def exponentFollows (hasDigit : Bool) : List Char → Bool
  | [] => hasDigit
  | c :: rest =>
    if c = '_' then exponentFollows hasDigit rest
    else if c = '+' || c = '-' then true
    else if c.isDigit then exponentFollows true rest
    else hasDigit && isSuffix (c :: rest)

/-- The value of the digits and the suffix after them. -/
private def integerValue? (base value : Nat) (hasDigit : Bool) :
    List Char → Option (Nat × List Char)
  | [] => if hasDigit then some (value, []) else none
  | c :: rest =>
    if c = '_' then integerValue? base value hasDigit rest
    else if base = 10 && c = '.' then none
    else if base = 10 && (c = 'e' || c = 'E') then
      if exponentFollows false rest || !hasDigit || !isSuffix (c :: rest) then none
      else some (value, c :: rest)
    else
      match digitValue? (if base = 16 then 16 else 10) c with
      | some digit =>
        if digit < base then integerValue? base (value * base + digit) true rest else none
      | none => if hasDigit && isSuffix (c :: rest) then some (value, c :: rest) else none

private def integer? : List Char → Option (Nat × List Char)
  | '0' :: 'x' :: rest => integerValue? 16 0 false rest
  | '0' :: 'o' :: rest => integerValue? 8 0 false rest
  | '0' :: 'b' :: rest => integerValue? 2 0 false rest
  | text => integerValue? 10 0 false text

/-- The digits of a float: no separators, no plus sign, a small exponent mark. -/
private def floatText? (hasPoint hasMark hasSign hasExponent : Bool) :
    List Char → Option (List Char)
  | [] => if hasMark && !hasExponent then none else some []
  | c :: rest =>
    let stop := if (hasMark && !hasExponent) || !isSuffix (c :: rest) then none else some []
    if c = '_' then floatText? hasPoint hasMark hasSign hasExponent rest
    else if c.isDigit then
      (floatText? hasPoint hasMark hasSign (hasExponent || hasMark) rest).map (c :: ·)
    else if c = '.' then
      if hasPoint || hasMark then none
      else (floatText? true hasMark hasSign hasExponent rest).map (c :: ·)
    else if c = 'e' || c = 'E' then
      let next := (rest.dropWhile (· = '_')).head?
      if !next.any fun next => next.isDigit || next == '+' || next == '-' then stop
      else if hasMark then (if hasExponent then stop else none)
      else (floatText? hasPoint true hasSign hasExponent rest).map ('e' :: ·)
    else if c = '+' || c = '-' then
      if hasSign || hasExponent || !hasMark then none
      else
        let digits := floatText? hasPoint hasMark true hasExponent rest
        if c = '-' then digits.map (c :: ·) else digits
    else stop

private def number (text : List Char) : Literal :=
  let (sign, digits) := match text with
    | '-' :: digits => ("-", digits)
    | digits => ("", digits)
  match integer? digits, floatText? false false false false digits with
  | some (value, suffix), _ => .integer (sign ++ toString value) (String.ofList suffix)
  | _, some value => .float (sign ++ String.ofList value)
  | _, none => .other

private def rawValue (text : List Char) : List Char :=
  ((((text.dropWhile (· ≠ '"')).drop 1).reverse.dropWhile (· ≠ '"')).drop 1).reverse

/-- The value written by the text of a literal. -/
def ofText (text : String) : Literal :=
  match text.toList with
  | '"' :: rest =>
    match Quotation.body? .text .plain [] [] rest with
    | some (_, decoded) => .string (String.ofList decoded.reverse)
    | none => .other
  | 'r' :: rest => .string (String.ofList (rawValue rest))
  | '\'' :: '\\' :: rest =>
    match Quotation.escape? .text .escape [] rest with
    | some (_, value) => .character value
    | none => .other
  | '\'' :: c :: _ => .character c
  | c :: rest => if c.isDigit || c == '-' then number (c :: rest) else .other
  | [] => .other

end Literal
end TermBind.Source
