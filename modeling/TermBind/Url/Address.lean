/-! Internet addresses as they may be written in the host part of a URL. -/
namespace TermBind.Url

def isHexDigit (c : Char) : Bool :=
  c.isDigit || ('a' ≤ c && c ≤ 'f') || ('A' ≤ c && c ≤ 'F')

def hexValue (c : Char) : Nat :=
  if c.isDigit then c.toNat - 48 else if 'a' ≤ c then c.toNat - 87 else c.toNat - 55

def numberIn (radix : Nat) (digits : List Char) : Nat :=
  digits.foldl (fun total digit => total * radix + hexValue digit) 0

namespace Ipv4

/-- One part of a dotted address: hexadecimal after `0x`, octal after a zero, else decimal. -/
def number? (text : List Char) : Option Nat :=
  match text with
  | [] => none
  | '0' :: x :: digits =>
    if x = 'x' || x = 'X' then
      if digits.all isHexDigit then some (numberIn 16 digits) else none
    else
      let digits := x :: digits
      if digits.all (fun c => '0' ≤ c && c ≤ '7') then some (numberIn 8 digits) else none
  | digits => if digits.all Char.isDigit then some (numberIn 10 digits) else none

private def withoutLastEmpty (parts : List (List Char)) : List (List Char) :=
  if parts.getLast? = some [] && 1 < parts.length then parts.dropLast else parts

/-- A host whose last part is a number is read as an address or not at all. -/
def endsInNumber (host : List Char) : Bool :=
  match (withoutLastEmpty (host.splitOn '.')).getLast? with
  | none => false
  | some last => (!last.isEmpty && last.all Char.isDigit) || (number? last).isSome

def isValid (host : List Char) : Bool :=
  let parts := withoutLastEmpty (host.splitOn '.')
  match parts.mapM number? with
  | none => false
  | some numbers =>
    match numbers.reverse with
    | [] => false
    | last :: earlier =>
      numbers.length ≤ 4 && earlier.all (· ≤ 255) && last < Nat.pow 256 (5 - numbers.length)

end Ipv4

namespace Ipv6

private def octet? (digits : List Char) : Bool :=
  match digits with
  | [] => false
  | ['0'] => true
  | '0' :: _ => false
  | _ => digits.all Char.isDigit && numberIn 10 digits ≤ 255

private def isDotted (text : List Char) : Bool :=
  let parts := text.splitOn '.'
  parts.length == 4 && parts.all octet?

/-- Read pieces from `count` on; `compressed` says whether the double colon has been seen. -/
def validFrom (fuel count : Nat) (compressed : Bool) (text : List Char) : Bool :=
  match fuel, text with
  | 0, _ => false
  | _, [] => compressed || count == 8
  | fuel + 1, text =>
    if count == 8 then false
    else
      match text with
      | ':' :: rest => if compressed then false else validFrom fuel (count + 1) true rest
      | _ =>
        let piece := (text.take 4).takeWhile isHexDigit
        match text.drop piece.length with
        | [] => validFrom fuel (count + 1) compressed []
        | '.' :: _ =>
          !piece.isEmpty && count ≤ 6 && isDotted text && (compressed || count == 6)
        | ':' :: rest => !rest.isEmpty && validFrom fuel (count + 1) compressed rest
        | _ => false

def isValid (text : List Char) : Bool :=
  match text with
  | ':' :: ':' :: rest => validFrom (rest.length + 2) 1 true rest
  | [] | [_] => false
  | ':' :: _ => false
  | _ => validFrom (text.length + 2) 0 false text

end Ipv6
end TermBind.Url
