import TermBind.Url.Address
import TermBind.Url.Domain.Direction
import TermBind.Url.Domain.Joining
import TermBind.Url.Domain.Mapping

/-! Domain names: replacement of characters, decoding of encoded labels, and the rules on labels. -/
namespace TermBind.Url.Domain

/-- Decoding of an encoded label: digits add up to the place and the code of one more character. -/
structure Decoder where
  output : List Char
  code : Nat := 128
  index : Nat := 0
  bias : Nat := 72
  start : Nat := 0
  weight : Nat := 1
  step : Nat := 36

namespace Decoder

def digit? (c : Char) : Option Nat :=
  if c.isDigit then some (c.toNat - 48 + 26)
  else if c.isAlpha then some (c.toLower.toNat - 97)
  else none

private def shrink (delta : Nat) : Nat :=
  if 455 < delta then 36 + shrink (delta / 35) else 36 * delta / (delta + 38)
termination_by delta
decreasing_by omega

def adapt (delta count : Nat) (first : Bool) : Nat :=
  let scaled := if first then delta / 700 else delta / 2
  shrink (scaled + scaled / count)

/-- Take one digit; below the threshold it ends a number and a character is put in. -/
def take (decoder : Decoder) (c : Char) : Option Decoder := do
  let digit ← digit? c
  let index := decoder.index + digit * decoder.weight
  let threshold :=
    if decoder.step ≤ decoder.bias then 1 else min 26 (decoder.step - decoder.bias)
  if digit < threshold then
    let count := decoder.output.length + 1
    let code := decoder.code + index / count
    let place := index % count
    if code ≤ 0x10ffff && !(0xd800 ≤ code && code ≤ 0xdfff) then
      some
        { output := decoder.output.take place ++ Char.ofNat code :: decoder.output.drop place
          code
          index := place + 1
          bias := adapt (index - decoder.start) count (decoder.start == 0)
          start := place + 1 }
    else none
  else
    some
      { decoder with
        index
        weight := decoder.weight * (36 - threshold)
        step := decoder.step + 36 }

def isComplete (decoder : Decoder) : Bool := decoder.weight == 1 && decoder.step == 36

end Decoder

/-- The characters that an encoded label, given without its mark, stands for. -/
def decode? (label : List Char) : Option (List Char) := do
  let reversed := label.reverse
  let basic := ((reversed.dropWhile (· ≠ '-')).drop 1).reverse
  let digits := if basic.isEmpty then label else (reversed.takeWhile (· ≠ '-')).reverse
  let decoder ← digits.foldlM Decoder.take { output := basic }
  if decoder.isComplete then some decoder.output else none

/-- Characters that no domain name holds, also not after replacement. -/
def isForbidden (c : Char) : Bool :=
  c.toNat ≤ 32 || c.toNat == 127 || "%#/:<>?@[\\]^|".toList.contains c

def isPlain (label : List Char) : Bool := label.all fun c => c.toNat < 128

/-- A label in characters of its own, decoded if it was written in code. -/
def plainLabel? : List Char → Option (List Char)
  | 'x' :: 'n' :: '-' :: '-' :: encoded =>
    if isPlain encoded then
      match decode? encoded with
      | some label => if !isPlain label && label.all isStable then some label else none
      | none => none
    else none
  | label => some label

private def isWellFormed (label : List Char) : Bool :=
  isPlain label || (label.head?.all (fun c => !isMark c) && joinersPlaced [] label)

/-- The name that text stands for, or nothing if it is no domain name. -/
def ofText? (text : List Char) : Option (List Char) := do
  if text.any isDisallowed then none
  let name := text.flatMap replacement
  if name.any isForbidden then none
  let labels ← (name.splitOn '.').mapM plainLabel?
  let mixed := labels.any fun label => label.any fun c => isRightward (direction c)
  if labels.all fun label => isWellFormed label && (!mixed || label.isEmpty || keepsDirection label)
  then some name
  else none

end TermBind.Url.Domain
