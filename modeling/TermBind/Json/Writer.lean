import TermBind.Data.Value

/-! Writing values as JSON. -/
namespace TermBind.Json

open Data

def escaped (c : Char) : List Char :=
  match c with
  | '"' => ['\\', '"']
  | '\\' => ['\\', '\\']
  | '\n' => ['\\', 'n']
  | '\r' => ['\\', 'r']
  | '\t' => ['\\', 't']
  | '\x08' => ['\\', 'b']
  | '\x0c' => ['\\', 'f']
  | c => if c.toNat < 0x20 then '\\' :: 'u' :: (Nat.toDigits 16 c.toNat).leftpad 4 '0' else [c]

def quoted (text : String) : List Char := '"' :: text.toList.flatMap escaped ++ ['"']

/-- What stands between values: a break before each at a depth, and the mark after a key. -/
structure Layout where
  lineBreak : Nat → List Char
  colon : List Char

def Layout.compact : Layout := ⟨fun _ => [], [':']⟩

/-- Two blanks for each level. -/
def Layout.pretty : Layout := ⟨fun depth => '\n' :: List.replicate (2 * depth) ' ', [':', ' ']⟩

/-- Write a value at a depth. Brackets with nothing inside stand together. -/
def write (layout : Layout) (depth : Nat) : Value → List Char
  | .natural value => Nat.toDigits 10 value
  | .text value => quoted value
  | .list [] => ['[', ']']
  | .list (first :: rest) =>
    '[' :: layout.lineBreak (depth + 1) ++ write layout (depth + 1) first ++
      writeItems (depth + 1) rest ++ layout.lineBreak depth ++ [']']
  | .record [] => ['\x7b', '\x7d']
  | .record ((key, value) :: rest) =>
    '\x7b' :: layout.lineBreak (depth + 1) ++ quoted key ++ layout.colon ++
      write layout (depth + 1) value ++ writeEntries (depth + 1) rest ++ layout.lineBreak depth ++
      ['\x7d']
  | .null => ['n', 'u', 'l', 'l']
  | .other => ['n', 'u', 'l', 'l']
where
  writeItems (depth : Nat) : List Value → List Char
    | [] => []
    | value :: rest =>
      ',' :: layout.lineBreak depth ++ write layout depth value ++ writeItems depth rest
  writeEntries (depth : Nat) : List (String × Value) → List Char
    | [] => []
    | (key, value) :: rest =>
      ',' :: layout.lineBreak depth ++ quoted key ++ layout.colon ++ write layout depth value ++
        writeEntries depth rest

def compact (value : Value) : String := String.ofList (write .compact 0 value)

def pretty (value : Value) : String := String.ofList (write .pretty 0 value)

end TermBind.Json
