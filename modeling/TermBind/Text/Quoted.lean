import TermBind.Text.Unicode.Display

/-! Text as a string literal of the generated language. -/
namespace TermBind.Quoted

/-- Quotes, backslashes, controls and characters that show nothing of their own are escaped. -/
def escape (c : Char) : List Char :=
  match c with
  | '\x00' => ['\\', '0']
  | '\t' => ['\\', 't']
  | '\n' => ['\\', 'n']
  | '\r' => ['\\', 'r']
  | '"' => ['\\', '"']
  | '\\' => ['\\', '\\']
  | c =>
    if Unicode.extendsGrapheme c || !Unicode.isPrintable c then
      ['\\', 'u', '{'] ++ Nat.toDigits 16 c.toNat ++ ['}']
    else [c]

def encode (text : String) : String :=
  String.ofList ('"' :: text.toList.flatMap escape ++ ['"'])

end TermBind.Quoted
