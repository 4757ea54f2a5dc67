/-! Sets of characters given by ascending ranges of code points. -/
namespace TermBind.Unicode

def inRanges (ranges : List (Nat × Nat)) (code : Nat) : Bool :=
  ranges.any fun range => range.1 ≤ code && code ≤ range.2

/-- Membership that looks at the table only beyond ASCII. -/
def beyondAscii (ascii : Char → Bool) (ranges : List (Nat × Nat)) (c : Char) : Bool :=
  if c.toNat < 128 then ascii c else inRanges ranges c.toNat

end TermBind.Unicode
