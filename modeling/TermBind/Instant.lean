import Std.Time.Format

/-! Moments of time as text. -/
namespace TermBind.Instant

open Std.Time

private def padded (width number : Nat) : String :=
  let digits := toString number
  String.ofList (List.replicate (width - digits.length) '0') ++ digits

/-- The fraction of a second in as many groups of three digits as it takes. -/
def fraction (nanoseconds : Nat) : String :=
  if nanoseconds = 0 then ""
  else if nanoseconds % 1000000 = 0 then "." ++ padded 3 (nanoseconds / 1000000)
  else if nanoseconds % 1000 = 0 then "." ++ padded 6 (nanoseconds / 1000)
  else "." ++ padded 9 nanoseconds

/-- Date and time of day at the zero meridian. -/
def display (moment : Timestamp) : String :=
  let shown := DateTime.ofTimestampWithZone moment TimeZone.UTC
  shown.format "uuuu-MM-dd'T'HH:mm:ss" ++ fraction shown.nanosecond.val.toNat ++ "+00:00"

end TermBind.Instant
