import SchemaDiff.Text.Basic
/- Points in time, in UTC and to the microsecond, and their ISO 8601 form. -/
namespace SchemaDiff
open Text

structure Instant where
  year : Nat
  month : Nat
  day : Nat
  hour : Nat := 0
  minute : Nat := 0
  second : Nat := 0
  microsecond : Nat := 0
deriving DecidableEq, Repr

namespace Instant

/-- The instant so many microseconds after the start of 1970. Years are taken to begin in March, so
that the day that only some of them have comes last. -/
def ofUnix (microseconds : Nat) : Instant :=
  let seconds := microseconds / 1000000
  let days := seconds / 86400 + 719468
  let ofEra := days % 146097
  let ofCycle := (ofEra - ofEra / 1460 + ofEra / 36524 - ofEra / 146096) / 365
  let ofYear := ofEra - (365 * ofCycle + ofCycle / 4 - ofCycle / 100)
  let shifted := (5 * ofYear + 2) / 153
  let month := if shifted < 10 then shifted + 3 else shifted - 9
  { year := days / 146097 * 400 + ofCycle + (if month ≤ 2 then 1 else 0)
    month
    day := ofYear - (153 * shifted + 2) / 5 + 1
    hour := seconds / 3600 % 24
    minute := seconds / 60 % 60
    second := seconds % 60
    microsecond := microseconds % 1000000 }

def iso (zone : Text) (i : Instant) : Text :=
  padded 4 i.year ++ "-" ++ padded 2 i.month ++ "-" ++ padded 2 i.day ++ "T"
  ++ padded 2 i.hour ++ ":" ++ padded 2 i.minute ++ ":" ++ padded 2 i.second
  ++ (if i.microsecond = 0 then [] else '.' :: padded 6 i.microsecond)
  ++ zone

end Instant

end SchemaDiff
