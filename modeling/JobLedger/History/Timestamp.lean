import JobLedger.Text.Numeral

/-!
# Timestamps

Milliseconds since the start of 1970 are shown as a date and a time of day
in UTC, such as `Tue Jan 01 00:26:40 UTC 2013`. Dates follow the Gregorian
calendar in both directions. A year above 9999 is written with a plus
sign. Instants beyond the last representable date are shown as plain
milliseconds.

Days are counted in eras of 400 years, which all have the same number of
days; inside an era the year starts in March, so that the leap day is its
last day.
-/

namespace JobLedger.Timestamp

/-- A date of the Gregorian calendar. -/
structure Date where
  year : Nat
  month : Nat
  day : Nat
deriving DecidableEq, Repr

/-- Days from the first of March of the year 0 to the first of January
1970. -/
def epochDays : Nat := 719468

def eraDays : Nat := 146097

/-- The date that is `n` days behind the start of 1970. -/
def dateOfDays (n : Nat) : Date :=
  let z := n + epochDays
  let era := z / eraDays
  let dayOfEra := z % eraDays
  let yearOfEra :=
    (dayOfEra - dayOfEra / 1460 + dayOfEra / 36524 - dayOfEra / 146096) / 365
  let dayOfYear := dayOfEra - (365 * yearOfEra + yearOfEra / 4 - yearOfEra / 100)
  let m := (5 * dayOfYear + 2) / 153
  let month := if m < 10 then m + 3 else m - 9
  { year := yearOfEra + era * 400 + (if month ≤ 2 then 1 else 0)
    month
    day := dayOfYear - (153 * m + 2) / 5 + 1 }

def weekdayNames : List String := ["Thu", "Fri", "Sat", "Sun", "Mon", "Tue", "Wed"]

def monthNames : List String :=
  ["Jan", "Feb", "Mar", "Apr", "May", "Jun", "Jul", "Aug", "Sep", "Oct", "Nov", "Dec"]

/-- The weekday `n` days behind the start of 1970, which was a Thursday. -/
def weekday (n : Nat) : String := weekdayNames.getD (n % 7) ""

/-- A year with at least four digits, and with a sign above 9999. -/
def yearText (n : Nat) : String := if n ≤ 9999 then Numeral.padded 4 n else s!"+{n}"

/-- The first millisecond behind the last representable date. -/
def limit : Nat := 8210266876800000

/-- The text of an instant. -/
def format (ms : UInt64) : String :=
  if ms.toNat < limit then
    let seconds := ms.toNat / 1000
    let days := seconds / 86400
    let rest := seconds % 86400
    let date := dateOfDays days
    let month := monthNames.getD (date.month - 1) ""
    let day := Numeral.padded 2 date.day
    let hour := Numeral.padded 2 (rest / 3600)
    let minute := Numeral.padded 2 (rest % 3600 / 60)
    let second := Numeral.padded 2 (rest % 60)
    s!"{weekday days} {month} {day} {hour}:{minute}:{second} UTC {yearText date.year}"
  else s!"{ms.toNat} ms"

example : format 1357000000000 = "Tue Jan 01 00:26:40 UTC 2013" := by decide +kernel

end JobLedger.Timestamp
