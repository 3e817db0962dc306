/-! Dates and times of day.

Days are counted from the first of January 1970. Years are taken to begin in
March, so that the odd day of a leap year is the last. -/
namespace DeviceLab.Scheduler

structure DateTime where
  year : Nat
  month : Nat
  day : Nat
  hour : Nat
  minute : Nat
  second : Nat

namespace DateTime

/-- Year, month and day of a day. -/
def ofDay (n : Nat) : Nat × Nat × Nat :=
  let n := n + 719468
  let era := n / 146097
  let dayOfEra := n % 146097
  let yearOfEra := (dayOfEra - dayOfEra / 1460 + dayOfEra / 36524 - dayOfEra / 146096) / 365
  let dayOfYear := dayOfEra - (365 * yearOfEra + yearOfEra / 4 - yearOfEra / 100)
  let shifted := (5 * dayOfYear + 2) / 153
  let month := if shifted < 10 then shifted + 3 else shifted - 9
  let year := yearOfEra + 400 * era + if month ≤ 2 then 1 else 0
  (year, month, dayOfYear - (153 * shifted + 2) / 5 + 1)

/-- The moment that is so many seconds after the first day began. -/
def ofSeconds (n : Nat) : DateTime :=
  let (year, month, day) := ofDay (n / 86400)
  let rest := n % 86400
  ⟨year, month, day, rest / 3600, rest / 60 % 60, rest % 60⟩

/-- A number with zeros in front up to a width. -/
def padded (width n : Nat) : String :=
  let digits := Nat.toDigits 10 n
  String.ofList (List.replicate (width - digits.length) '0' ++ digits)

/-- The moment in a form that can be part of a file name. -/
def stamp (t : DateTime) : String :=
  padded 4 t.year ++ "-" ++ padded 2 t.month ++ "-" ++ padded 2 t.day ++ "-" ++
    padded 2 t.hour ++ "." ++ padded 2 t.minute ++ "." ++ padded 2 t.second

/-- The moment in front of a line of a log, with millionths of a second. -/
def logged (t : DateTime) (micros : Nat) : String :=
  padded 4 t.year ++ "-" ++ padded 2 t.month ++ "-" ++ padded 2 t.day ++ "T" ++
    padded 2 t.hour ++ ":" ++ padded 2 t.minute ++ ":" ++ padded 2 t.second ++ "." ++
    padded 6 micros ++ "Z"

end DateTime
end DeviceLab.Scheduler
