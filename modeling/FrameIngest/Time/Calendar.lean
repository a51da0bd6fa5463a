import FrameIngest.Decimal.Text

namespace FrameIngest.Calendar

structure Date where
  year : Int
  month : Nat
  day : Nat
  deriving DecidableEq

/-- The date of a day counted from 1 March of the year 0. A year that starts in March ends with
its leap day, and 400 years have 146097 days. -/
def ofMarchDay (day : Int) : Date :=
  let era := Int.fdiv day 146097
  let dayOfEra := (Int.fmod day 146097).toNat
  let yearOfEra := (dayOfEra - dayOfEra / 1460 + dayOfEra / 36524 - dayOfEra / 146096) / 365
  let dayOfYear := dayOfEra - (365 * yearOfEra + yearOfEra / 4 - yearOfEra / 100)
  let marchMonth := (5 * dayOfYear + 2) / 153
  let month := if marchMonth < 10 then marchMonth + 3 else marchMonth - 9
  let year : Int := era * 400 + yearOfEra
  ⟨if month ≤ 2 then year + 1 else year, month, dayOfYear - (153 * marchMonth + 2) / 5 + 1⟩

/-- The date of a day counted from 1 January 1970. -/
def ofEpochDay (day : Int) : Date :=
  ofMarchDay (day + 719468)

def padded (width value : Nat) : List Char :=
  Decimal.padLeft width '0' (Decimal.natural value)

/-- The date as year, month and day. -/
def Date.chars (date : Date) : List Char :=
  padded 4 date.year.toNat ++ '-' :: padded 2 date.month ++ '-' :: padded 2 date.day

/-- A second of the day as hours, minutes and seconds. -/
def clock (second : Nat) : List Char :=
  padded 2 (second / 3600) ++ ':' :: padded 2 (second / 60 % 60) ++ ':' :: padded 2 (second % 60)

/-- The instant so many nanoseconds after the start of 1970, with nine digits after the point.
Instants before it belong to the second that has begun. -/
def instant (nanoseconds : Int) : String :=
  let second := Int.fdiv nanoseconds 1000000000
  String.ofList <|
    (ofEpochDay (Int.fdiv second 86400)).chars ++ 'T' :: clock (Int.fmod second 86400).toNat ++
      '.' :: padded 9 (Int.fmod nanoseconds 1000000000).toNat ++ ['Z']

end FrameIngest.Calendar
