import OnDemandTls.Bytes.Base64

namespace OnDemandTls

/-!
# Calendar

Instants are seconds since the beginning of the year 1970.  Certificates write
them as dates and times of day, in one of two forms: with two digits for the
year, which stand for the years 1950 to 2049, or with four.
-/

namespace Calendar

/-- A date and a time of day. -/
structure Moment where
  year : Int
  month : Nat
  day : Nat
  hour : Nat
  minute : Nat
  second : Nat
  deriving DecidableEq, Repr

/-- Whether a year has 366 days. -/
def isLeapYear (year : Int) : Bool :=
  year % 4 == 0 && (year % 100 != 0 || year % 400 == 0)

/-- How many days a month has. -/
def daysInMonth
    (year : Int)
    (month : Nat) :
    Nat :=
  if month = 2 then
    if isLeapYear year then 29 else 28
  else if month = 4 ∨ month = 6 ∨ month = 9 ∨ month = 11 then
    30
  else
    31

/-- How many days lie between the first of March of the year 0 and the first of
January 1970. -/
def epochOffset : Int := 719468

/-- The number of a day since the beginning of 1970.  Years are counted from
March, so that the leap day is the last of its year. -/
def dayNumber
    (year : Int)
    (month day : Nat) :
    Int :=
  let y := if month ≤ 2 then year - 1 else year
  let monthFromMarch := (month + 9) % 12
  let dayOfYear := (153 * monthFromMarch + 2) / 5 + day - 1
  365 * y + y.fdiv 4 - y.fdiv 100 + y.fdiv 400 + dayOfYear - epochOffset

/-- The seconds since the beginning of 1970. -/
def Moment.seconds (moment : Moment) : Int :=
  dayNumber moment.year moment.month moment.day * 86400 +
    (moment.hour * 3600 + moment.minute * 60 + moment.second : Nat)

/-- The date of a day that is counted from the first of March of the year 0. -/
def dateOf (dayFromMarch : Int) : Int × Nat × Nat :=
  let era := dayFromMarch.fdiv 146097
  let dayOfEra := (dayFromMarch - era * 146097).toNat
  let yearOfEra := (dayOfEra - dayOfEra / 1460 + dayOfEra / 36524 - dayOfEra / 146096) / 365
  let dayOfYear := dayOfEra - (365 * yearOfEra + yearOfEra / 4 - yearOfEra / 100)
  let monthFromMarch := (5 * dayOfYear + 2) / 153
  let day := dayOfYear - (153 * monthFromMarch + 2) / 5 + 1
  let month := if monthFromMarch < 10 then monthFromMarch + 3 else monthFromMarch - 9
  let year := era * 400 + yearOfEra
  (if month ≤ 2 then year + 1 else year, month, day)

/-- The date and time of day of an instant. -/
def ofSeconds (seconds : Int) : Moment :=
  let days := seconds.fdiv 86400
  let rest := (seconds - days * 86400).toNat
  let (year, month, day) := dateOf (days + epochOffset)
  ⟨year, month, day, rest / 3600, rest / 60 % 60, rest % 60⟩

/-- Whether a moment is one that a clock can show. -/
def Moment.isValid (moment : Moment) : Bool :=
  1 ≤ moment.month && moment.month ≤ 12 && 1 ≤ moment.day &&
    moment.day ≤ daysInMonth moment.year moment.month && moment.hour ≤ 23 &&
    moment.minute ≤ 59 && moment.second ≤ 59

/-- A number in so many decimal digits. -/
def digits : Nat → Nat → Bytes
  | 0, _ => []
  | count + 1, n => digits count (n / 10) ++ [UInt8.ofNat (48 + n % 10)]

/-- What stands after the year: ten digits and a mark for universal time. -/
def Moment.tail (moment : Moment) : Bytes :=
  [moment.month, moment.day, moment.hour, moment.minute, moment.second].flatMap (digits 2) ++ [90]

/-- Whether a year can be written with two digits. -/
def hasShortYear (year : Int) : Bool :=
  1950 ≤ year && year ≤ 2049

/-- A moment with two digits for the year. -/
def Moment.short (moment : Moment) : Bytes :=
  digits 2 (moment.year % 100).toNat ++ moment.tail

/-- A moment with four digits for the year. -/
def Moment.long (moment : Moment) : Bytes :=
  digits 4 moment.year.toNat ++ moment.tail

/-- The value of some decimal digits. -/
def digitsValue? (bytes : Bytes) : Option Nat :=
  bytes.foldlM
    (fun n byte => if 48 ≤ byte ∧ byte ≤ 57 then some (n * 10 + (byte.toNat - 48)) else none) 0

/-- Read what stands after a year. -/
def readTail?
    (year : Int)
    (bytes : Bytes) :
    Option Moment := do
  let pair := fun (index : Nat) => digitsValue? ((bytes.drop (2 * index)).take 2)
  let moment : Moment :=
    { year := year
      month := ← pair 0
      day := ← pair 1
      hour := ← pair 2
      minute := ← pair 3
      second := ← pair 4 }
  if bytes.length = 11 ∧ bytes.getLast? = some 90 ∧ moment.isValid then
    return moment
  else
    none

/-- Read a moment with two digits for the year. -/
def readShort? (bytes : Bytes) : Option Moment := do
  let year ← digitsValue? (bytes.take 2)
  readTail? (if year < 50 then 2000 + year else 1900 + year) (bytes.drop 2)

/-- Read a moment with four digits for the year. -/
def readLong? (bytes : Bytes) : Option Moment := do
  let year ← digitsValue? (bytes.take 4)
  readTail? year (bytes.drop 4)

end Calendar

end OnDemandTls
