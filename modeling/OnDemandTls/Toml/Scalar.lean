import OnDemandTls.Toml.Literal

namespace OnDemandTls

/-!
# Numbers, dates and times of TOML texts

Digits may be grouped by single underscores.  Integers must fit in 64 bits with
a sign.  Dates and times are checked, but only the fact that one stands there
is kept.
-/

namespace Toml

/-- Read digits of a kind, grouped by single underscores; `fuel` bounds their
number. -/
def readDigits?
    (isDigit : Char → Bool)
    (fuel : Nat)
    (cs : List Char) :
    Option (List Char × List Char) :=
  match fuel, cs with
  | fuel + 1, c :: rest =>
      if isDigit c then
        match rest with
        | '_' :: more => push c (readDigits? isDigit fuel more)
        | next :: _ =>
            if isDigit next then
              push c (readDigits? isDigit fuel rest)
            else
              some ([c], rest)
        | [] => some ([c], [])
      else
        none
  | _, _ => none

/-- Read an optional sign; `true` means minus. -/
def readSign : List Char → Bool × Bool × List Char
  | '-' :: rest => (true, true, rest)
  | '+' :: rest => (true, false, rest)
  | cs => (false, false, cs)

/-- An integer, if it fits in 64 bits with a sign. -/
def integer? (value : Int) : Option Number :=
  if -0x8000000000000000 ≤ value ∧ value < 0x8000000000000000 then some (.integer value) else none

/-- The number that digits of a base spell. -/
def ofBase
    (base : Nat)
    (digits : List Char) :
    Nat :=
  digits.foldl (fun value digit => base * value + (Json.hexValue? digit).getD 0) 0

/-- Read an integer of a base that is not ten, after its mark. -/
def readBased?
    (base : Nat)
    (isDigit : Char → Bool)
    (cs : List Char) :
    Option (Number × List Char) := do
  let (digits, rest) ← readDigits? isDigit (cs.length + 1) cs
  let value ← integer? (ofBase base digits)
  return (value, rest)

/-- Places beyond which every decimal is larger than all doubles, or nearer to
zero than to any of them. -/
def placeLimit : Nat := 400

/-- The double nearest to a decimal; nothing if it is beyond all doubles and
positive. -/
def double?
    (negative : Bool)
    (digits : List Char)
    (place : Int) :
    Option Number :=
  let significand := Json.ofDigits digits
  let magnitude :=
    if significand = 0 ∨ place < -((placeLimit + digits.length : Nat) : Int) then
      0.0
    else if 0 ≤ place then
      Float.ofScientific significand false (min place.toNat placeLimit)
    else
      Float.ofScientific significand true (-place).toNat
  if negative then
    some (.float (-magnitude))
  else if magnitude.isInf then
    none
  else
    some (.float magnitude)

/-- Read the exponent of a double after its letter. -/
def readPower? (cs : List Char) : Option (Int × List Char) := do
  let (_, minus, cs) := readSign cs
  let (digits, rest) ← readDigits? Char.isDigit (cs.length + 1) cs
  let power : Int := Json.ofDigits digits
  return (if minus then -power else power, rest)

/-- Whether a letter starts an exponent. -/
def isPowerMark (c : Char) : Bool :=
  c == 'e' || c == 'E'

/-- Read what follows the whole part of a decimal number. -/
def readTail?
    (negative : Bool)
    (whole cs : List Char) :
    Option (Number × List Char) :=
  match cs with
  | '.' :: rest => do
      let (fraction, rest) ← readDigits? Char.isDigit (rest.length + 1) rest
      let place := -(fraction.length : Int)
      match rest with
      | c :: more =>
          if isPowerMark c then
            let (power, rest) ← readPower? more
            let value ← double? negative (whole ++ fraction) (place + power)
            return (value, rest)
          else
            let value ← double? negative (whole ++ fraction) place
            return (value, rest)
      | [] =>
          let value ← double? negative (whole ++ fraction) place
          return (value, [])
  | c :: rest =>
      if isPowerMark c then do
        let (power, rest) ← readPower? rest
        let value ← double? negative whole power
        return (value, rest)
      else do
        let value ← integer? (if negative then -(Json.ofDigits whole : Int) else Json.ofDigits whole)
        return (value, cs)
  | [] => do
      let value ← integer? (if negative then -(Json.ofDigits whole : Int) else Json.ofDigits whole)
      return (value, [])

/-- Read a decimal number after its sign: no leading zeros. -/
def readDecimal?
    (negative : Bool)
    (cs : List Char) :
    Option (Number × List Char) :=
  match cs with
  | '0' :: rest => readTail? negative ['0'] rest
  | _ => do
      let (whole, rest) ← readDigits? Char.isDigit (cs.length + 1) cs
      readTail? negative whole rest

/-- Whether a character is a hexadecimal digit. -/
def isHexDigit (c : Char) : Bool :=
  (Json.hexValue? c).isSome

/-- Whether a character is an octal digit. -/
def isOctalDigit (c : Char) : Bool :=
  '0' ≤ c && c ≤ '7'

/-- Whether a character is a binary digit. -/
def isBinaryDigit (c : Char) : Bool :=
  c == '0' || c == '1'

/-- Read a number. -/
def readNumber? (cs : List Char) : Option (Number × List Char) :=
  match cs with
  | '0' :: 'x' :: rest => readBased? 16 isHexDigit rest
  | '0' :: 'o' :: rest => readBased? 8 isOctalDigit rest
  | '0' :: 'b' :: rest => readBased? 2 isBinaryDigit rest
  | _ =>
      let (_, negative, rest) := readSign cs
      match rest with
      | 'i' :: 'n' :: 'f' :: rest =>
          some (.float (if negative then -(1.0 / 0.0) else 1.0 / 0.0), rest)
      | 'n' :: 'a' :: 'n' :: rest => some (.float (0.0 / 0.0), rest)
      | _ => readDecimal? negative rest

/-- Read a number of exactly so many digits between two bounds. -/
def readField?
    (count low high : Nat)
    (cs : List Char) :
    Option (Nat × List Char) :=
  let digits := cs.take count
  let value := Json.ofDigits digits
  if digits.length = count ∧ digits.all Char.isDigit ∧ low ≤ value ∧ value ≤ high then
    some (value, cs.drop count)
  else
    none

/-- Read one given character. -/
def readMark?
    (test : Char → Bool)
    (cs : List Char) :
    Option (List Char) :=
  match cs with
  | c :: rest => if test c then some rest else none
  | [] => none

/-- The number of days of a month. -/
def daysIn
    (year month : Nat) :
    Nat :=
  if month = 2 then
    if year % 4 = 0 ∧ (year % 100 ≠ 0 ∨ year % 400 = 0) then 29 else 28
  else if month = 4 ∨ month = 6 ∨ month = 9 ∨ month = 11 then
    30
  else
    31

/-- Read a date. -/
def readDate? (cs : List Char) : Option (List Char) := do
  let (year, cs) ← readField? 4 0 9999 cs
  let cs ← readMark? (· == '-') cs
  let (month, cs) ← readField? 2 1 12 cs
  let cs ← readMark? (· == '-') cs
  let (_, cs) ← readField? 2 1 (daysIn year month) cs
  return cs

/-- Read a time of day. -/
def readTime? (cs : List Char) : Option (List Char) := do
  let (_, cs) ← readField? 2 0 23 cs
  let cs ← readMark? (· == ':') cs
  let (_, cs) ← readField? 2 0 59 cs
  let cs ← readMark? (· == ':') cs
  let (_, cs) ← readField? 2 0 60 cs
  match cs with
  | '.' :: rest => (Json.takeDigits? rest).map (·.2)
  | _ => return cs

/-- Read the distance from universal time, if one follows. -/
def readOffset? (cs : List Char) : Option (List Char) :=
  match cs with
  | c :: rest =>
      if c == 'Z' || c == 'z' then
        some rest
      else if c == '+' || c == '-' then do
        let (_, cs) ← readField? 2 0 23 rest
        let cs ← readMark? (· == ':') cs
        let (_, cs) ← readField? 2 0 59 cs
        return cs
      else
        some cs
  | [] => some []

/-- Whether a character separates a date from a time. -/
def isDateTimeMark (c : Char) : Bool :=
  c == 'T' || c == 't' || c == ' '

/-- Read a date, a time, or both. -/
def readMoment? (cs : List Char) : Option (List Char) :=
  match readDate? cs with
  | some rest =>
      match (readMark? isDateTimeMark rest).bind readTime? with
      | some rest => readOffset? rest
      | none => some rest
  | none => readTime? cs

/-- Read a number, a date or a time. -/
def readScalar? (cs : List Char) : Option (Document × List Char) :=
  match readMoment? cs with
  | some rest => some (.moment, rest)
  | none => (readNumber? cs).map (fun (value, rest) => (.number (some value), rest))

end Toml

end OnDemandTls
