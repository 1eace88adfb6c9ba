import OnDemandTls.Document

namespace OnDemandTls

/-!
# Numbers of JSON texts

A literal without point and exponent is an integer if it fits in 64 bits, a
double otherwise.  A double is computed from the leading digits that fit in 64
bits by one multiplication or division by a power of ten, so a literal of many
digits may miss the nearest double.
-/

namespace Json

/-- The parts of a number literal, all of them decimal digits. -/
structure NumberLiteral where
  negative : Bool
  whole : List Char
  fraction : Option (List Char)
  /-- The sign of the exponent (`true` for minus) and its digits. -/
  exponent : Option (Bool × List Char)

/-- The value of a decimal digit. -/
def digitValue (c : Char) : Nat :=
  c.toNat - '0'.toNat

/-- The number that digits spell. -/
def ofDigits (digits : List Char) : Nat :=
  digits.foldl (fun n c => 10 * n + digitValue c) 0

/-- Digits that are kept because the number still fits in 64 bits. -/
def keepDigits
    (significand : Nat) :
    List Char → Nat × List Char
  | [] => (significand, [])
  | c :: rest =>
      if 10 * significand + digitValue c < 0x10000000000000000 then
        keepDigits (10 * significand + digitValue c) rest
      else
        (significand, c :: rest)

/-- A number scaled by a power of ten in doubles; nothing beyond all doubles.
Below 10⁻³⁰⁸ the division is made in steps, each counted by `steps`. -/
def scale?
    (steps : Nat)
    (x : Float)
    (exponent : Int) :
    Option Float :=
  if 0 ≤ exponent then
    if exponent ≤ 308 then
      let scaled := x * Float.ofScientific 1 false exponent.toNat
      if scaled.isInf then none else some scaled
    else if x == 0.0 then
      some x
    else
      none
  else if -308 ≤ exponent then
    some (x / Float.ofScientific 1 false (-exponent).toNat)
  else
    match steps with
    | 0 => some (x / Float.ofScientific 1 false 308)
    | steps + 1 =>
        if x == 0.0 then
          some x
        else
          scale? steps (x / Float.ofScientific 1 false 308) (exponent + 308)

namespace NumberLiteral

/-- The largest exponent that is told apart from larger ones. -/
def exponentLimit : Int :=
  0x7FFFFFFF

/-- The double of a literal; nothing beyond all doubles. -/
def float? (literal : NumberLiteral) : Option Float :=
  let (kept, dropped) := keepDigits 0 literal.whole
  let (significand, place) :=
    match literal.fraction with
    | none => (kept, (dropped.length : Int))
    | some digits =>
        let (more, left) := keepDigits kept digits
        (more, (dropped.length : Int) - ((digits.length - left.length : Nat) : Int))
  let magnitude :=
    match literal.exponent with
    | none => scale? 4 significand.toUInt64.toFloat place
    | some (minus, digits) =>
        let power : Int := ofDigits digits
        if power ≤ exponentLimit then
          let total := if minus then place - power else place + power
          scale? 4 significand.toUInt64.toFloat total
        else if significand = 0 || minus then
          some 0.0
        else
          none
  magnitude.map (fun x => if literal.negative then -x else x)

/-- The number of a literal; nothing for a number beyond all doubles. -/
def value? (literal : NumberLiteral) : Option Number :=
  let magnitude := ofDigits literal.whole
  if literal.fraction.isNone && literal.exponent.isNone then
    if literal.negative then
      if 0 < magnitude && magnitude ≤ 0x8000000000000000 then
        some (.integer (-(magnitude : Int)))
      else
        literal.float?.map Number.float
    else if magnitude < 0x10000000000000000 then
      some (.integer magnitude)
    else
      literal.float?.map Number.float
  else
    literal.float?.map Number.float

end NumberLiteral

/-- Take the digits at the start of a text, at least one. -/
def takeDigits? (cs : List Char) : Option (List Char × List Char) :=
  match cs.takeWhile Char.isDigit with
  | [] => none
  | digits => some (digits, cs.dropWhile Char.isDigit)

/-- Read the exponent of a literal, if one follows. -/
def readExponent? (cs : List Char) : Option (Option (Bool × List Char) × List Char) :=
  match cs with
  | mark :: rest =>
      if mark = 'e' || mark = 'E' then
        let (minus, rest) :=
          match rest with
          | '-' :: more => (true, more)
          | '+' :: more => (false, more)
          | _ => (false, rest)
        (takeDigits? rest).map (fun (digits, rest) => (some (minus, digits), rest))
      else
        some (none, cs)
  | [] => some (none, [])

/-- Read the fraction of a literal, if one follows. -/
def readFraction? (cs : List Char) : Option (Option (List Char) × List Char) :=
  match cs with
  | '.' :: rest => (takeDigits? rest).map (fun (digits, rest) => (some digits, rest))
  | _ => some (none, cs)

/-- Read a number literal: no leading zeros, digits on both sides of a point
and in an exponent. -/
def readNumber? (cs : List Char) : Option (NumberLiteral × List Char) := do
  let (negative, cs) :=
    match cs with
    | '-' :: rest => (true, rest)
    | _ => (false, cs)
  let (whole, cs) ← takeDigits? cs
  if whole.head? = some '0' ∧ whole ≠ ['0'] then
    none
  else
    let (fraction, cs) ← readFraction? cs
    let (exponent, cs) ← readExponent? cs
    return (⟨negative, whole, fraction, exponent⟩, cs)

end Json

end OnDemandTls
