namespace OnDemandTls

/-!
# Shortest decimals

The decimal text of a double: the fewest digits that read back as the same
double, and of those the decimal nearest to it.  A finite positive double is
`mantissa * 2 ^ exponent`; the decimals that read back as it fill an interval
around it, whose ends belong to it iff the mantissa is even.  `Style` holds the
choices that a text format makes on top of the digits.
-/

namespace Decimal

/-- A finite double without its sign, as `mantissa * 2 ^ exponent`. -/
structure Binary where
  mantissa : Nat
  exponent : Int
  /-- The double below lies only half as far away as the one above. -/
  closeBelow : Bool

/-- The fields of a finite double, without its sign. -/
def Binary.ofBits (bits : UInt64) : Binary :=
  let field := ((bits >>> 52) &&& 0x7FF).toNat
  let fraction := (bits &&& 0xFFFFFFFFFFFFF).toNat
  if field = 0 then
    ⟨fraction, -1074, false⟩
  else
    ⟨fraction + 0x10000000000000, (field : Int) - 1075, fraction = 0 && field > 1⟩

/-- A positive rational as numerator and denominator, scaled by a power. -/
def scaled
    (base : Nat)
    (exponent : Int)
    (ratio : Nat × Nat) :
    Nat × Nat :=
  if 0 ≤ exponent then
    (ratio.1 * base.pow exponent.toNat, ratio.2)
  else
    (ratio.1, ratio.2 * base.pow (-exponent).toNat)

/-- Whether one ratio is below another, or level with it where that counts. -/
def below
    (orLevel : Bool)
    (a b : Nat × Nat) :
    Bool :=
  a.1 * b.2 < b.1 * a.2 || (orLevel && a.1 * b.2 == b.1 * a.2)

/-- The exponent of the leading decimal digit of a ratio that is at least one. -/
def leadingExponent (ratio : Nat × Nat) : Nat :=
  (Nat.toDigits 10 (ratio.1 / ratio.2)).length - 1

/-- The exponent of the leading decimal digit of a positive ratio; `limit`
bounds how far below one it is sought. -/
def decimalExponent
    (limit : Nat)
    (ratio : Nat × Nat) :
    Int :=
  match limit with
  | 0 => 0
  | limit + 1 =>
      if ratio.2 ≤ ratio.1 then
        leadingExponent ratio
      else
        decimalExponent limit (ratio.1 * 10, ratio.2) - 1

/-- The neighbours of a ratio on the grid of the multiples of `10 ^ place`, if
they read back; the nearer one, and the even one of two equally near. -/
def onGrid?
    (value low high : Nat × Nat)
    (endsCount : Bool)
    (place : Int) :
    Option Nat :=
  let steps := scaled 10 (-place) value
  let floor := steps.1 / steps.2
  let decimal := fun n => scaled 10 place (n, 1)
  let readsBack := fun n => below endsCount low (decimal n) && below endsCount (decimal n) high
  let remainder := steps.1 % steps.2
  let upIsNearer :=
    2 * remainder > steps.2 || (2 * remainder == steps.2 && floor % 2 == 1)
  match readsBack floor, readsBack (floor + 1) with
  | true, true => if upIsNearer then some (floor + 1) else some floor
  | true, false => some floor
  | false, true => some (floor + 1)
  | false, false => none

/-- The first of the given digit counts whose grid holds a decimal that reads
back, as digits and place of the last digit. -/
def firstGrid
    (value low high : Nat × Nat)
    (endsCount : Bool)
    (leading : Int) :
    List Nat → Nat × Int
  | [] => (0, 0)
  | count :: more =>
      let place := leading - (count : Int) + 1
      match onGrid? value low high endsCount place with
      | some digits => (digits, place)
      | none => firstGrid value low high endsCount leading more

/-- The shortest decimal of a positive finite double, as digits and place of
the last digit. -/
def ofBinary (x : Binary) : Nat × Int :=
  let quarters := fun n => scaled 2 (x.exponent - 2) (n, 1)
  let value := quarters (4 * x.mantissa)
  let low := quarters (4 * x.mantissa - if x.closeBelow then 1 else 2)
  let high := quarters (4 * x.mantissa + 2)
  firstGrid value low high (x.mantissa % 2 == 0) (decimalExponent 400 value)
    (List.range' 1 17)

/-- Digits without trailing zeros, with the place raised accordingly. -/
def dropZeros
    (digits : List Char)
    (place : Int) :
    List Char × Int :=
  let kept := (digits.reverse.dropWhile (· == '0')).reverse
  (kept, place + ((digits.length - kept.length : Nat) : Int))

/-- How a text format writes the digits of a double. -/
structure Style where
  /-- Exponents of the leading digit that are written without an exponent. -/
  positional : Int → Bool
  /-- What is written for values that are no numbers or infinite. -/
  notANumber : String
  infinite : String

/-- The style of JSON texts: powers of ten from 10⁻⁵ up to 10¹⁵ are written
out, others carry a signed exponent. -/
def Style.json : Style where
  positional := fun exponent => -5 ≤ exponent && exponent ≤ 15
  notANumber := "NaN"
  infinite := "inf"

/-- The style of configuration texts: never an exponent. -/
def Style.plain : Style where
  positional := fun _ => true
  notANumber := "NaN"
  infinite := "inf"

/-- Digits with a point, where `point` digits stand before it. -/
def withPoint
    (digits : List Char)
    (point : Int) :
    List Char :=
  if point ≤ 0 then
    '0' :: '.' :: (List.replicate (-point).toNat '0' ++ digits)
  else if (digits.length : Int) ≤ point then
    digits ++ List.replicate (point.toNat - digits.length) '0' ++ ['.', '0']
  else
    digits.take point.toNat ++ '.' :: digits.drop point.toNat

/-- Digits with an exponent, where `leading` is the place of the first digit. -/
def withExponent
    (digits : List Char)
    (leading : Int) :
    List Char :=
  let mark := if leading < 0 then ['e', '-'] else ['e', '+']
  let power := (toString leading.natAbs).toList
  match digits with
  | [] => []
  | [one] => one :: (mark ++ power)
  | one :: more => one :: '.' :: (more ++ mark ++ power)

/-- The text of a double in a style. -/
def text
    (style : Style)
    (x : Float) :
    String :=
  if x.isNaN then
    style.notANumber
  else
    let sign := if x.toBits >>> 63 == 1 then "-" else ""
    if x.isInf then
      sign ++ style.infinite
    else
      let binary := Binary.ofBits x.toBits
      if binary.mantissa = 0 then
        sign ++ "0.0"
      else
        let (digits, place) := ofBinary binary
        let (shown, place) := dropZeros (toString digits).toList place
        let leading := place + (shown.length : Int) - 1
        sign ++ String.ofList
          (if style.positional leading then
            withPoint shown (leading + 1)
          else
            withExponent shown leading)

end Decimal

end OnDemandTls
