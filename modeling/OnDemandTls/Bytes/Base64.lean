namespace OnDemandTls

/-!
# Base64

Bytes as texts of 64 digits: three bytes are four digits, and one or two bytes
that are left over are two or three digits with zero bits at the end.  The
digits come from one of two alphabets.  Readers are strict, where a text has to
be the one that the writer makes (`decode?`), or loose, where the leftover bits
and the padding do not matter (`decodeLoose?`).
-/

/-- A sequence of bytes. -/
abbrev Bytes := List UInt8

namespace Base64

/-- The two alphabets of digits: they differ in the last two. -/
inductive Alphabet where
  | standard
  | url
  deriving DecidableEq, Repr

/-- The digit of a value below 64. -/
def digit
    (alphabet : Alphabet)
    (value : Nat) :
    Char :=
  if value < 26 then
    Char.ofNat (65 + value)
  else if value < 52 then
    Char.ofNat (71 + value)
  else if value < 62 then
    Char.ofNat (value - 4)
  else
    match alphabet, value == 62 with
    | .standard, true => '+'
    | .standard, false => '/'
    | .url, true => '-'
    | .url, false => '_'

/-- The value of a digit. -/
def value?
    (alphabet : Alphabet)
    (c : Char) :
    Option Nat :=
  if 'A' ≤ c ∧ c ≤ 'Z' then
    some (c.toNat - 65)
  else if 'a' ≤ c ∧ c ≤ 'z' then
    some (c.toNat - 71)
  else if '0' ≤ c ∧ c ≤ '9' then
    some (c.toNat + 4)
  else if c = digit alphabet 62 then
    some 62
  else if c = digit alphabet 63 then
    some 63
  else
    none

/-- The values of the digits of some bytes. -/
def toValues : Bytes → List Nat
  | [] => []
  | [a] => [a.toNat / 4, a.toNat % 4 * 16]
  | [a, b] => [a.toNat / 4, a.toNat % 4 * 16 + b.toNat / 16, b.toNat % 16 * 4]
  | a :: b :: c :: rest =>
      a.toNat / 4 :: (a.toNat % 4 * 16 + b.toNat / 16) :: (b.toNat % 16 * 4 + c.toNat / 64) ::
        c.toNat % 64 :: toValues rest

/-- The bytes of some values of digits; a single value is left over by no bytes.
A strict reader wants the bits that are left over to be zero. -/
def ofValues?
    (strict : Bool) :
    List Nat → Option Bytes
  | [] => some []
  | [_] => none
  | [a, b] =>
      if strict && b % 16 != 0 then none else some [UInt8.ofNat (a * 4 + b / 16)]
  | [a, b, c] =>
      if strict && c % 4 != 0 then
        none
      else
        some [UInt8.ofNat (a * 4 + b / 16), UInt8.ofNat (b * 16 + c / 4)]
  | a :: b :: c :: d :: rest =>
      (ofValues? strict rest).map fun bytes =>
        UInt8.ofNat (a * 4 + b / 16) :: UInt8.ofNat (b * 16 + c / 4) ::
          UInt8.ofNat (c * 64 + d) :: bytes

/-- The digits of some bytes, without padding. -/
def digits
    (alphabet : Alphabet)
    (bytes : Bytes) :
    List Char :=
  (toValues bytes).map (digit alphabet)

/-- The padding that fills the digits of some bytes up to a multiple of four. -/
def padding (bytes : Bytes) : List Char :=
  match bytes.length % 3 with
  | 0 => []
  | 1 => ['=', '=']
  | _ => ['=']

/-- The digits of some bytes with padding. -/
def padded
    (alphabet : Alphabet)
    (bytes : Bytes) :
    List Char :=
  digits alphabet bytes ++ padding bytes

/-- Read digits without padding; accepts what `digits` makes and nothing else. -/
def decode?
    (alphabet : Alphabet)
    (cs : List Char) :
    Option Bytes :=
  (cs.mapM (value? alphabet)).bind (ofValues? true)

/-- Characters that a loose reader passes over. -/
def isSpace (c : Char) : Bool :=
  ('\x09' ≤ c && c ≤ '\x0D') || c == ' '

/-- Whether padding fills a number of digits up to a multiple of four; it may be
missing altogether. -/
def mayPad
    (digitCount : Nat)
    (padding : List Char) :
    Bool :=
  padding.all (· == '=') &&
    (padding.length == 0 || (padding.length ≤ 2 && (digitCount + padding.length) % 4 == 0))

/-- Read digits with or without padding, between any spaces. -/
def decodeLoose?
    (alphabet : Alphabet)
    (cs : List Char) :
    Option Bytes :=
  let cs := cs.filter (!isSpace ·)
  let body := cs.takeWhile (· != '=')
  if mayPad body.length (cs.dropWhile (· != '=')) then
    (body.mapM (value? alphabet)).bind (ofValues? false)
  else
    none

end Base64

end OnDemandTls
