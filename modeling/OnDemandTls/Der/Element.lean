import OnDemandTls.Bytes.Base64

namespace OnDemandTls

/-!
# Tagged elements

Certificates and keys are trees of elements: a tag, the length of the content,
and the content, which for some tags is a sequence of elements again.  Lengths
below 128 are one byte; longer ones are preceded by the number of their bytes.
-/

namespace Der

/-- An element: its tag and its content. -/
structure Element where
  tag : UInt8
  content : Bytes
  deriving DecidableEq, Repr

/-! ## Tags -/

def booleanTag : UInt8 := 0x01
def integerTag : UInt8 := 0x02
def bitStringTag : UInt8 := 0x03
def octetStringTag : UInt8 := 0x04
def identifierTag : UInt8 := 0x06
def utf8Tag : UInt8 := 0x0C
def utcTimeTag : UInt8 := 0x17
def generalizedTimeTag : UInt8 := 0x18
def sequenceTag : UInt8 := 0x30
def setTag : UInt8 := 0x31

/-- The tag of an element whose meaning depends on where it stands; with a
sequence of elements inside. -/
def numberedTag (number : UInt8) : UInt8 :=
  0xA0 ||| number

/-- The tag of an element whose meaning depends on where it stands; with plain
bytes inside. -/
def plainNumberedTag (number : UInt8) : UInt8 :=
  0x80 ||| number

/-! ## Writing -/

/-- The bytes of a number, the highest first, without leading zeros. -/
def minimalBytes (n : Nat) : Bytes :=
  go n.log2 n []
where
  /-- Put the bytes of a number in front; a bound keeps the number of steps. -/
  go : Nat → Nat → Bytes → Bytes
    | 0, n, rest => UInt8.ofNat n :: rest
    | bound + 1, n, rest =>
        if n < 256 then UInt8.ofNat n :: rest else go bound (n / 256) (UInt8.ofNat n :: rest)

/-- The bytes of a length. -/
def lengthBytes (n : Nat) : Bytes :=
  if n < 128 then
    [UInt8.ofNat n]
  else
    UInt8.ofNat (128 + (minimalBytes n).length) :: minimalBytes n

/-- The bytes of an element. -/
def write (element : Element) : Bytes :=
  element.tag :: lengthBytes element.content.length ++ element.content

/-- The bytes of an element with a tag and a content. -/
def tagged
    (tag : UInt8)
    (content : Bytes) :
    Bytes :=
  write ⟨tag, content⟩

/-- The bytes of an element that holds elements. -/
def nested
    (tag : UInt8)
    (parts : List Bytes) :
    Bytes :=
  tagged tag parts.flatten

/-- The bytes of a sequence. -/
def sequenceOf (parts : List Bytes) : Bytes :=
  nested sequenceTag parts

/-- The bytes of a natural number as an element; a zero in front keeps it from
being negative. -/
def natural (n : Nat) : Bytes :=
  let bytes := minimalBytes n
  tagged integerTag (if 128 ≤ bytes.headD 0 then 0 :: bytes else bytes)

/-- The bytes of a bit string without unused bits. -/
def bitString (content : Bytes) : Bytes :=
  tagged bitStringTag (0 :: content)

/-- The bytes of a text. -/
def text (value : String) : Bytes :=
  tagged utf8Tag value.toUTF8.data.toList

/-! ## Reading -/

/-- The number of some bytes, the highest first. -/
def number (bytes : Bytes) : Nat :=
  bytes.foldl (fun n byte => n * 256 + byte.toNat) 0

/-- Read a length; lengths without an end and of more than eight bytes are not
read. -/
def readLength? : Bytes → Option (Nat × Bytes)
  | [] => none
  | first :: rest =>
      if first < 128 then
        some (first.toNat, rest)
      else
        let count := first.toNat - 128
        if count = 0 ∨ 8 < count ∨ rest.length < count then
          none
        else
          some (number (rest.take count), rest.drop count)

/-- Read one element; tags of more than one byte are not read. -/
def read? : Bytes → Option (Element × Bytes)
  | [] => none
  | tag :: rest =>
      if tag &&& 0x1F = 0x1F then
        none
      else
        match readLength? rest with
        | none => none
        | some (length, rest) =>
            if rest.length < length then
              none
            else
              some (⟨tag, rest.take length⟩, rest.drop length)

/-- Read elements up to the end. -/
def readAll? (bytes : Bytes) : Option (List Element) :=
  go bytes.length bytes
where
  /-- Read elements with a bound on their number. -/
  go : Nat → Bytes → Option (List Element)
    | _, [] => some []
    | 0, _ => none
    | bound + 1, bytes =>
        match read? bytes with
        | none => none
        | some (element, rest) => (go bound rest).map (element :: ·)

namespace Element

/-- The elements inside an element of a tag. -/
def children?
    (element : Element)
    (tag : UInt8) :
    Option (List Element) :=
  if element.tag = tag then readAll? element.content else none

/-- The content of an element of a tag. -/
def content?
    (element : Element)
    (tag : UInt8) :
    Option Bytes :=
  if element.tag = tag then some element.content else none

/-- The bytes of a bit string that has no unused bits. -/
def bits? (element : Element) : Option Bytes :=
  match element.content? bitStringTag with
  | some (0 :: bytes) => some bytes
  | _ => none

end Element

end Der

end OnDemandTls
