import OnDemandTls.Certificate.Basic
import OnDemandTls.Pem

namespace OnDemandTls

/-!
# Private keys

A key is usable for handshakes if it is of a kind that handshakes know: on one
of two elliptic curves, an Edwards key, or an RSA key of 2048 to 4096 bits.
Keys come bare, in a form of their own kind, or wrapped together with the name
of their kind.
-/

/-- The kinds of usable keys. -/
inductive KeyAlgorithm where
  | ecdsa
  | rsa
  | ed25519
  deriving DecidableEq, Repr

namespace KeyAlgorithm

/-- The name of a kind of keys. -/
def name : KeyAlgorithm → String
  | ecdsa => "ECDSA"
  | rsa => "RSA"
  | ed25519 => "ED25519"

end KeyAlgorithm

namespace PrivateKey

open Der

/-- The elliptic curves of usable keys. -/
inductive Curve where
  | p256
  | p384
  deriving DecidableEq, Repr

namespace Curve

/-- The identifier of a curve. -/
def identifier : Curve → Bytes
  | p256 => Identifier.curveP256
  | p384 => Identifier.curveP384

/-- How many bytes a coordinate has. -/
def width : Curve → Nat
  | p256 => 32
  | p384 => 48

/-- The number of points. -/
def order : Curve → Nat
  | p256 => 0xffffffff00000000ffffffffffffffffbce6faada7179e84f3b9cac2fc632551
  | p384 =>
      0xffffffffffffffffffffffffffffffffffffffffffffffffc7634d81f4372ddf581a0db248b0a77aecec196accc52973

end Curve

/-- The elements of a bare text of one sequence. -/
def parts? (bytes : Bytes) : Option (List Element) := do
  match ← readAll? bytes with
  | [outer] => outer.children? sequenceTag
  | _ => none

/-- Whether an element is a small number. -/
def isNumber
    (element : Element)
    (n : UInt8) :
    Bool :=
  element == ⟨integerTag, [n]⟩

/-- Whether bytes are the coordinates of an uncompressed point. -/
def isPoint
    (curve : Curve)
    (bytes : Bytes) :
    Bool :=
  bytes.length == 1 + 2 * curve.width && bytes.head? == some 4

/-- Whether an element holds the point of a key. -/
def holdsPoint
    (curve : Curve)
    (element : Element) :
    Bool :=
  match (element.children? (numberedTag 1)) with
  | some [bits] => ((bits.bits?).map (isPoint curve)).getD false
  | _ => false

/-- Whether an element names a curve. -/
def namesCurve
    (curve : Curve)
    (element : Element) :
    Bool :=
  element.children? (numberedTag 0) == some [⟨identifierTag, curve.identifier⟩]

/-- The point of a bare key on a curve. -/
def point?
    (curve : Curve)
    (bytes : Bytes) :
    Option Bytes := do
  let element ← (← parts? bytes).find? (holdsPoint curve)
  match ← element.children? (numberedTag 1) with
  | [bits] => bits.bits?
  | _ => none

/-- Whether bytes are a bare key on a curve: a number below the order of the
curve, and the point that belongs to it. -/
def isEllipticKey
    (curve : Curve)
    (bytes : Bytes) :
    Bool :=
  match parts? bytes with
  | some (version :: secret :: rest) =>
      let rest :=
        match rest with
        | first :: more => if namesCurve curve first then more else rest
        | [] => []
      isNumber version 1 && secret.tag == octetStringTag &&
        secret.content.length == curve.width && number secret.content != 0 &&
        number secret.content < curve.order &&
        (match rest with
        | [point] => holdsPoint curve point
        | _ => false)
  | _ => false

/-- The number of an integer that is not negative. -/
def natural? (element : Element) : Option Nat :=
  if element.tag = integerTag ∧ element.content ≠ [] ∧ element.content.headD 0 < 128 then
    some (number element.content)
  else
    none

/-- Whether numbers are the modulus, exponents and factors of a key. -/
def isRsaKeyOf : List Nat → Bool
  | [0, modulus, publicExponent, _, p, q, _, _, _] =>
      let bits := modulus.log2 + 1
      2048 ≤ bits && bits ≤ 4096 && p * q == modulus && publicExponent % 2 == 1 &&
        65537 ≤ publicExponent
  | _ => false

/-- Whether bytes are a bare RSA key. -/
def isRsaKey (bytes : Bytes) : Bool :=
  match (parts? bytes).bind (·.mapM natural?) with
  | some numbers => isRsaKeyOf numbers
  | none => false

/-- Whether bytes are the element of an Edwards key. -/
def isEdwardsKey (bytes : Bytes) : Bool :=
  match readAll? bytes with
  | some [secret] => secret.tag == octetStringTag && secret.content.length == 32
  | _ => false

/-- What a wrapped key says: its version, its kind with parameters, and the key. -/
structure Wrapped where
  version : UInt8
  kind : List Element
  key : Bytes
  attributes : List Element

/-- Read a wrapped key. -/
def readWrapped? (bytes : Bytes) : Option Wrapped := do
  match ← parts? bytes with
  | version :: kind :: key :: attributes =>
      match ← version.content? integerTag with
      | [n] =>
          return ⟨n, ← kind.children? sequenceTag, ← key.content? octetStringTag, attributes⟩
      | _ => none
  | _ => none

/-- Whether only attributes without meaning here follow a key. -/
def hasPlainAttributes (wrapped : Wrapped) : Bool :=
  wrapped.version == 0 && wrapped.attributes.all (fun a => a.tag == numberedTag 0)

/-- Whether a wrapped key is of a kind with some parameters. -/
def isOfKind
    (wrapped : Wrapped)
    (identifier : Bytes)
    (parameters : List Element) :
    Bool :=
  wrapped.kind == ⟨identifierTag, identifier⟩ :: parameters

/-- Whether a wrapped key is a key on a curve. -/
def isWrappedOn
    (curve : Curve)
    (wrapped : Wrapped) :
    Bool :=
  hasPlainAttributes wrapped &&
    isOfKind wrapped Identifier.ellipticKey [⟨identifierTag, curve.identifier⟩] &&
    isEllipticKey curve wrapped.key

/-- The algorithm of a wrapped key. -/
def wrappedAlgorithm? (bytes : Bytes) : Option KeyAlgorithm := do
  let wrapped ← readWrapped? bytes
  if hasPlainAttributes wrapped && isOfKind wrapped Identifier.rsaKey [⟨0x05, []⟩] &&
      isRsaKey wrapped.key then
    return .rsa
  else if isWrappedOn .p256 wrapped || isWrappedOn .p384 wrapped then
    return .ecdsa
  else if wrapped.version ≤ 1 && isOfKind wrapped Identifier.edwardsKey [] &&
      isEdwardsKey wrapped.key then
    return .ed25519
  else
    none

/-- The algorithm of a key, if it is usable. -/
def algorithm? (s : Pem.Section) : Option KeyAlgorithm :=
  match s.kind with
  | .rsaPrivateKey => if isRsaKey s.content then some .rsa else none
  | .ecPrivateKey =>
      if isEllipticKey .p256 s.content || isEllipticKey .p384 s.content then some .ecdsa else none
  | .privateKey => wrappedAlgorithm? s.content
  | _ => none

end PrivateKey

/-- A key on the first curve: its secret number and its point. -/
structure KeyPair where
  secret : Bytes
  point : Bytes

namespace KeyPair

open Der

/-- The key that stands for every key that a gateway or an authority draws.
What a certificate says does not depend on it. -/
def sample : KeyPair where
  secret :=
    [ 0x44, 0x6d, 0x43, 0x25, 0x3a, 0x23, 0xc8, 0x6e, 0x11, 0x5b, 0xbb, 0x99, 0x2c, 0xa2, 0xab, 0x7e
    , 0xef, 0x29, 0x57, 0x05, 0xc7, 0x0a, 0x7c, 0x6c, 0xe3, 0xa6, 0x61, 0x99, 0xbe, 0x15, 0x39, 0xe5 ]
  point :=
    [ 0x04
    , 0x51, 0xc6, 0x65, 0x90, 0x79, 0xf0, 0xa7, 0x5d, 0x9b, 0x9c, 0xa8, 0x73, 0x10, 0x46, 0xc9, 0x72
    , 0xa7, 0x0e, 0xaf, 0x29, 0xd3, 0xd7, 0x42, 0x03, 0x6e, 0xdd, 0x84, 0x2e, 0x06, 0x4f, 0x24, 0x4c
    , 0x3e, 0x50, 0x55, 0x6c, 0x2a, 0x61, 0x1a, 0x93, 0x91, 0xf6, 0x81, 0x06, 0xcc, 0x41, 0x77, 0x91
    , 0x23, 0x0f, 0x83, 0xcb, 0xf4, 0xd8, 0xb8, 0x72, 0x06, 0x0d, 0xc3, 0xde, 0x73, 0x50, 0x16, 0xa5 ]

/-- The kind of the key with its curve. -/
def kind : Bytes :=
  sequenceOf
    [ tagged identifierTag Identifier.ellipticKey
    , tagged identifierTag Identifier.curveP256 ]

/-- The key, wrapped. -/
def wrap (pair : KeyPair) : Bytes :=
  let bare :=
    sequenceOf
      [ natural 1
      , tagged octetStringTag pair.secret
      , nested (numberedTag 1) [bitString pair.point] ]
  sequenceOf [natural 0, kind, tagged octetStringTag bare]

/-- The armoured text of the key. -/
def text (pair : KeyPair) : String :=
  Pem.write ⟨.privateKey, pair.wrap⟩

/-- The public half of the key, as certificates hold it. -/
def publicHalf (pair : KeyPair) : Bytes :=
  sequenceOf [kind, bitString pair.point]

end KeyPair

end OnDemandTls
