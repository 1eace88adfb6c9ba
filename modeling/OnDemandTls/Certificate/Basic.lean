import OnDemandTls.Certificate.SubjectName
import OnDemandTls.Der.Element

namespace OnDemandTls

/-!
# Certificates

What a certificate says: who issued it, for whom, for how long, and what its
extensions add.  Attributes, extensions and purposes are told apart by
registered identifiers, which are kept as they are encoded.
-/

namespace Identifier

/-! ## Registered identifiers, as they are encoded -/

def commonName : Bytes := [0x55, 0x04, 0x03]
def organization : Bytes := [0x55, 0x04, 0x0A]
def organizationalUnit : Bytes := [0x55, 0x04, 0x0B]
def keyUsage : Bytes := [0x55, 0x1D, 0x0F]
def alternativeName : Bytes := [0x55, 0x1D, 0x11]
def extendedKeyUsage : Bytes := [0x55, 0x1D, 0x25]
def serverAuthentication : Bytes := [0x2B, 0x06, 0x01, 0x05, 0x05, 0x07, 0x03, 0x01]
def clientAuthentication : Bytes := [0x2B, 0x06, 0x01, 0x05, 0x05, 0x07, 0x03, 0x02]
def acmeIdentifier : Bytes := [0x2B, 0x06, 0x01, 0x05, 0x05, 0x07, 0x01, 0x1F]
def ellipticKey : Bytes := [0x2A, 0x86, 0x48, 0xCE, 0x3D, 0x02, 0x01]
def curveP256 : Bytes := [0x2A, 0x86, 0x48, 0xCE, 0x3D, 0x03, 0x01, 0x07]
def curveP384 : Bytes := [0x2B, 0x81, 0x04, 0x00, 0x22]
def ellipticSignature : Bytes := [0x2A, 0x86, 0x48, 0xCE, 0x3D, 0x04, 0x03, 0x02]
def rsaKey : Bytes := [0x2A, 0x86, 0x48, 0x86, 0xF7, 0x0D, 0x01, 0x01, 0x01]
def edwardsKey : Bytes := [0x2B, 0x65, 0x70]

end Identifier

/-- One attribute of an issuer or a subject. -/
structure NameAttribute where
  identifier : Bytes
  value : Der.Element
  deriving DecidableEq, Repr

/-- The text of an attribute, if it is one. -/
def NameAttribute.text? (entry : NameAttribute) : Option String :=
  String.fromUTF8? ⟨entry.value.content.toArray⟩

/-- The attribute of a text. -/
def NameAttribute.ofText
    (identifier : Bytes)
    (value : String) :
    NameAttribute where
  identifier := identifier
  value := ⟨Der.utf8Tag, value.toUTF8.data.toList⟩

/-- An extension of a certificate. -/
structure CertificateExtension where
  identifier : Bytes
  critical : Bool
  value : Bytes
  deriving DecidableEq, Repr

/-- What a certificate says. -/
structure Certificate where
  issuer : List NameAttribute
  subject : List NameAttribute
  notBefore : Int
  notAfter : Int
  extensions : List CertificateExtension
  deriving DecidableEq, Repr

namespace Certificate

/-- The first attribute of the subject under an identifier. -/
def subjectText?
    (certificate : Certificate)
    (identifier : Bytes) :
    Option String :=
  (certificate.subject.find? (fun entry => entry.identifier == identifier)).bind
    NameAttribute.text?

/-- The only extension under an identifier; nothing if there are more. -/
def extension?
    (certificate : Certificate)
    (identifier : Bytes) :
    Option CertificateExtension :=
  match certificate.extensions.filter (fun e => e.identifier == identifier) with
  | [only] => some only
  | _ => none

/-- The name of an element in a list of alternative names; names of other kinds
are passed over. -/
def alternativeName? (element : Der.Element) : Option (Option SubjectName) :=
  if element.tag = Der.plainNumberedTag 2 then
    (String.fromUTF8? ⟨element.content.toArray⟩).map (fun name => some (.host name))
  else if element.tag = Der.plainNumberedTag 7 then
    some (some (.address element.content))
  else
    some none

/-- The alternative names in the value of an extension. -/
def readAlternativeNames? (value : Bytes) : Option (List SubjectName) := do
  let (outer, _) ← Der.read? value
  let elements ← outer.children? Der.sequenceTag
  let names ← elements.mapM alternativeName?
  return names.filterMap id

/-- The names that a certificate is for; none if they cannot be read. -/
def names (certificate : Certificate) : List SubjectName :=
  ((certificate.extension? Identifier.alternativeName).bind
    (fun e => readAlternativeNames? e.value)).getD []

/-- The host names that a certificate is for. -/
def hostNames (certificate : Certificate) : List String :=
  certificate.names.filterMap fun
    | .host name => some name
    | .address _ => none

/-- The uses of the key, the first use in the lowest bit. -/
def keyUsageBits (certificate : Certificate) : Nat :=
  let value := (certificate.extension? Identifier.keyUsage).bind fun e =>
    (Der.read? e.value).bind fun (element, _) => element.content? Der.bitStringTag
  match value with
  | some (_ :: first :: _) =>
      (List.range 8).foldl
        (fun bits bit => if first.toNat.testBit (7 - bit) then bits + Nat.pow 2 bit else bits) 0
  | _ => 0

/-- Whether a certificate is meant for a purpose. -/
def hasPurpose
    (certificate : Certificate)
    (purpose : Bytes) :
    Bool :=
  let purposes := do
    let e ← certificate.extension? Identifier.extendedKeyUsage
    let (outer, _) ← Der.read? e.value
    outer.children? Der.sequenceTag
  (purposes.getD []).any (fun element => element == ⟨Der.identifierTag, purpose⟩)

end Certificate

end OnDemandTls
