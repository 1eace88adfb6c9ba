import OnDemandTls.Calendar
import OnDemandTls.Certificate.PrivateKey

namespace OnDemandTls

/-!
# Writing certificates

The bytes of a certificate for a key.  Signing is left to the host of a gateway:
a blank signature stands in its place, which readers pass over.
-/

namespace Certificate

open Der

/-- The bytes of an instant: with two digits for the year as long as they are
enough. -/
def writeInstant (seconds : Int) : Bytes :=
  let moment := Calendar.ofSeconds seconds
  if Calendar.hasShortYear moment.year then
    tagged utcTimeTag moment.short
  else
    tagged generalizedTimeTag moment.long

/-- The bytes of an issuer or a subject. -/
def writeName (attributes : List NameAttribute) : Bytes :=
  sequenceOf (attributes.map (fun entry =>
    nested setTag
      [sequenceOf [tagged identifierTag entry.identifier, Der.write entry.value]]))

/-- The bytes of an extension. -/
def writeExtension (e : CertificateExtension) : Bytes :=
  sequenceOf
    ([tagged identifierTag e.identifier] ++
      (if e.critical then [tagged booleanTag [0xFF]] else []) ++
      [tagged octetStringTag e.value])

/-- The bytes of an alternative name. -/
def writeAlternativeName : SubjectName → Bytes
  | .host name => tagged (plainNumberedTag 2) name.toUTF8.data.toList
  | .address bytes => tagged (plainNumberedTag 7) bytes

/-- The extension with the names that a certificate is for. -/
def alternativeNames (names : List SubjectName) : CertificateExtension where
  identifier := Identifier.alternativeName
  critical := false
  value := sequenceOf (names.map writeAlternativeName)

/-- The extension that allows signatures and the wrapping of keys. -/
def serverKeyUsage : CertificateExtension where
  identifier := Identifier.keyUsage
  critical := true
  value := tagged bitStringTag [5, 0xA0]

/-- The extension that allows a server to show a certificate. -/
def serverPurpose : CertificateExtension where
  identifier := Identifier.extendedKeyUsage
  critical := false
  value := sequenceOf [tagged identifierTag Identifier.serverAuthentication]

/-- The kind of the signature. -/
def signatureKind : Bytes :=
  sequenceOf [tagged identifierTag Identifier.ellipticSignature]

/-- The part of a certificate that is signed. -/
def signedPart
    (certificate : Certificate)
    (key : KeyPair) :
    Bytes :=
  sequenceOf
    ([ nested (numberedTag 0) [natural 2]
     , natural 1
     , signatureKind
     , writeName certificate.issuer
     , sequenceOf [writeInstant certificate.notBefore, writeInstant certificate.notAfter]
     , writeName certificate.subject
     , key.publicHalf ] ++
      (if certificate.extensions.isEmpty then
        []
      else
        [nested (numberedTag 3) [sequenceOf (certificate.extensions.map writeExtension)]]))

/-- The bytes of a certificate for a key. -/
def write
    (certificate : Certificate)
    (key : KeyPair) :
    Bytes :=
  sequenceOf [certificate.signedPart key, signatureKind, bitString (sequenceOf [natural 0, natural 0])]

/-- The armoured text of a certificate for a key. -/
def text
    (certificate : Certificate)
    (key : KeyPair) :
    String :=
  Pem.writeCertificate (certificate.write key)

end Certificate

end OnDemandTls
