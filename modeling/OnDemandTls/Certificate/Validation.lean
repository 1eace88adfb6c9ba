import OnDemandTls.Bytes.Sha256
import OnDemandTls.Certificate.Writer
import OnDemandTls.CertificateResource

namespace OnDemandTls

/-!
# Validation certificates

The certificate that answers a TLS challenge: it is for the name in question and
carries the digest of the key authorization in an extension that no other
program may overlook.
-/

namespace ValidationCertificate

/-- The extension with the digest of a key authorization. -/
def acmeIdentifier (keyAuthorization : String) : CertificateExtension where
  identifier := Identifier.acmeIdentifier
  critical := true
  value := Der.tagged Der.octetStringTag (Sha256.digest keyAuthorization.toUTF8.data.toList)

/-- The subject of certificates that nobody looks at. -/
def subject : List NameAttribute :=
  [.ofText Identifier.commonName "rcgen self signed cert"]

/-- The certificate for a name and a key authorization. -/
def certificate
    (name : SubjectName)
    (keyAuthorization : String) :
    Certificate where
  issuer := subject
  subject := subject
  notBefore := Calendar.dayNumber 1975 1 1 * 86400
  notAfter := Calendar.dayNumber 4096 1 1 * 86400
  extensions := [Certificate.alternativeNames [name], acmeIdentifier keyAuthorization]

/-- The certificate for a name with its key; nothing if no certificate can hold
the name. -/
def make?
    (domain keyAuthorization : String) :
    Option CertifiedKey :=
  (SubjectName.ofText? domain).map fun name =>
    ⟨[(certificate name keyAuthorization).write .sample], .ecdsa⟩

end ValidationCertificate

end OnDemandTls
