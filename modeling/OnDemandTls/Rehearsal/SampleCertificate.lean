import OnDemandTls.Certificate.Writer
import OnDemandTls.CertificateResource

namespace OnDemandTls

/-!
# Sample certificates

Certificates that a rehearsed authority issues.
-/

namespace SampleCertificate

/-- The armoured text of a certificate with a common name, for some names; there
is none for names that no certificate can hold. -/
def text?
    (commonName : String)
    (names : List String)
    (now notAfter : Int) :
    Option String := do
  let subjects ← names.mapM SubjectName.ofText?
  let subject := [NameAttribute.ofText Identifier.commonName commonName]
  let certificate : Certificate :=
    { issuer := subject
      subject := subject
      notBefore := now
      notAfter := notAfter
      extensions := if subjects.isEmpty then [] else [Certificate.alternativeNames subjects] }
  return certificate.text .sample

end SampleCertificate

end OnDemandTls
