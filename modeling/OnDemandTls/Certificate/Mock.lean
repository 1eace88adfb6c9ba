import OnDemandTls.Certificate.Writer
import OnDemandTls.CertificateResource

namespace OnDemandTls

/-!
# Mock certificates

A mock stands in for a certificate that could not be obtained.  It is signed by
itself, says why in its subject, and is valid for a week and six hours: it comes
into the renewal window after six hours, when issuance is tried again.
-/

/-- Why no mock can be made. -/
inductive MockError where
  /-- The name has characters that no certificate can hold. -/
  | generation
  deriving DecidableEq, Repr

namespace MockError

/-- The text of an error. -/
def message : MockError → String
  | generation => "🔧 Certificate generation error: the name is not ASCII"

end MockError

namespace Mock

/-- Seconds for which a mock is valid. -/
def validity : Int := (7 * 24 + 6) * 60 * 60

/-- The organization in the subject. -/
def organization : String :=
  "Pages Error Certificate (couldn't obtain ACME certificate)"

/-- What stands before the reason in the subject. -/
def advice : String :=
  "Will not try again for 6 hours to avoid hitting rate limits for your domain. " ++
    "Check the DNS records of your domain and the gateway documentation for " ++
    "troubleshooting tips. Error message: "

/-- The subject of a mock. -/
def subject (domain reason : String) : List NameAttribute :=
  [ .ofText Identifier.commonName domain
  , .ofText Identifier.organization organization
  , .ofText Identifier.organizationalUnit (advice ++ reason) ]

/-- The certificate of a mock. -/
def certificate
    (domain reason : String)
    (name : SubjectName)
    (now : Int) :
    Certificate where
  issuer := subject domain reason
  subject := subject domain reason
  notBefore := now
  notAfter := now + validity
  extensions :=
    [Certificate.alternativeNames [name], Certificate.serverKeyUsage, Certificate.serverPurpose]

/-- A mock for a name that says why it was made. -/
def make
    (domain reason : String)
    (now : Int) :
    Except MockError CertificateResource :=
  match SubjectName.ofText? domain with
  | none => .error .generation
  | some name =>
      let chain := (certificate domain reason name now).text .sample
      .ok {
        domain := domain
        certificateChain := chain
        privateKey := KeyPair.sample.text
        issuerCertificate := chain
        retryAfter := none
        validTill := now + validity
        origin := .mock }

end Mock

end OnDemandTls
