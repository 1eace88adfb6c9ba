import OnDemandTls.Certificate.PrivateKey
import OnDemandTls.Certificate.Reader
import OnDemandTls.Document.Decoding
import OnDemandTls.FileTree
import OnDemandTls.Json.Reader

namespace OnDemandTls

/-!
# Stored certificates

A certificate resource is what the gateway keeps of a certificate: the armoured
chain and key, when the leaf expires, and until when a failed renewal is not
tried again.  Times are seconds since 1970.
-/

/-- Where a stored certificate came from. -/
inductive CertificateOrigin where
  /-- Issued by an authority. -/
  | acme
  /-- Made by the gateway itself. -/
  | mock
  deriving DecidableEq, Repr

namespace CertificateOrigin

/-- The name of an origin. -/
def name : CertificateOrigin → String
  | acme => "acme"
  | mock => "mock"

/-- The origins under their names. -/
def names : List (String × CertificateOrigin) :=
  [("acme", acme), ("mock", mock)]

end CertificateOrigin

/-- A stored certificate. -/
structure CertificateResource where
  /-- The first name that the certificate was requested for. -/
  domain : String
  /-- The leaf and the certificates above it, armoured. -/
  certificateChain : String
  /-- The private key, armoured. -/
  privateKey : String
  /-- The certificate above the leaf, or the leaf if there is none, armoured. -/
  issuerCertificate : String
  /-- Instant before which issuance is not tried again. -/
  retryAfter : Option Int
  /-- Instant at which the leaf expires. -/
  validTill : Int
  origin : CertificateOrigin
  deriving DecidableEq, Repr

/-- Why a certificate cannot be used. -/
inductive CertificateFault where
  | noCertificates
  | unreadableLeaf
  | noPrivateKey
  | unsupportedKey
  /-- Any other reason, in its own words. -/
  | other (text : String)
  deriving DecidableEq, Repr

/-- Why a store, or a certificate in it, fails. -/
inductive StoreError where
  | io (error : OsError)
  /-- An armoured text is damaged. -/
  | damaged (damage : Pem.Damage)
  | serialization (error : DecodeError)
  | invalid (fault : CertificateFault)
  | closed
  deriving DecidableEq, Repr

namespace CertificateFault

/-- The text of a fault. -/
def message : CertificateFault → String
  | noCertificates => "No certificates found"
  | unreadableLeaf => "Failed to parse leaf"
  | noPrivateKey => "No private key found"
  | unsupportedKey => "Unsupported key type"
  | other text => text

end CertificateFault

namespace StoreError

/-- The text of an error with given words about a damaged document. -/
def messageWith
    (damagedWords : String) :
    StoreError → String
  | io error => "💥 IO error: " ++ error.message
  | damaged damage => "💥 IO error: " ++ damage.message
  | serialization error => "📦 Serialization error: " ++ error.message.getD damagedWords
  | invalid fault => "⚠️ Invalid certificate: " ++ fault.message
  | closed => "🔒 Certificate store is closed"

/-- The text of an error. -/
def message (error : StoreError) : String :=
  error.messageWith "malformed document"

end StoreError

/-- Whether a certificate is to be renewed. -/
inductive RenewalDecision where
  /-- More than a week is left. -/
  | valid
  /-- Due, but a recent failure asks to wait. -/
  | backoff
  | due
  deriving DecidableEq, Repr

/-- A certificate with its key, ready for handshakes: the certificates of the
chain, the leaf first. -/
structure CertifiedKey where
  certificates : List Bytes
  algorithm : KeyAlgorithm
  deriving DecidableEq, Repr

namespace CertificateResource

/-- Seconds before expiry from which on a certificate is renewed. -/
def renewalWindow : Int := 7 * 24 * 60 * 60

/-- Seconds for which a failed renewal is not tried again. -/
def retryBackoff : Int := 6 * 60 * 60

/-! ## Documents -/

/-- A resource with nothing in it. -/
def blank : CertificateResource where
  domain := ""
  certificateChain := ""
  privateKey := ""
  issuerCertificate := ""
  retryAfter := none
  validTill := 0
  origin := .acme

/-- How resources are read. -/
def shape : RecordShape CertificateResource where
  title := "CertificateResource"
  blank := blank
  fields :=
    [ .needed "domain" Reader.string (fun value resource => { resource with domain := value })
    , .needed "certificate_chain" Reader.string
        (fun value resource => { resource with certificateChain := value })
    , .needed "private_key" Reader.string
        (fun value resource => { resource with privateKey := value })
    , .defaulted "issuer_certificate" Reader.string
        (fun value resource => { resource with issuerCertificate := value })
    , .defaulted "retry_after" (Reader.optional Reader.signed64)
        (fun value resource => { resource with retryAfter := value })
    , .needed "valid_till" Reader.signed64
        (fun value resource => { resource with validTill := value })
    , .defaulted "origin" (Reader.choice CertificateOrigin.names)
        (fun value resource => { resource with origin := value }) ]

/-- The document of a resource. -/
def toDocument (resource : CertificateResource) : Document :=
  .record
    [ ("domain", .string resource.domain)
    , ("certificate_chain", .string resource.certificateChain)
    , ("private_key", .string resource.privateKey)
    , ("issuer_certificate", .string resource.issuerCertificate)
    , ("retry_after", .optional .integer resource.retryAfter)
    , ("valid_till", .integer resource.validTill)
    , ("origin", .string resource.origin.name) ]

/-- Read a resource from a JSON text. -/
def ofJson (text : String) : Except DecodeError CertificateResource :=
  (Json.read text).decode .json shape.read

/-! ## Chains and keys -/

/-- The certificates of an armoured text, the leaf first; there is at least one. -/
def chainOf (text : String) : Except StoreError (Bytes × List Bytes) :=
  match Pem.certificates text with
  | .error damage => .error (.damaged damage)
  | .ok [] => .error (.invalid .noCertificates)
  | .ok (leaf :: rest) => .ok (leaf, rest)

/-- The resource of an armoured chain and key; the expiry is read from the leaf. -/
def ofPem
    (domain chain key : String)
    (origin : CertificateOrigin) :
    Except StoreError CertificateResource := do
  let (leaf, rest) ← chainOf chain
  match Certificate.read? leaf with
  | none => throw (.invalid .unreadableLeaf)
  | some certificate =>
      return {
        domain := domain
        certificateChain := chain
        privateKey := key
        issuerCertificate := Pem.writeCertificate (rest.headD leaf)
        retryAfter := none
        validTill := certificate.notAfter
        origin := origin }

/-- The host names of the leaf, or the domain of the resource if there are none. -/
def leafDomains (resource : CertificateResource) : Except StoreError (List String) := do
  let (leaf, _) ← chainOf resource.certificateChain
  match Certificate.read? leaf with
  | none => throw (.invalid .unreadableLeaf)
  | some certificate =>
      match certificate.hostNames with
      | [] => return [resource.domain]
      | names => return names

/-- The certificate with its key, ready for handshakes. -/
def certifiedKey (resource : CertificateResource) : Except StoreError CertifiedKey := do
  let (leaf, rest) ← chainOf resource.certificateChain
  match Pem.privateKey? resource.privateKey with
  | .error damage => throw (.damaged damage)
  | .ok none => throw (.invalid .noPrivateKey)
  | .ok (some key) =>
      match PrivateKey.algorithm? key with
      | none => throw (.invalid .unsupportedKey)
      | some algorithm => return ⟨leaf :: rest, algorithm⟩

/-! ## Time -/

/-- Whether the leaf has expired. -/
def isExpired
    (resource : CertificateResource)
    (now : Int) :
    Bool :=
  resource.validTill ≤ now

/-- Whether the resource is to be renewed. -/
def renewalDecision
    (resource : CertificateResource)
    (now : Int) :
    RenewalDecision :=
  if now + renewalWindow < resource.validTill then
    .valid
  else
    match resource.retryAfter with
    | some retryAfter => if now < retryAfter then .backoff else .due
    | none => .due

/-- The resource with the mark of a renewal that failed now. -/
def stamped
    (resource : CertificateResource)
    (now : Int) :
    CertificateResource :=
  { resource with retryAfter := some (now + retryBackoff) }

end CertificateResource

end OnDemandTls
