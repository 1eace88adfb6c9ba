import OnDemandTls.Document.Lenient
import OnDemandTls.Rehearsal.Session

namespace OnDemandTls

/-!
# Reports

What a rehearsal says about certificates, failures and events, as documents.
Times of certificates count from the beginning of the rehearsal.  The words
about a damaged text say nothing about the gateway and are left out; a name in
angle brackets stands in their place.
-/

namespace Report

open Document

/-- What stands for the words about a malformed document. -/
def malformed : String := "<syntax>"

/-- What stands for the words about a certificate that cannot be made. -/
def ungenerated : String := "<generation>"

/-! ## Certificates -/

/-- A wall-clock time. -/
def time (seconds : Int) : Document :=
  .integer (seconds - World.epoch)

/-- Bytes as pairs of hexadecimal digits. -/
def hexadecimal (bytes : Bytes) : String :=
  String.ofList (bytes.flatMap fun byte =>
    let digits := Nat.toDigits 16 byte.toNat
    List.replicate (2 - digits.length) '0' ++ digits)

/-- A name that a certificate is for. -/
def subjectName : SubjectName → Document
  | .host name => .string name
  | .address bytes => .string ("ip:" ++ hexadecimal bytes)

/-- What stands before the reason in the subject of a mock. -/
def reasonMark : String := "Error message: "

/-- What follows the mark in a text. -/
def reasonOf? (text : String) : Option String :=
  match text.splitOn reasonMark with
  | _ :: first :: rest => some (reasonMark.intercalate (first :: rest))
  | _ => none

/-- A certificate. -/
def certificate (certificate : Certificate) : Document :=
  .record
    [ ("cn", .optional .string (certificate.subjectText? Identifier.commonName))
    , ("names", .sequence (certificate.names.map subjectName))
    , ("not_after", time certificate.notAfter)
    , ("note",
        .optional .string
          ((certificate.subjectText? Identifier.organizationalUnit).bind reasonOf?)) ]

/-- The bytes of a certificate. -/
def leaf (bytes : Bytes) : Document :=
  match Certificate.read? bytes with
  | some leaf => certificate leaf
  | none => .string "unparsable"

/-- An armoured chain: its leaf, or the text itself if it holds no certificate. -/
def chain (text : String) : Document :=
  match CertificateResource.chainOf text with
  | .ok (bytes, _) => leaf bytes
  | .error (.invalid .noCertificates) => .string text
  | .error _ => .string "unparsable"

/-- The members of a stored certificate. -/
def resourceMembers (resource : CertificateResource) : List (String × Document) :=
  [ ("domain", .string resource.domain)
  , ("origin", .string resource.origin.name)
  , ("valid_till", time resource.validTill)
  , ("retry_after", .optional time resource.retryAfter)
  , ("cert", chain resource.certificateChain) ]

/-- A stored certificate. -/
def resource (resource : CertificateResource) : Document :=
  .record (resourceMembers resource)

/-- The records of a store. -/
def records (records : Records) : Document :=
  .record (records.toList.map (fun (key, stored) => (key, resource stored)))

/-- A certificate that is ready for handshakes. -/
def certified (certified : CertifiedKey) : Document :=
  match certified.certificates with
  | bytes :: _ => leaf bytes
  | [] => .null

/-! ## Failures -/

/-- A failure of a store. -/
def storeFailure (error : StoreError) : Document :=
  match error with
  | .damaged _ => failure "Io" "<pem>"
  | .io _ => failure "Io" error.message
  | .serialization _ => failure "Serialization" (error.messageWith malformed)
  | .invalid _ => failure "Invalid" error.message
  | .closed => failure "Closed" error.message

/-- A failure of an authority. -/
def authorityFailure (error : AuthorityError) : Document :=
  match error with
  | .protocol .unreadable => failure "Protocol" "<json>"
  | .protocol .ungenerated => failure "Protocol" ungenerated
  | .protocol _ => failure "Protocol" error.message
  | .challengeFailed _ => failure "ChallengeFailed" error.message
  | .orderFailed _ => failure "OrderFailed" error.message
  | .generation _ => failure "CertGeneration" error.message
  | .invalidCertificate (.damaged _) => failure "InvalidCertificate" "<pem>"
  | .invalidCertificate _ => failure "InvalidCertificate" error.message
  | .configuration _ => failure "Config" error.message

/-- The kind of a failure to obtain a certificate. -/
def obtainKind : ObtainError → String
  | .store _ => "Store"
  | .mock _ => "Mock"
  | .userBudgetSpent _ => "UserRateLimitExceeded"
  | .nothingLeftBehind _ => "ConcurrentObtainFailed"
  | .emptyRequest => "EmptyRequest"

/-- A failure to obtain a certificate. -/
def obtainFailure (error : ObtainError) : Document :=
  match error with
  | .mock .generation => failure (obtainKind error) ungenerated
  | error => failure (obtainKind error) error.message

/-- A failure to choose a certificate. -/
def resolveFailure (error : ResolveError) : Document :=
  match error with
  | .missingName => failure "MissingSni" error.message
  | .noChallenge _ => failure "NoChallengeForDomain" error.message
  | .noPrimaryCertificate => failure "PrimaryCertificateMissing" error.message
  | .issuanceNotAllowed _ => failure "IssuanceNotAllowed" error.message
  | .store _ => failure "Store" error.message
  | .unusable _ _ => failure "InvalidCertificate" error.message
  | .challenge => failure "Challenge" ungenerated
  | .certificate inner => failure "Certificate" (obtainKind inner)

/-! ## Results -/

/-- The certificate for a handshake. -/
def resolved : Option (Except ResolveError CertifiedKey) → Document :=
  .optional (.result certified resolveFailure)

/-- A certificate that was to be obtained. -/
def obtained : Option (Except ObtainError CertificateResource) → Document :=
  .optional (.result resource obtainFailure)

/-- What a store says about its compaction, without the count of bytes. -/
def compaction (summary : String) : Document :=
  match summary.splitOn " record(s), " with
  | [count, _] => .string (count ++ " record(s), # bytes")
  | _ => .string summary

/-- A cycle of maintenance. -/
def maintenance (report : MaintenanceReport) : Document :=
  .record
    [ ("deleted", texts report.deleted)
    , ("compact", .optional compaction report.compaction)
    , ("purged", count report.purged)
    , ("primary_renewal", .boolean report.primaryRenewal.isSome) ]

/-- A scheduled renewal. -/
def renewal : RenewalOutcome → Document
  | .renewed => .string "renewed"
  | .notDue => .string "not due"
  | .noCertificate => .string "no resource"

/-- A version of the handshake. -/
def version : TlsVersion → Document
  | .v12 => .string "1.2"
  | .v13 => .string "1.3"

/-- A handshake that the server ends. -/
def brokenHandshake (kind : String) (words : Document) : Document :=
  .record
    [ ("server", .record [("error", .string kind), ("message", words)])
    , ("client", .string "failed") ]

/-- A handshake, on both sides. -/
def handshake : HandshakeOutcome → Document
  | .refused error => brokenHandshake "Resolve" (resolveFailure error)
  | .disagreement => brokenHandshake "Io" (.string "<tls>")
  | .done name protocol agreed key =>
      .record
        [ ("server", .record
            [ ("server_name", .string name)
            , ("alpn", .optional .string protocol)
            , ("version", version agreed) ])
        , ("client", certified key) ]

/-- An event. -/
def event : RehearsalEvent → Document
  | .asked label domains instant =>
      .record [("ca", .string label), ("domains", texts domains), ("t_ms", count instant)]
  | .orderOpened names => .record [("acme", .string "new_order"), ("names", texts names)]
  | .challengeReady type domain tlsAnswer httpAnswer hookLines =>
      .record
        [ ("acme", .string "challenge_ready")
        , ("type", .string type)
        , ("domain", .string domain)
        , ("tls_alpn", .optional .string tlsAnswer)
        , ("http", .optional .string httpAnswer)
        , ("dns", texts hookLines) ]
  | .finalized => .record [("acme", .string "finalize")]

end Report

end OnDemandTls
