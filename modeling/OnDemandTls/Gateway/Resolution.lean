import OnDemandTls.Certificate.Validation
import OnDemandTls.Gateway.Issuance

namespace OnDemandTls

/-!
# Choosing certificates

Every handshake names a server and offers protocols.  A validation handshake is
answered with a certificate for the staged challenge.  Any other handshake gets
the primary certificate, or that of an authorized custom domain: one that is
ready, one from the store, or one that is obtained while the client waits.
-/

/-- Why a handshake gets no certificate. -/
inductive ResolveError where
  | missingName
  | noChallenge (name : String)
  | noPrimaryCertificate
  | issuanceNotAllowed (name : String)
  | store (error : StoreError)
  | unusable (name : String) (reason : StoreError)
  /-- No certificate can be made for the name of a challenge. -/
  | challenge
  | certificate (error : ObtainError)
  deriving DecidableEq, Repr

namespace ResolveError

/-- The text of an error. -/
def message : ResolveError → String
  | missingName => "🚫 missing domain info via SNI (RFC 4366, Section 3.1)"
  | noChallenge name => "🎯 no challenge for " ++ name
  | noPrimaryCertificate => "💥 primary certificate missing from the store"
  | issuanceNotAllowed name => "🚫 won't request certificate for " ++ name
  | store error => "💾 " ++ error.message
  | unusable name reason => "📜 unusable certificate for " ++ name ++ ": " ++ reason.message
  | challenge => "🔒 " ++ (AuthorityError.generation "the name is not ASCII").message
  | certificate error => "🛡️ " ++ error.message

end ResolveError

/-- Where the certificate for a name is. -/
structure ServingTarget where
  key : String
  primary : Bool
  issuanceAllowed : Bool
  /-- The user whose budget pays for issuance. -/
  user : Option String
  deriving DecidableEq, Repr

namespace Gateway

/-- Milliseconds for which a certificate stays ready. -/
def readyLifetime : Nat := 15 * 60 * 1000

/-- The target of names that nobody has claimed with success. -/
def primaryTarget (gateway : Gateway) : ServingTarget where
  key := gateway.primaryDomain.key
  primary := true
  issuanceAllowed := false
  user := none

/-- The target of a name: custom domains that are confirmed have certificates of
their own. -/
def classify
    (gateway : Gateway)
    (name : String) :
    ServingTarget :=
  if gateway.primaryDomain.covers name then
    gateway.primaryTarget
  else
    match gateway.authority name with
    | none => gateway.primaryTarget
    | some claim =>
        if claim.authorized then
          { key := HostName.storeKey name
            primary := false
            issuanceAllowed := true
            user := some claim.owner }
        else
          gateway.primaryTarget

/-- The certificate that answers a TLS challenge. -/
def resolveChallenge
    (name : String) :
    GatewayProgram (Except ResolveError CertifiedKey) := do
  match ← (GatewayCall.stagedAnswer name).ask with
  | none => return .error (.noChallenge name)
  | some keyAuthorization =>
      match ValidationCertificate.make? name keyAuthorization with
      | none => return .error .challenge
      | some certified => return .ok certified

/-- Obtain a certificate for a name while its client waits; if that fails, the
client gets a mock. -/
def obtainForClient
    (gateway : Gateway)
    (target : ServingTarget)
    (name : String) :
    GatewayProgram (Except ResolveError CertificateResource) := do
  match ← gateway.obtain { domains := [name], user := target.user } with
  | .ok resource => return .ok resource
  | .error reason =>
      match ← persistMock target.key name reason.message with
      | .ok mock => return .ok mock
      | .error error => return .error (.certificate error)

/-- The stored certificate of a target, or one that is obtained; a stored one is
renewed on the side when it is due. -/
def stored
    (gateway : Gateway)
    (target : ServingTarget)
    (name : String) :
    GatewayProgram (Except ResolveError CertificateResource) := do
  match ← (GatewayCall.findRecord target.key).ask with
  | .error error => return .error (.store error)
  | .ok (some resource) =>
      if target.primary then
        return .ok resource
      else
        let now ← GatewayCall.clock.ask
        let _ ← start (renewalRequest? target.key resource now)
        return .ok resource
  | .ok none =>
      if target.primary then
        return .error .noPrimaryCertificate
      else if target.issuanceAllowed then
        gateway.obtainForClient target name
      else
        return .error (.issuanceNotAllowed name)

/-- The certificate of a target, ready for handshakes. -/
def resolveTarget
    (gateway : Gateway)
    (target : ServingTarget)
    (name : String) :
    GatewayProgram (Except ResolveError CertifiedKey) := do
  match ← (GatewayCall.findReady target.key).ask with
  | some certified => return .ok certified
  | none =>
      match ← gateway.stored target name with
      | .error error => return .error error
      | .ok resource =>
          match resource.certifiedKey with
          | .error reason => return .error (.unusable name reason)
          | .ok certified =>
              (GatewayCall.keepReady target.key certified).ask
              return .ok certified

/-- Choose the certificate for a handshake that may name a server and offers
some protocols. -/
def resolve
    (gateway : Gateway)
    (serverName : Option String)
    (protocols : List String) :
    GatewayProgram (Except ResolveError CertifiedKey) :=
  match (serverName.map HostName.asked).filter (· ≠ "") with
  | none => return .error .missingName
  | some name =>
      if protocols.contains validationProtocol then
        resolveChallenge name
      else
        gateway.resolveTarget (gateway.classify name) name

/-- Have the next handshake for a name read the store again. -/
def invalidate
    (name : String) :
    GatewayProgram Unit :=
  (GatewayCall.dropReady (HostName.storeKey name)).ask

end Gateway

end OnDemandTls
