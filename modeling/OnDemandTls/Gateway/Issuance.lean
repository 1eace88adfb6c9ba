import OnDemandTls.Gateway.Basic

namespace OnDemandTls

/-!
# Obtaining certificates

At most one issuance goes on for a store key; whoever else asks for that key
waits and takes what is stored then.  When an authority gives no certificate,
the one that is being renewed is kept for six more hours if it is still good,
and otherwise a mock is stored that says what went wrong.
-/

/-- Why no certificate is obtained. -/
inductive ObtainError where
  | store (error : StoreError)
  | mock (error : MockError)
  /-- The budget of a user is spent. -/
  | userBudgetSpent (user : String)
  /-- The issuance that was waited for left nothing in the store. -/
  | nothingLeftBehind (name : String)
  | emptyRequest
  deriving DecidableEq, Repr

namespace ObtainError

/-- The text of an error. -/
def message : ObtainError → String
  | store error => "💾 Certificate store error: " ++ error.message
  | mock error => "🎭 Mock certificate error: " ++ error.message
  | userBudgetSpent user =>
      "🚦 rate limit exceeded: 10 certificates per user per 24 hours (" ++ user ++ ")"
  | nothingLeftBehind name => "⏳ certificate for " ++ name ++ " failed in synchronous request"
  | emptyRequest => "⚠️ no domains requested"

end ObtainError

/-- What a request asks for in normal form. -/
structure Issuance where
  /-- The key under which the certificate is stored and the issuance is locked. -/
  key : String
  /-- The name that a mock is made for. -/
  subject : String
  /-- The names to order; none if the only one is a wildcard that cannot be
  proved. -/
  domains : List String
  deriving DecidableEq, Repr

namespace Issuance

/-- The names that a client can be asked for: without wildcards to prove, a
wildcard in the first place is dropped. -/
def provable
    (supportsWildcards : Bool)
    (domains : List String) :
    List String :=
  match domains with
  | [] => []
  | first :: rest =>
      if !supportsWildcards && first.toList.head? = some '*' then rest else domains

/-- The normal form of a request to a client that may be absent; a request
without names has none. -/
def ofRequest?
    (client : Option AuthorityClient)
    (request : ObtainRequest) :
    Option Issuance :=
  match request.domains.map HostName.fold with
  | [] => none
  | first :: rest =>
      let supportsWildcards :=
        match client with
        | some client => client.supportsWildcards
        | none => false
      let key := HostName.storeKey first
      let domains := provable supportsWildcards (first :: rest)
      some {
        key := key
        subject :=
          match domains with
          | subject :: _ => subject
          | [] => String.ofList (HostName.dropLeadingDots key.toList)
        domains := domains }

end Issuance

/-- The names for which a certificate is renewed: those of its leaf, with the
canonical one in the first place. -/
def CertificateResource.renewalDomains
    (previous : CertificateResource) :
    Except StoreError (List String) :=
  previous.leafDomains.map fun domains =>
    if domains.contains previous.domain then
      previous.domain :: domains.erase previous.domain
    else
      domains

namespace Gateway

/-- The reason in a mock for which there was no client to ask. -/
def noClient : String :=
  "ACME client uninitialized. This is a server error, please report!"

/-- The reason in a mock for which there was no name left to ask for. -/
def noWildcards : String :=
  "wildcard certificate requested from a client without DNS-01"

/-- Make a mock for a subject and file it under a key.  The mock counts even if
it cannot be stored. -/
def persistMock
    (key subject reason : String) :
    GatewayProgram (Except ObtainError CertificateResource) := do
  let now ← GatewayCall.clock.ask
  match Mock.make subject reason now with
  | .error error => return .error (.mock error)
  | .ok mock =>
      let _ ← (GatewayCall.putRecord key mock).ask
      return .ok mock

/-- Have the certificate of a request renewed, if an authority issued it; a
failure costs a token. -/
def renewPrevious
    (role : AuthorityRole)
    (previous : Option CertificateResource) :
    GatewayProgram (Option CertificateResource) := do
  match previous with
  | none => return none
  | some previous =>
      (GatewayCall.spend .request).ask
      match ← (GatewayCall.renew role previous).ask with
      | .ok renewed => return some renewed
      | .error _ =>
          (GatewayCall.spend .failure).ask
          return none

/-- Spend a token of the user who pays for an order, if there is one. -/
def chargeUser
    (user : Option String) :
    GatewayProgram (Except ObtainError Unit) := do
  match user with
  | none => return .ok ()
  | some user =>
      if ← (GatewayCall.askUser user).ask then
        return .ok ()
      else
        return .error (.userBudgetSpent user)

/-- Order a certificate at the price of an order and a request. -/
def placeOrder
    (role : AuthorityRole)
    (domains : List String) :
    GatewayProgram (Except AuthorityError CertificateResource) := do
  (GatewayCall.spend .order).ask
  (GatewayCall.spend .request).ask
  (GatewayCall.order role domains).ask

/-- What becomes of an issuance that failed: a certificate that is still good is
kept with a mark, and otherwise a mock takes its place. -/
def settleForLess
    (issuance : Issuance)
    (previous : Option CertificateResource)
    (reason : AuthorityError) :
    GatewayProgram (Except ObtainError CertificateResource) := do
  let now ← GatewayCall.clock.ask
  match previous.filter (fun resource => !resource.isExpired now) with
  | none => persistMock issuance.key issuance.subject reason.message
  | some previous =>
      let kept := previous.stamped now
      match ← (GatewayCall.putRecord issuance.key kept).ask with
      | .ok () => return .ok kept
      | .error error => persistMock issuance.key issuance.subject error.message

/-- Store what an authority issued, or settle for less. -/
def concludeIssuance
    (issuance : Issuance)
    (previous : Option CertificateResource)
    (result : Except AuthorityError CertificateResource) :
    GatewayProgram (Except ObtainError CertificateResource) := do
  match result with
  | .error reason => settleForLess issuance previous reason
  | .ok issued =>
      match ← (GatewayCall.putRecord issuance.key issued).ask with
      | .ok () => return .ok issued
      | .error error => return .error (.store error)

/-- Issue a certificate through a client: renew the one that an authority issued
before, and order a fresh one if that fails. -/
def issueThrough
    (issuance : Issuance)
    (request : ObtainRequest) :
    GatewayProgram (Except ObtainError CertificateResource) := do
  let previous := request.previous.filter (fun resource => resource.origin = .acme)
  match ← renewPrevious request.role previous with
  | some renewed => concludeIssuance issuance previous (.ok renewed)
  | none =>
      match ← chargeUser request.user with
      | .error error => return .error error
      | .ok () =>
          let result ← placeOrder request.role issuance.domains
          concludeIssuance issuance previous result

/-- What the owner of an issuance does. -/
def issue
    (client : Option AuthorityClient)
    (issuance : Issuance)
    (request : ObtainRequest) :
    GatewayProgram (Except ObtainError CertificateResource) :=
  if client.isNone then
    persistMock issuance.key issuance.subject noClient
  else if issuance.domains.isEmpty then
    persistMock issuance.key issuance.subject noWildcards
  else
    issueThrough issuance request

/-- Take what another issuance left in the store. -/
def takeStored
    (key : String) :
    GatewayProgram (Except ObtainError CertificateResource) := do
  match ← (GatewayCall.findRecord key).ask with
  | .error error => return .error (.store error)
  | .ok none => return .error (.nothingLeftBehind key)
  | .ok (some resource) => return .ok resource

/-- Obtain a certificate. -/
def obtain
    (gateway : Gateway)
    (request : ObtainRequest) :
    GatewayProgram (Except ObtainError CertificateResource) := do
  let client := gateway.client? request.role
  match Issuance.ofRequest? client request with
  | none => return .error .emptyRequest
  | some issuance =>
      match ← (GatewayCall.claim issuance.key).ask with
      | .busy guardNumber =>
          (GatewayCall.awaitRelease issuance.key guardNumber).ask
          takeStored issuance.key
      | .owner _ =>
          let result ← issue client issuance request
          (GatewayCall.release issuance.key).ask
          return result

/-- Make sure that the primary certificate is there. -/
def ensurePrimary
    (gateway : Gateway) :
    GatewayProgram (Except ObtainError CertificateResource) := do
  match ← (GatewayCall.findRecord gateway.primaryDomain.key).ask with
  | .error error => return .error (.store error)
  | .ok (some resource) => return .ok resource
  | .ok none => gateway.obtain { domains := gateway.primaryDomain.domains, role := .primary }

/-! ## Renewals -/

/-- The renewal of a tenant's certificate that is due: what it asks for. -/
def renewalRequest?
    (key : String)
    (resource : CertificateResource)
    (now : Int) :
    Option ObtainRequest :=
  match resource.renewalDecision now with
  | .valid => none
  | .backoff => none
  | .due => some { domains := [key], previous := some { resource with retryAfter := none } }

/-- Seconds before its expiry from which on the primary certificate is renewed. -/
def primaryRenewalWindow : Int := 30 * 24 * 60 * 60

/-- The renewal of the primary certificate that is due: what it asks for. -/
def primaryRenewalRequest?
    (gateway : Gateway)
    (resource : CertificateResource)
    (now : Int) :
    Option ObtainRequest :=
  if now + primaryRenewalWindow < resource.validTill then
    none
  else
    some {
      domains := gateway.primaryDomain.domains
      previous := some resource
      role := .primary }

/-- Start what a request asks for, if there is one; the answer is the number of
the task. -/
def start
    (request : Option ObtainRequest) :
    GatewayProgram (Option Nat) := do
  match request with
  | none => return none
  | some request => return some (← (GatewayCall.startObtaining request).ask)

end Gateway

end OnDemandTls
