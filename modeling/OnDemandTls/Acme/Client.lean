import OnDemandTls.Acme.Failure
import OnDemandTls.Bytes.Base64
import OnDemandTls.Bytes.Sha256
import OnDemandTls.Program

namespace OnDemandTls

/-!
# Issuance with an authority

A client orders a certificate, answers one challenge for every name that the
authority does not know yet, waits until the order is ready, and fetches the
certificate.  Whatever happens after an answer was deployed, the answer is
cleaned up again before the client comes to an end (`AcmeClient.obtain`).
-/

/-- A challenge that an authority offers. -/
structure OfferedChallenge where
  /-- The name of its type, which the client need not know. -/
  type : String
  token : String
  deriving DecidableEq, Repr

/-- What an authority wants to see before it issues for a name. -/
structure Authorization where
  /-- The name, with `*.` in front of a wildcard. -/
  identifier : String
  /-- Whether the authority is satisfied already. -/
  isValid : Bool
  challenges : List OfferedChallenge
  deriving DecidableEq, Repr

/-- An order at an authority. -/
structure AcmeOrder where
  number : Nat
  /-- How many authorizations it takes. -/
  authorizations : Nat
  deriving DecidableEq, Repr

/-- How an order stands. -/
structure OrderState where
  status : OrderStatus
  /-- Why the order failed, as the authority words it. -/
  problem : Option AcmeProblem
  deriving DecidableEq, Repr

/-- The calls of a client. -/
inductive AcmeCall where
  | openOrder (names : List String)
  | authorization (order : Nat) (index : Nat)
  | deploy (response : ChallengeResponse)
  | cleanup (response : ChallengeResponse)
  /-- Tell the authority that a challenge can be checked. -/
  | markReady (order : Nat) (index : Nat) (response : ChallengeResponse)
  | orderState (order : Nat)
  /-- Ask for the certificate to be made; the answer is the private key. -/
  | finalize (order : Nat)
  /-- Fetch the armoured chain. -/
  | download (order : Nat)
  /-- Ask for the time in milliseconds. -/
  | milliseconds
  | pause (milliseconds : Nat)
  deriving DecidableEq, Repr

/-- What the calls of a client are answered with. -/
abbrev AcmeCall.Answer : AcmeCall → Type
  | openOrder _ => Except ProtocolFault AcmeOrder
  | authorization _ _ => Except ProtocolFault Authorization
  | deploy _ => Except AuthorityError Unit
  | cleanup _ => Except AuthorityError Unit
  | markReady _ _ _ => Except ProtocolFault Unit
  | orderState _ => Except ProtocolFault OrderState
  | finalize _ => Except ProtocolFault String
  | download _ => Except ProtocolFault String
  | milliseconds => Nat
  | pause _ => Unit

/-- What a client's programs run against. -/
abbrev acmeCalls : Interface where
  Call := AcmeCall
  Answer := AcmeCall.Answer

/-- A program of a client. -/
abbrev AcmeProgram (α : Type) := Program acmeCalls α

namespace AcmeCall

/-- The program that makes a call and ends in its answer. -/
abbrev ask (call : AcmeCall) : AcmeProgram call.Answer :=
  Program.ask (I := acmeCalls) call

end AcmeCall

/-! ## Waiting -/

namespace Polling

/-- Milliseconds before an order is asked about for the first time. -/
def firstDelay : Nat := 250

/-- Milliseconds after which waiting for an order ends. -/
def patience : Nat := 30 * 1000

/-- Every delay is twice the one before; the eighth alone is longer than all
patience, so nobody asks more often. -/
def mostDelays : Nat := 8

/-- Ask how an order stands until it comes to a final status.  Waiting ends when
the next delay would end after the deadline. -/
def untilFinal
    (order : Nat)
    (isFinal : OrderStatus → Bool)
    (deadline : Nat) :
    Nat → Nat → AcmeProgram (Except ProtocolFault OrderStatus)
  | 0, _ => return .error .timedOut
  | delays + 1, delay => do
      (AcmeCall.pause delay).ask
      let now ← AcmeCall.milliseconds.ask
      if deadline < now + 2 * delay then
        return .error .timedOut
      else
        match ← (AcmeCall.orderState order).ask with
        | .error fault => return .error fault
        | .ok ⟨_, some problem⟩ => return .error (.refused problem)
        | .ok ⟨status, none⟩ =>
            if isFinal status then
              return .ok status
            else
              untilFinal order isFinal deadline delays (2 * delay)

/-- Wait for an order to come to a final status. -/
def await
    (order : Nat)
    (isFinal : OrderStatus → Bool) :
    AcmeProgram (Except ProtocolFault OrderStatus) := do
  let start ← AcmeCall.milliseconds.ask
  untilFinal order isFinal (start + patience) mostDelays firstDelay

end Polling

/-! ## Challenges -/

/-- A client of an authority. -/
structure AcmeClient where
  /-- The digest of the account's public key. -/
  thumbprint : String
  /-- The types of challenges that it answers; the first one offered is taken. -/
  responders : List ChallengeType
  deriving DecidableEq, Repr

namespace AcmeClient

/-- Whether wildcard names can be proved, which takes a DNS challenge. -/
def supportsWildcards (client : AcmeClient) : Bool :=
  client.responders.contains .dns01

/-- The answer to a challenge. -/
def responseTo
    (client : AcmeClient)
    (domain : String)
    (type : ChallengeType)
    (token : String) :
    ChallengeResponse :=
  let keyAuthorization := token ++ "." ++ client.thumbprint
  { domain := domain
    type := type
    token := token
    keyAuthorization := keyAuthorization
    dnsValue :=
      String.ofList (Base64.digits .url (Sha256.digest keyAuthorization.toUTF8.data.toList)) }

/-- The challenge that is answered: of the first type that both sides know. -/
def choose?
    (client : AcmeClient)
    (authorization : Authorization) :
    Option ChallengeResponse :=
  client.responders.findSome? fun type =>
    (authorization.challenges.find? (fun challenge => challenge.type == type.name)).map
      fun challenge =>
        client.responseTo (HostName.withoutWildcards authorization.identifier) type
          challenge.token

/-- What comes of answering challenges: whether it worked, and the answers that
are deployed. -/
abbrev Answered := Except AuthorityError Unit × List ChallengeResponse

/-- Deploy an answer and have the authority check it. -/
def respond
    (order index : Nat)
    (response : ChallengeResponse)
    (deployed : List ChallengeResponse) :
    AcmeProgram Answered := do
  match ← (AcmeCall.deploy response).ask with
  | .error error => return (.error error, deployed)
  | .ok () =>
      match ← (AcmeCall.markReady order index response).ask with
      | .error fault => return (.error (.protocol fault), deployed ++ [response])
      | .ok () => return (.ok (), deployed ++ [response])

/-- See to one authorization. -/
def authorize
    (client : AcmeClient)
    (order index : Nat)
    (deployed : List ChallengeResponse) :
    AcmeProgram Answered := do
  match ← (AcmeCall.authorization order index).ask with
  | .error fault => return (.error (.protocol fault), deployed)
  | .ok authorization =>
      if authorization.isValid then
        return (.ok (), deployed)
      else
        match client.choose? authorization with
        | none =>
            let fault := .noSupportedType authorization.identifier client.responders
            return (.error (.challengeFailed fault), deployed)
        | some response => respond order index response deployed

/-- See to authorizations one after another, until one fails. -/
def authorizeAll
    (client : AcmeClient)
    (order : Nat) :
    List Nat → List ChallengeResponse → AcmeProgram Answered
  | [], deployed => pure (.ok (), deployed)
  | index :: rest, deployed => do
      match ← client.authorize order index deployed with
      | (.error error, deployed) => return (.error error, deployed)
      | (.ok (), deployed) => authorizeAll client order rest deployed

/-- Wait for an order to become ready. -/
def awaitReady (order : Nat) : AcmeProgram (Except AuthorityError Unit) := do
  match ← Polling.await order (fun status => status = .ready ∨ status = .invalid) with
  | .error fault => return .error (.protocol fault)
  | .ok .ready => return .ok ()
  | .ok status => return .error (.orderFailed (.notReady status))

/-- Clean up answers one after another, whether or not that works. -/
def cleanupAll : List ChallengeResponse → AcmeProgram Unit
  | [] => pure ()
  | response :: rest => do
      let _ ← (AcmeCall.cleanup response).ask
      cleanupAll rest

/-- Satisfy all authorizations of an order; no answer stays deployed. -/
def satisfy
    (client : AcmeClient)
    (order : AcmeOrder) :
    AcmeProgram (Except AuthorityError Unit) := do
  let (answered, deployed) ←
    client.authorizeAll order.number (List.range order.authorizations) []
  let result ←
    match answered with
    | .error error => pure (Except.error error)
    | .ok () => awaitReady order.number
  cleanupAll deployed
  return result

/-! ## Orders -/

/-- Have the certificate of an order made, and fetch it with its key. -/
def collect (order : Nat) : AcmeProgram (Except ProtocolFault (String × String)) := do
  match ← (AcmeCall.finalize order).ask with
  | .error fault => return .error fault
  | .ok key =>
      match ← Polling.await order (fun status => status = .valid ∨ status = .invalid) with
      | .error fault => return .error fault
      | .ok .valid =>
          match ← (AcmeCall.download order).ask with
          | .error fault => return .error fault
          | .ok chain => return .ok (chain, key)
      | .ok _ => return .error (.missingData "invalid order state")

/-- Obtain a certificate for some names, the canonical one first. -/
def obtain
    (client : AcmeClient)
    (domains : List String) :
    AcmeProgram (Except AuthorityError CertificateResource) := do
  match domains with
  | [] => return .error (.orderFailed .noDomains)
  | canonical :: _ =>
      match ← (AcmeCall.openOrder domains).ask with
      | .error fault => return .error (.protocol fault)
      | .ok order =>
          match ← client.satisfy order with
          | .error error => return .error error
          | .ok () =>
              match ← collect order.number with
              | .error fault => return .error (.protocol fault)
              | .ok (chain, key) =>
                  return (CertificateResource.ofPem canonical chain key .acme).mapError
                    .invalidCertificate

end AcmeClient

end OnDemandTls
