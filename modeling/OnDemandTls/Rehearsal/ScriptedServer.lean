import OnDemandTls.Acme.Client
import OnDemandTls.Rehearsal.SampleCertificate
import OnDemandTls.Rehearsal.ScriptedAuthority

namespace OnDemandTls

/-!
# Scripted servers

A server of an authority that takes orders and handles each one as its script
says.
-/

/-- How an authorization stands when a client asks for it. -/
inductive AuthorizationStatus where
  | valid
  /-- The client has to do something. -/
  | open
  /-- The status is no word of the language between server and client. -/
  | unreadable
  deriving DecidableEq, Repr

/-- The script of one authorization. -/
structure ScriptedAuthorization where
  fetchProblem : Option AcmeProblem := none
  status : AuthorizationStatus := .open
  /-- The types of the challenges that are offered. -/
  types : List String := ["http-01", "dns-01", "tls-alpn-01"]
  /-- A name in place of the one that was ordered. -/
  identifier : Option String := none
  wildcard : Option Bool := none
  readyProblem : Option AcmeProblem := none
  challengeProblem : Option AcmeProblem := none

/-- The script of one order; a status that is absent is no word of the language
between server and client. -/
structure ScriptedOrder where
  openProblem : Option AcmeProblem := none
  authorizations : List ScriptedAuthorization := []
  /-- How the order stands before it is finalized, each time it is asked about;
  the last status is repeated. -/
  statuses : List (Option OrderStatus) := []
  /-- How the order stands after that. -/
  finalStatuses : List (Option OrderStatus) := []
  /-- Why the order becomes invalid. -/
  orderProblem : Option AcmeProblem := none
  finalizeProblem : Option AcmeProblem := none
  /-- The chain, in place of one that is issued. -/
  chain : Option String := none
  withIntermediate : Bool := false
  /-- Seconds for which the certificate is valid. -/
  validFor : Int := 7776000

/-- An order that a server has taken. -/
structure TakenOrder where
  script : ScriptedOrder
  names : List String
  isFinalized : Bool
  /-- How often the order was asked about, since it was finalized if it was. -/
  asked : Nat

/-- A server with its script. -/
structure ScriptedServer where
  /-- The scripts of the orders; the last one is repeated. -/
  scripts : List ScriptedOrder
  /-- The orders so far, refused ones included. -/
  orders : List TakenOrder

namespace ScriptedServer

/-- A server that has no orders yet. -/
def ofScripts (scripts : List ScriptedOrder) : ScriptedServer where
  scripts := scripts
  orders := []

/-- Take an order, which gets the next number. -/
def openOrder
    (server : ScriptedServer)
    (names : List String) :
    Except ProtocolFault AcmeOrder × ScriptedServer :=
  let number := server.orders.length
  let script := (ScriptedAuthority.atOrLast server.scripts number).getD {}
  ( match script.openProblem with
    | some problem => .error (.refused problem)
    | none => .ok ⟨number, names.length⟩
  , { server with orders := server.orders ++ [⟨script, names, false, 0⟩] } )

/-- An order without a script and without names, for numbers that were not given
out. -/
def noOrder : TakenOrder where
  script := {}
  names := []
  isFinalized := false
  asked := 0

/-- The order of a number. -/
def order
    (server : ScriptedServer)
    (number : Nat) :
    TakenOrder :=
  server.orders.getD number noOrder

/-- The script of an authorization of an order. -/
def authorizationScript
    (server : ScriptedServer)
    (number index : Nat) :
    ScriptedAuthorization :=
  (server.order number).script.authorizations.getD index {}

/-- A name without one leading wildcard, and whether there was one. -/
def splitWildcard (name : String) : String × Bool :=
  match name.toList with
  | '*' :: '.' :: rest => (String.ofList rest, true)
  | _ => (name, false)

/-- The name of an authorization as clients are shown it. -/
def identifier
    (server : ScriptedServer)
    (number index : Nat) :
    String :=
  let script := server.authorizationScript number index
  let (name, wildcard) := splitWildcard ((server.order number).names.getD index "")
  let name := script.identifier.getD name
  if script.wildcard.getD wildcard then "*." ++ name else name

/-- The token of a challenge. -/
def token
    (number index : Nat)
    (type : String) :
    String :=
  "tok-" ++ toString number ++ "-" ++ toString index ++ "-" ++ type

/-- An authorization of an order. -/
def authorization
    (server : ScriptedServer)
    (number index : Nat) :
    Except ProtocolFault Authorization :=
  let script := server.authorizationScript number index
  match script.fetchProblem, script.status with
  | some problem, _ => .error (.refused problem)
  | none, .unreadable => .error .unreadable
  | none, status =>
      .ok {
        identifier := server.identifier number index
        isValid := status = .valid
        challenges := script.types.map fun type => ⟨type, token number index type⟩ }

/-- What a server says when a client has deployed an answer. -/
def markReady
    (server : ScriptedServer)
    (number index : Nat) :
    Except ProtocolFault Unit :=
  let script := server.authorizationScript number index
  match script.readyProblem, script.challengeProblem with
  | some problem, _ => .error (.refused problem)
  | none, some problem => .error (.refused problem)
  | none, none => .ok ()

/-- The server with another state of an order. -/
def withOrder
    (server : ScriptedServer)
    (number : Nat)
    (order : TakenOrder) :
    ScriptedServer :=
  { server with orders := server.orders.set number order }

/-- How an order stands. -/
def orderState
    (server : ScriptedServer)
    (number : Nat) :
    Except ProtocolFault OrderState × ScriptedServer :=
  let order := server.order number
  let status :=
    if order.isFinalized then
      (ScriptedAuthority.atOrLast order.script.finalStatuses order.asked).getD (some .valid)
    else
      (ScriptedAuthority.atOrLast order.script.statuses order.asked).getD (some .ready)
  ( match status with
    | none => .error .unreadable
    | some .invalid => .ok ⟨.invalid, order.script.orderProblem⟩
    | some status => .ok ⟨status, none⟩
  , server.withOrder number { order with asked := order.asked + 1 } )

/-- Whether a client can ask for a certificate for the names of an order. -/
def canBeRequested
    (server : ScriptedServer)
    (number : Nat) :
    Bool :=
  (List.range (server.order number).names.length).all fun index =>
    (SubjectName.ofText? (server.identifier number index)).isSome

/-- Have the certificate of an order made. -/
def finalize
    (server : ScriptedServer)
    (number : Nat) :
    Except ProtocolFault String × ScriptedServer :=
  let order := server.order number
  match order.script.finalizeProblem with
  | some problem => (.error (.refused problem), server)
  | none =>
      ( .ok KeyPair.sample.text
      , server.withOrder number { order with isFinalized := true, asked := 0 } )

/-- The chain of an order. -/
def download
    (server : ScriptedServer)
    (number : Nat)
    (now : Int) :
    Except ProtocolFault String :=
  let order := server.order number
  match order.script.chain with
  | some chain => .ok chain
  | none =>
      let notAfter := now + order.script.validFor
      let leaf :=
        SampleCertificate.text? ("acme order " ++ toString number) order.names now notAfter
      let intermediate :=
        if order.script.withIntermediate then
          SampleCertificate.text? "intermediate" [] now notAfter
        else
          some ""
      match leaf, intermediate with
      | some leaf, some intermediate => .ok (leaf ++ intermediate)
      | _, _ => .error .ungenerated

end ScriptedServer

end OnDemandTls
