import OnDemandTls.Gateway.Maintenance
import OnDemandTls.Store.Opened

namespace OnDemandTls

/-!
# Gateways alone

When a gateway starts, nothing runs beside it: its programs run one after
another, at one moment, no lock is ever taken by somebody else, and no budget is
spent.  Each call then has one answer, and a program is a function of what the
gateway holds.
-/

/-- What a gateway that runs alone holds. -/
structure GatewayHoldings where
  store : CertificateStore
  tree : FileTree
  locks : IssuanceLocks := IssuanceLocks.empty
  staged : StagedChallenges := TimedCatalog.empty
  readyCertificates : TimedCatalog CertifiedKey := TimedCatalog.empty
  /-- The issuances that were started and not carried out. -/
  started : List ObtainRequest := []

/-- What a gateway that runs alone meets. -/
structure GatewayMoment where
  /-- The second at which all happens. -/
  second : Int
  /-- What an authority answers to an order. -/
  order : AuthorityRole → List String → Except AuthorityError CertificateResource

namespace GatewayHoldings

/-- A call that changes the store and its file. -/
def changeStore
    {α : Type}
    (change :
      CertificateStore → FileTree → Except StoreError α × CertificateStore × FileTree) :
    StateM GatewayHoldings (Except StoreError α) := do
  let holdings ← get
  let (answer, store, tree) := change holdings.store holdings.tree
  set { holdings with store := store, tree := tree }
  return answer

/-- The answer to a call. -/
def answer
    (moment : GatewayMoment)
    (call : GatewayCall) :
    StateM GatewayHoldings call.Answer :=
  match call with
  | .clock => return moment.second
  | .findRecord name => return (← get).store.get? name
  | .putRecord name resource => changeStore fun store tree => store.put tree name resource
  | .deleteRecord name => changeStore fun store tree => store.delete tree name
  | .listRecords => return (← get).store.all
  | .compactStore => changeStore fun store tree => store.compact tree
  | .claim name => do
      let (claim, locks) := (← get).locks.acquire name
      modify fun holdings => { holdings with locks := locks }
      return claim
  | .awaitRelease _ _ => pure ()
  | .release name =>
      modify fun holdings => { holdings with locks := holdings.locks.release name }
  | .spend _ => pure ()
  | .askUser _ => return true
  | .renew role previous =>
      match previous.renewalDomains with
      | .error error => return .error (.invalidCertificate error)
      | .ok domains => return moment.order role domains
  | .order role domains => return moment.order role domains
  | .findReady key => return (← get).readyCertificates.find? key 0
  | .keepReady key certified =>
      modify fun holdings =>
        { holdings with
          readyCertificates :=
            holdings.readyCertificates.file key certified Gateway.readyLifetime }
  | .dropReady key =>
      modify fun holdings =>
        { holdings with readyCertificates := holdings.readyCertificates.remove key }
  | .purgeReady => return 0
  | .stagedAnswer name => return (← get).staged.find? name 0
  | .purgeStaged => return 0
  | .startObtaining request => do
      let number := (← get).started.length
      modify fun holdings => { holdings with started := holdings.started ++ [request] }
      return number
  | .goesOn => return true
  | .rest _ => pure ()

/-- Run a program. -/
def run
    {α : Type}
    (moment : GatewayMoment) :
    GatewayProgram α → StateM GatewayHoldings α
  | .done value => return value
  | .call request next => do
      let value ← answer moment request
      run moment (next value)

/-- Carry out the issuances that were started. -/
def finishStarted
    (moment : GatewayMoment)
    (gateway : Gateway) :
    StateM GatewayHoldings Unit := do
  let requests := (← get).started
  modify fun holdings => { holdings with started := [] }
  for request in requests do
    let _ ← run moment (gateway.obtain request)

end GatewayHoldings

end OnDemandTls
