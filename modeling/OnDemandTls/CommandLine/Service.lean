import OnDemandTls.CommandLine.Outcome
import OnDemandTls.Gateway.Alone
import OnDemandTls.Gateway.Clients

namespace OnDemandTls

/-!
# Running a gateway

A gateway that starts opens its store, sets up its account, sees to its primary
certificate and takes its addresses, in this order; the first of these that
fails ends it.  Without an account it still serves, with mocks.  When it is told
to stop, it closes its store.
-/

/-- What a gateway has when it has started. -/
structure RunningGateway where
  gateway : Gateway
  moment : GatewayMoment
  store : CertificateStore
  listeners : List SocketAddress

namespace RunningGateway

/-- Change a store and its file. -/
def onStore
    {α : Type}
    (change : FileTree → Except StoreError α × FileTree)
    (failure : StoreError → CommandFailure) :
    CommandStep α :=
  fun tree =>
    match change tree with
    | (.ok value, tree) => .ok value tree
    | (.error error, tree) => .error (failure error) tree

/-- Open the store, which has to be readable. -/
def openStore (config : Config) : CommandStep CertificateStore := do
  let store ←
    onStore (fun tree => CertificateStore.ofSettings tree config.database) .storeNotOpened
  match store.get? config.primarySuffix with
  | .ok _ => return store
  | .error error => throw (.primaryNotRead error)

/-- Set up the clients of an account; there are none if no authority is to be
asked, or if it does not give an account. -/
def clients
    (machine : Machine)
    (config : Config) :
    CommandStep (Option AccountClients) := do
  if config.acme.apiEndpoint = AcmeDirectory.mock then
    return none
  let (outcome, tree) :=
    AcmeAccount.loadOrRegister machine.network.accounts config.acme machine.now (← get)
  set tree
  match outcome with
  | .ready account =>
      match AccountClients.make account.thumbprint config.server.httpServerEnabled
          config.acme.dnsProvider (machine.environment "EXEC_PATH") with
      | .ok clients => return some clients
      | .error fault => throw (.badClient fault)
  | .failed (.acme _) => return none
  | .failed .invalidBinding => return none
  | .failed error => throw (.accountNotLoaded error)
  | .parked => throw .accountNotKept

/-- The client of a use. -/
def clientFor
    (clients : AccountClients) :
    AuthorityRole → AcmeClient
  | .general => clients.general
  | .primary => clients.primary

/-- A client as a gateway knows it. -/
def known
    (clients : Option AccountClients)
    (role : AuthorityRole) :
    Option AuthorityClient :=
  clients.map fun clients => ⟨(clientFor clients role).supportsWildcards⟩

/-- What a gateway meets on a machine. -/
def momentOn
    (machine : Machine)
    (clients : Option AccountClients) :
    GatewayMoment where
  second := machine.now
  order := fun role domains =>
    match clients with
    | some clients => machine.network.order (clientFor clients role) domains
    | none => .error (.orderFailed .noDomains)

/-- Run a program of the gateway, and carry out what it starts. -/
def run
    {α : Type}
    (gateway : Gateway)
    (moment : GatewayMoment)
    (program : GatewayProgram α)
    (store : CertificateStore) :
    CommandStep (α × CertificateStore) := do
  let holdings : GatewayHoldings := { store := store, tree := ← get }
  let work : StateM GatewayHoldings α := do
    let value ← GatewayHoldings.run moment program
    GatewayHoldings.finishStarted moment gateway
    return value
  let (value, holdings) := Id.run (work.run holdings)
  set holdings.tree
  return (value, holdings.store)

/-- Take the address of a listener, besides others. -/
def bind
    (machine : Machine)
    (listener : ListenerKind)
    (host : String)
    (port : UInt16)
    (taken : List SocketAddress) :
    CommandStep (List SocketAddress) := do
  match SocketAddress.hostAddress? host with
  | none => throw (.badAddress (host ++ ":" ++ toString port.toNat))
  | some address =>
      let socket : SocketAddress := ⟨address, port.toNat⟩
      match machine.network.mayListen taken socket with
      | .ok () => return socket :: taken
      | .error error => throw (.notBound listener socket error)

/-- Start the gateway of a checked configuration. -/
def start
    (machine : Machine)
    (config : Config) :
    CommandStep RunningGateway := do
  let store ← openStore config
  let clients ← clients machine config
  let gateway : Gateway :=
    { primaryDomain := PrimaryDomain.ofSuffix config.server.mainDomain
      general := known clients .general
      primary := known clients .primary
      authority := (ClaimRegister.ofDomains config.customDomains).lookup }
  let moment := momentOn machine clients
  let (primary, store) ← run gateway moment gateway.ensurePrimary store
  match primary with
  | .error error => throw (.primaryNotSetUp error)
  | .ok _ =>
      let server := config.server
      let taken ←
        if server.httpServerEnabled then bind machine .http server.host server.httpPort []
        else pure []
      let listeners ← bind machine .https server.host server.port taken
      return ⟨gateway, moment, store, listeners⟩

/-- Do what a running gateway does at once: one cycle of maintenance. -/
def maintainOnce
    (running : RunningGateway)
    (config : Config) :
    CommandStep RunningGateway := do
  let program := running.gateway.maintain config.maintenance.intervalSecs.toNat 1
  let ((), store) ← run running.gateway running.moment program running.store
  return { running with store := store }

/-- Stop a gateway. -/
def stop (running : RunningGateway) : CommandStep Unit :=
  onStore
    (fun tree =>
      let (answer, _, tree) := running.store.close tree
      (answer, tree))
    .storeNotClosed

/-- Run the gateway of a configuration until it is told to stop, which it is as
soon as it has nothing to do. -/
def serve
    (machine : Machine)
    (config : Config) :
    CommandStep Unit := do
  match config.validate with
  | .error error => throw (.badConfig error)
  | .ok config =>
      let running ← start machine config
      let running ← running.maintainOnce config
      running.stop

end RunningGateway

end OnDemandTls
