import OnDemandTls.Rehearsal.Schedule
import OnDemandTls.Rehearsal.ScriptedHook
import OnDemandTls.Rehearsal.ScriptedServer
import OnDemandTls.Rehearsal.Task
import OnDemandTls.Store.Opened

namespace OnDemandTls

/-!
# Rehearsed worlds

What a rehearsed gateway runs against: a store whose calls can be made to fail,
locks, budgets, catalogs, scripted authorities and a scripted hook, and a log of
what these were asked for.  Each call of a task is carried out here
(`World.perform`).
-/

/-- The calls of a store that can be made to fail. -/
inductive StoreOperation where
  | put
  | get
  | delete
  | items
  | compact
  | close
  deriving DecidableEq, Repr

/-- What the log of a rehearsal holds. -/
inductive RehearsalEvent where
  /-- A scripted authority was asked for a certificate. -/
  | asked (label : String) (domains : List String) (time : Nat)
  | orderOpened (names : List String)
  /-- A challenge can be checked; what is staged for it, and what the hook has
  logged since the event before. -/
  | challengeReady (type domain : String) (tlsAnswer httpAnswer : Option String)
      (hookLines : List String)
  | finalized
  deriving DecidableEq, Repr

/-- The world of a rehearsal. -/
structure World where
  store : CertificateStore
  tree : FileTree
  faults : List (StoreOperation × StoreError)
  /-- How often a gateway has called its store. -/
  storeCalls : Nat
  /-- How often a gateway has had its store compacted. -/
  compactions : Nat
  locks : IssuanceLocks
  budgets : IssuanceBudgets Float
  staged : StagedChallenges
  readyCertificates : TimedCatalog CertifiedKey
  general : ScriptedAuthority
  primary : ScriptedAuthority
  server : ScriptedServer
  hook : ScriptedHook
  /-- The log since it was last read. -/
  events : List RehearsalEvent
  /-- What the hook has logged since that was last read. -/
  hookLines : List String
  /-- The instant at which maintenance stops. -/
  stopsAt : Option Nat

namespace World

/-- The wall clock of a rehearsal begins at this second. -/
def epoch : Int := 1700000000

/-- The wall clock in seconds. -/
def seconds (now : Nat) : Int :=
  epoch + (now / 1000 : Nat)

/-! ## The store -/

/-- The failure that a call of the store is made to have. -/
def fault?
    (world : World)
    (operation : StoreOperation) :
    Option StoreError :=
  world.faults.lookup operation

/-- Note a call of the store. -/
def noteStoreCall
    (world : World)
    (operation : StoreOperation) :
    World :=
  { world with
    storeCalls := world.storeCalls + 1
    compactions :=
      if operation = .compact then world.compactions + 1 else world.compactions }

/-- A call that only reads the store. -/
def readStore
    {α : Type}
    (world : World)
    (operation : StoreOperation)
    (read : CertificateStore → Except StoreError α) :
    Except StoreError α × World :=
  ( match world.fault? operation with
    | some error => .error error
    | none => read world.store
  , world.noteStoreCall operation )

/-- A call that changes the store and its file. -/
def changeStore
    {α : Type}
    (world : World)
    (operation : StoreOperation)
    (change :
      CertificateStore → FileTree → Except StoreError α × CertificateStore × FileTree) :
    Except StoreError α × World :=
  let noted := world.noteStoreCall operation
  match world.fault? operation with
  | some error => (.error error, noted)
  | none =>
      let (answer, store, tree) := change world.store world.tree
      (answer, { noted with store := store, tree := tree })

/-- Whether a call would write to the disk. -/
def writesToDisk
    (world : World) :
    GatewayCall → Bool
  | .putRecord _ _ => reaches .put
  | .deleteRecord name =>
      reaches .delete &&
        (match world.store.get? name with
          | .ok record => record.isSome
          | .error _ => false)
  | .compactStore => reaches .compact
  | _ => false
where
  reaches (operation : StoreOperation) : Bool :=
    (world.fault? operation).isNone &&
      (match world.store with
        | .memory _ => false
        | .file _ store => !store.isClosed)

/-! ## Authorities -/

/-- The scripted authority for a use. -/
def authority
    (world : World) :
    AuthorityRole → ScriptedAuthority
  | .general => world.general
  | .primary => world.primary

/-- The world with another state of a scripted authority. -/
def withAuthority
    (world : World)
    (role : AuthorityRole)
    (authority : ScriptedAuthority) :
    World :=
  match role with
  | .general => { world with general := authority }
  | .primary => { world with primary := authority }

/-- Log an event. -/
def log
    (world : World)
    (event : RehearsalEvent) :
    World :=
  { world with events := world.events ++ [event] }

/-- Ask the hook for a change. -/
def changeRecord
    (world : World)
    (action : HookAction)
    (response : ChallengeResponse) :
    Except AuthorityError Unit × World :=
  let (answer, lines) :=
    world.hook.change (.ofResponse action response.domain response.dnsValue)
  (answer, { world with hookLines := world.hookLines ++ lines })

/-- The event that a challenge can be checked. -/
def logReady
    (world : World)
    (number index : Nat)
    (response : ChallengeResponse)
    (now : Nat) :
    World :=
  let name := HostName.withoutWildcards (world.server.identifier number index)
  let event : RehearsalEvent :=
    .challengeReady response.type.name name
      (world.staged.find? name now)
      (world.staged.find? (HostName.httpChallengeKey name response.token) now)
      world.hookLines
  { world.log event with hookLines := [] }

/-! ## Calls -/

/-- Carry out a call of a client of a server. -/
def performAcme
    (now : Nat)
    (call : AcmeCall)
    (world : World) :
    Reply rehearsalCalls TaskResult World (.acme call) :=
  match call with
  | .openOrder names =>
      let (answer, server) := world.server.openOrder names
      .answer answer { world.log (.orderOpened names) with server := server }
  | .authorization number index => .answer (world.server.authorization number index) world
  | .deploy response =>
      match response.type with
      | .dns01 =>
          let (answer, world) := world.changeRecord .present response
          .answer answer world
      | .http01 | .tlsAlpn01 =>
          .answer (.ok ()) { world with staged := response.stage world.staged now }
  | .cleanup response =>
      match response.type with
      | .dns01 =>
          let (answer, world) := world.changeRecord .cleanup response
          .answer answer world
      | .http01 | .tlsAlpn01 =>
          .answer (.ok ()) { world with staged := response.unstage world.staged }
  | .markReady number index response =>
      .answer (world.server.markReady number index) (world.logReady number index response now)
  | .orderState number =>
      let (answer, server) := world.server.orderState number
      .answer answer { world with server := server }
  | .finalize number =>
      if world.server.canBeRequested number then
        let (answer, server) := world.server.finalize number
        .answer answer { world.log .finalized with server := server }
      else
        .answer (.error .ungenerated) world
  | .download number => .answer (world.server.download number (seconds now)) world
  | .milliseconds => .answer now world
  | .pause _ => .answer () world

/-- Carry out a call of a gateway.  Orders and renewals take more than one step
and are carried out by programs; they fail where there is no such program. -/
def performGateway
    (rehearsal : Rehearsal)
    (now : Nat)
    (call : GatewayCall)
    (world : World) :
    Reply rehearsalCalls TaskResult World (.gateway call) :=
  match call with
  | .clock => .answer (seconds now) world
  | .findRecord name =>
      let (answer, world) := world.readStore .get (fun store => store.get? name)
      .answer answer world
  | .putRecord name resource =>
      let (answer, world) :=
        world.changeStore .put (fun store tree => store.put tree name resource)
      .answer answer world
  | .deleteRecord name =>
      let (answer, world) := world.changeStore .delete (fun store tree => store.delete tree name)
      .answer answer world
  | .listRecords =>
      let (answer, world) := world.readStore .items (fun store => store.all)
      .answer answer world
  | .compactStore =>
      let (answer, world) := world.changeStore .compact (fun store tree => store.compact tree)
      .answer answer world
  | .claim name =>
      let (answer, locks) := world.locks.acquire name
      .answer answer { world with locks := locks }
  | .awaitRelease name guardNumber =>
      if world.locks.holds name guardNumber then .heldUp else .answer () world
  | .release name => .answer () { world with locks := world.locks.release name }
  | .spend budget =>
      match world.budgets.attempt budget now with
      | (none, budgets) => .answer () { world with budgets := budgets }
      | (some later, budgets) => .retryAt later { world with budgets := budgets }
  | .askUser user =>
      let (answer, budgets) := world.budgets.askUser user now
      .answer answer { world with budgets := budgets }
  | .renew _ _ => .answer (.error (.orderFailed .noDomains)) world
  | .order _ _ => .answer (.error (.orderFailed .noDomains)) world
  | .findReady key =>
      let (answer, readyCertificates) := world.readyCertificates.get key now
      .answer answer { world with readyCertificates := readyCertificates }
  | .keepReady key certified =>
      .answer () {
        world with
        readyCertificates :=
          world.readyCertificates.file key certified (now + Gateway.readyLifetime) }
  | .dropReady key =>
      .answer () { world with readyCertificates := world.readyCertificates.remove key }
  | .purgeReady =>
      let (answer, readyCertificates) := world.readyCertificates.purge now
      .answer answer { world with readyCertificates := readyCertificates }
  | .stagedAnswer name =>
      let (answer, staged) := world.staged.get name now
      .answer answer { world with staged := staged }
  | .purgeStaged =>
      let (answer, staged) := world.staged.purge now
      .answer answer { world with staged := staged }
  | .startObtaining request => .started (rehearsal.obtaining request) id
  | .goesOn =>
      .answer (match world.stopsAt with
        | some instant => now < instant
        | none => true) world
  | .rest _ => .answer () world

/-- Carry out a call of a task. -/
def perform
    (rehearsal : Rehearsal) :
    Performer rehearsalCalls TaskResult World :=
  fun now call world =>
    match call with
    | .gateway call => performGateway rehearsal now call world
    | .acme call => performAcme now call world
    | .milliseconds => .answer now world
    | .sleepUntil instant =>
        if instant ≤ now then .answer () world else .retryAt instant world
    | .restUntil instant =>
        let instant := min instant (world.stopsAt.getD instant)
        if instant ≤ now then .answer () world else .retryAt instant world
    | .awaitDisk call =>
        if world.writesToDisk call then .answerLast () world else .answer () world
    | .askAuthority role domains =>
        let authority := world.authority role
        let (outcome, next) := authority.takeOutcome
        .answer (authority.delay, outcome)
          ((world.withAuthority role next).log (.asked authority.label domains now))
    | .authorityAnswer role domains outcome =>
        let (answer, next) := (world.authority role).answer domains outcome (seconds now)
        .answer answer (world.withAuthority role next)

end World

end OnDemandTls
