import OnDemandTls.Handshake
import OnDemandTls.Rehearsal.World

namespace OnDemandTls

/-!
# Rehearsal sessions

A session takes a rehearsed gateway through one step after another.  After each
step it settles: tasks that were started go on, and time passes until every
issuance has ended that does not wait for a lock held by the session.
-/

/-- A session. -/
structure RehearsalSession where
  rehearsal : Rehearsal
  schedule : Schedule rehearsalCalls TaskResult World
  /-- The names whose locks the session holds. -/
  heldNames : List String
  /-- The certificate that was put aside. -/
  aside : Option CertificateResource

/-- Where a certificate in a step comes from. -/
inductive CertificateSource where
  | absent
  | stored (key : String)
  /-- The certificate that was put aside. -/
  | aside
  | issued (commonName domain : String) (names : List String) (validFor : Int)
  | mock (domain reason : String)

/-- A certificate in a step, with changes. -/
structure CertificateSpec where
  source : CertificateSource := .absent
  validTill : Option Int := none
  retryAfter : Option Int := none
  origin : Option CertificateOrigin := none
  chain : Option String := none
  privateKey : Option String := none

/-- A request for a certificate in a step. -/
structure RequestSpec where
  domains : List String
  previous : CertificateSpec
  user : Option String
  role : AuthorityRole

/-- What a scheduled renewal comes to. -/
inductive RenewalOutcome where
  | renewed
  | notDue
  | noCertificate
  deriving DecidableEq, Repr

/-- What a handshake comes to on the server's side. -/
inductive HandshakeOutcome where
  | refused (error : ResolveError)
  /-- The two sides have no protocol in common. -/
  | disagreement
  | done (serverName : String) (protocol : Option String) (version : TlsVersion)
      (certified : CertifiedKey)

namespace RehearsalSession

/-- A session at its beginning. -/
def start
    (rehearsal : Rehearsal)
    (world : World) :
    RehearsalSession where
  rehearsal := rehearsal
  schedule := .ofWorld world
  heldNames := []
  aside := none

/-- The world of a session. -/
def world (session : RehearsalSession) : World :=
  session.schedule.world

/-- Milliseconds since the beginning. -/
def now (session : RehearsalSession) : Nat :=
  session.schedule.now

/-- The wall clock in seconds. -/
def seconds (session : RehearsalSession) : Int :=
  World.seconds session.now

/-- Change the world from outside; tasks that were held up may go on then. -/
def changeWorld
    (session : RehearsalSession)
    (change : World → World) :
    RehearsalSession :=
  let schedule := { session.schedule with world := change session.world }
  { session with
    schedule := schedule.releaseHeldUp (World.perform session.rehearsal) }

/-! ## Time -/

/-- Tasks make at most so many calls in one step. -/
def mostCalls : Nat := 10000000

/-- Let tasks go on as long as a condition holds. -/
def runWhile
    (session : RehearsalSession)
    (condition : Schedule rehearsalCalls TaskResult World → Bool) :
    RehearsalSession :=
  { session with
    schedule :=
      session.schedule.runWhile (World.perform session.rehearsal) condition mostCalls }

/-- Start a task, and tell its number. -/
def startTask
    (session : RehearsalSession)
    (task : Program rehearsalCalls TaskResult) :
    Nat × RehearsalSession :=
  (session.schedule.next, { session with schedule := session.schedule.start task })

/-- Let tasks go on until one is finished. -/
def await
    (session : RehearsalSession)
    (number : Nat) :
    Option TaskResult × RehearsalSession :=
  let session := session.runWhile fun schedule => (schedule.result? number).isNone
  (session.schedule.result? number, session)

/-- Start a task and let tasks go on until it is finished. -/
def run
    (session : RehearsalSession)
    (task : Program rehearsalCalls TaskResult) :
    Option TaskResult × RehearsalSession :=
  let (number, session) := session.startTask task
  session.await number

/-- Start tasks and let tasks go on until all of them are finished. -/
def runAll
    (session : RehearsalSession)
    (tasks : List (Program rehearsalCalls TaskResult)) :
    List (Option TaskResult) × RehearsalSession :=
  let first := session.schedule.next
  let numbers := (List.range tasks.length).map (first + ·)
  let session :=
    { session with schedule := tasks.foldl (fun schedule task => schedule.start task) session.schedule }
  let session :=
    session.runWhile fun schedule => numbers.any fun number => (schedule.result? number).isNone
  (numbers.map session.schedule.result?, session)

/-- Let time pass. -/
def advance
    (session : RehearsalSession)
    (milliseconds : Nat) :
    RehearsalSession :=
  (session.run ((Rehearsal.sleep milliseconds).bind (fun _ => .done .finished))).2

/-- Let tasks go on that can. -/
def settleBriefly (session : RehearsalSession) : RehearsalSession :=
  session.runWhile Schedule.isBusy

/-- Whether an issuance goes on for a name that the session does not hold. -/
def isIssuing
    (heldNames : List String)
    (locks : IssuanceLocks) :
    Bool :=
  locks.held.keys.any fun name => !heldNames.contains name

/-- Let time pass until all issuances have ended. -/
def settle (session : RehearsalSession) : RehearsalSession :=
  session.runWhile fun schedule =>
    schedule.isBusy || isIssuing session.heldNames schedule.world.locks

/-! ## Certificates -/

/-- A certificate before it is changed. -/
def source
    (session : RehearsalSession) :
    CertificateSource → Option CertificateResource
  | .absent => none
  | .stored key => (session.world.store.records).find? key
  | .aside => session.aside
  | .issued commonName domain names validFor =>
      (SampleCertificate.text? commonName names session.seconds (session.seconds + validFor)).bind
        fun chain =>
          (CertificateResource.ofPem domain chain KeyPair.sample.text .acme).toOption
  | .mock domain reason => (Mock.make domain reason session.seconds).toOption

/-- The certificate of a specification. -/
def certificate
    (session : RehearsalSession)
    (spec : CertificateSpec) :
    Option CertificateResource :=
  (session.source spec.source).map fun resource =>
    { resource with
      validTill := spec.validTill.getD resource.validTill
      retryAfter := spec.retryAfter.or resource.retryAfter
      origin := spec.origin.getD resource.origin
      certificateChain := spec.chain.getD resource.certificateChain
      privateKey := spec.privateKey.getD resource.privateKey }

/-- The request of a specification. -/
def request
    (session : RehearsalSession)
    (spec : RequestSpec) :
    ObtainRequest where
  domains := spec.domains
  previous := session.certificate spec.previous
  user := spec.user
  role := spec.role

/-- Put a certificate aside. -/
def putAside
    (session : RehearsalSession)
    (spec : CertificateSpec) :
    RehearsalSession :=
  { session with aside := session.certificate spec }

/-- File a certificate in the store, past all faults. -/
def put
    (session : RehearsalSession)
    (key : String)
    (spec : CertificateSpec) :
    RehearsalSession :=
  match session.certificate spec with
  | none => session
  | some resource =>
      session.changeWorld fun world =>
        let (_, store, tree) := world.store.put world.tree key resource
        { world with store := store, tree := tree }

/-- Take a record out of the store, past all faults. -/
def delete
    (session : RehearsalSession)
    (key : String) :
    RehearsalSession :=
  session.changeWorld fun world =>
    let (_, store, tree) := world.store.delete world.tree key
    { world with store := store, tree := tree }

/-! ## Steps -/

/-- The task of a handshake that asks for a certificate. -/
def resolving
    (session : RehearsalSession)
    (name : Option String)
    (protocols : List String) :
    Program rehearsalCalls TaskResult :=
  session.rehearsal.task (session.rehearsal.gateway.resolve name protocols) .resolved

/-- The certificate for a handshake. -/
def resolve
    (session : RehearsalSession)
    (name : Option String)
    (protocols : List String) :
    Option (Except ResolveError CertifiedKey) × RehearsalSession :=
  match session.run (session.resolving name protocols) with
  | (some (.resolved result), session) => (some result, session)
  | (_, session) => (none, session)

/-- The certificates for handshakes that begin together. -/
def resolveMany
    (session : RehearsalSession)
    (names : List (Option String)) :
    List (Option (Except ResolveError CertifiedKey)) × RehearsalSession :=
  let (results, session) := session.runAll (names.map (fun name => session.resolving name []))
  ( results.map fun
      | some (.resolved result) => some result
      | _ => none
  , session )

/-- What a task has obtained. -/
def obtained : Option TaskResult → Option (Except ObtainError CertificateResource)
  | some (.obtained result) => some result
  | _ => none

/-- Obtain a certificate. -/
def obtain
    (session : RehearsalSession)
    (spec : RequestSpec) :
    Option (Except ObtainError CertificateResource) × RehearsalSession :=
  let (result, session) := session.run (session.rehearsal.obtaining (session.request spec))
  (obtained result, session)

/-- Obtain certificates for requests that are made together. -/
def obtainMany
    (session : RehearsalSession)
    (specs : List RequestSpec) :
    List (Option (Except ObtainError CertificateResource)) × RehearsalSession :=
  let (results, session) :=
    session.runAll (specs.map (fun spec => session.rehearsal.obtaining (session.request spec)))
  (results.map obtained, session)

/-- Run a program that ends in a certificate. -/
def runObtaining
    (session : RehearsalSession)
    (program : GatewayProgram (Except ObtainError CertificateResource)) :
    Option (Except ObtainError CertificateResource) × RehearsalSession :=
  let (result, session) := session.run (session.rehearsal.task program .obtained)
  (obtained result, session)

/-- Make sure that the primary certificate is there. -/
def ensurePrimary
    (session : RehearsalSession) :
    Option (Except ObtainError CertificateResource) × RehearsalSession :=
  session.runObtaining session.rehearsal.gateway.ensurePrimary

/-- Make a mock and file it. -/
def persistMock
    (session : RehearsalSession)
    (key subject reason : String) :
    Option (Except ObtainError CertificateResource) × RehearsalSession :=
  session.runObtaining (Gateway.persistMock key subject reason)

/-- Renew a certificate if that is due, and wait for the end of it. -/
def scheduled
    (session : RehearsalSession)
    (spec : CertificateSpec)
    (request? : CertificateResource → Option ObtainRequest) :
    RenewalOutcome × RehearsalSession :=
  match session.certificate spec with
  | none => (.noCertificate, session)
  | some resource =>
      match request? resource with
      | none => (.notDue, session)
      | some request => (.renewed, (session.run (session.rehearsal.obtaining request)).2)

/-- Renew a tenant's certificate if that is due so many seconds from now. -/
def scheduleRenewal
    (session : RehearsalSession)
    (key : String)
    (spec : CertificateSpec)
    (offset : Int) :
    RenewalOutcome × RehearsalSession :=
  session.scheduled spec fun resource =>
    Gateway.renewalRequest? key resource (session.seconds + offset)

/-- Renew the primary certificate if that is due so many seconds from now. -/
def schedulePrimary
    (session : RehearsalSession)
    (spec : CertificateSpec)
    (offset : Int) :
    RenewalOutcome × RehearsalSession :=
  session.scheduled spec fun resource =>
    session.rehearsal.gateway.primaryRenewalRequest? resource (session.seconds + offset)

/-- One cycle of maintenance, and the renewal that it starts. -/
def sweep
    (session : RehearsalSession)
    (interval : Nat)
    (withHandshakes : Bool) :
    Option (Except StoreError MaintenanceReport) × RehearsalSession :=
  let program := session.rehearsal.gateway.sweep interval withHandshakes
  match session.run (session.rehearsal.task program .swept) with
  | (some (.swept (.ok report)), session) =>
      match report.primaryRenewal with
      | none => (some (.ok report), session)
      | some number => (some (.ok report), (session.await number).2)
  | (some (.swept (.error error)), session) => (some (.error error), session)
  | (_, session) => (none, session)

/-- Maintenance that is stopped after some time, or before it begins; the answer
is how many cycles came to their compaction. -/
def maintain
    (session : RehearsalSession)
    (interval duration : Nat)
    (stopped : Bool) :
    Nat × RehearsalSession :=
  let before := session.world.compactions
  let stop := if stopped then session.now else session.now + duration
  let session := session.changeWorld fun world => { world with stopsAt := some stop }
  let cycles := duration / (1000 * max interval 1) + 2
  let program := session.rehearsal.gateway.maintain interval cycles
  let (_, session) :=
    session.runAll
      [ (Rehearsal.sleep duration).bind (fun _ => .done .finished)
      , session.rehearsal.task program (fun _ => .finished) ]
  (session.world.compactions - before, session)

/-- Have the next handshake for a name read the store again. -/
def invalidate
    (session : RehearsalSession)
    (name : String) :
    RehearsalSession :=
  (session.run (session.rehearsal.task (Gateway.invalidate name) (fun _ => .finished))).2

/-- Forget certificates that are no longer ready, and say how many they were. -/
def purgeReady (session : RehearsalSession) : Nat × RehearsalSession :=
  let (count, readyCertificates) := session.world.readyCertificates.purge session.now
  ( count
  , session.changeWorld fun world => { world with readyCertificates := readyCertificates } )

/-- Stage the answer to a challenge; nothing is staged for longer than the clock can
tell. -/
def stage
    (session : RehearsalSession)
    (key value : String)
    (lifetime : Nat) :
    RehearsalSession :=
  session.changeWorld fun world =>
    { world with
      staged := (world.staged.set? key value lifetime session.now lastInstant).getD world.staged }

/-- Make calls of the store fail, in place of those that did. -/
def setFaults
    (session : RehearsalSession)
    (faults : List (StoreOperation × StoreError)) :
    RehearsalSession :=
  session.changeWorld fun world => { world with faults := faults }

/-- Restart the script of an authority. -/
def setOutcomes
    (session : RehearsalSession)
    (role : AuthorityRole)
    (outcomes : List ScriptedOutcome) :
    RehearsalSession :=
  session.changeWorld fun world =>
    world.withAuthority role ((world.authority role).restart outcomes)

/-- Take the lock of a name, and say whether it was free. -/
def lock
    (session : RehearsalSession)
    (name : String) :
    Bool × RehearsalSession :=
  match session.world.locks.acquire name with
  | (.busy _, _) => (false, session)
  | (.owner _, locks) =>
      let session := session.changeWorld fun world => { world with locks := locks }
      (true, { session with heldNames := name :: session.heldNames })

/-- Give the lock of a name back, and say whether the session held it. -/
def unlock
    (session : RehearsalSession)
    (name : String) :
    Bool × RehearsalSession :=
  if session.heldNames.contains name then
    let session := { session with heldNames := session.heldNames.erase name }
    (true, session.changeWorld fun world => { world with locks := world.locks.release name })
  else
    (false, session)

/-- Obtain a certificate while the lock of a name is taken for some time, after
which a certificate may be filed.  The answer says whether the task was held up,
and what it has obtained. -/
def obtainBehindLock
    (session : RehearsalSession)
    (name : String)
    (spec : RequestSpec)
    (duration : Nat)
    (thenPut : CertificateSpec) :
    (Bool × Option (Except ObtainError CertificateResource)) × RehearsalSession :=
  let task := session.rehearsal.obtaining (session.request spec)
  let (_, session) := session.lock name
  let (number, session) := session.startTask task
  let session := session.advance duration
  let waiting := (session.schedule.result? number).isNone
  let session := session.put name thenPut
  let (_, session) := session.unlock name
  let (result, session) := session.await number
  ((waiting, obtained result), session)

/-- The name that a client sends: addresses are not sent. -/
def sentName (name : Option String) : Option String :=
  name.filter (fun name => (SubjectName.address? name).isNone)

/-- A handshake with a client that offers protocols and versions. -/
def handshake
    (session : RehearsalSession)
    (name : Option String)
    (protocols : List String)
    (versions : List TlsVersion) :
    Option HandshakeOutcome × RehearsalSession :=
  let name := (sentName name).map (fun name => String.ofList (Text.lower name.toList))
  match session.resolve name protocols with
  | (none, session) => (none, session)
  | (some (.error error), session) => (some (.refused error), session)
  | (some (.ok certified), session) =>
      match (HandshakeSettings.chosenFor protocols).agree protocols with
      | .error () => (some .disagreement, session)
      | .ok protocol =>
          let version :=
            if versions.isEmpty || versions.contains .v13 then TlsVersion.v13 else .v12
          (some (.done (name.getD "") protocol version certified), session)

/-- The log since it was last read, and what the hook has logged since then;
both are empty afterwards. -/
def readLog
    (session : RehearsalSession) :
    (List RehearsalEvent × List String) × RehearsalSession :=
  ( (session.world.events, session.world.hookLines)
  , session.changeWorld fun world => { world with events := [], hookLines := [] } )

end RehearsalSession

end OnDemandTls
