import OnDemandTls.Proofs.Armour
import OnDemandTls.Proofs.Traffic.IssuingOnce
import OnDemandTls.Proofs.Traffic.Progress
import OnDemandTls.Proofs.Traffic.Provenance

namespace OnDemandTls

/-!
# Handshakes that are served whatever fails

A handshake for a custom domain whose claim is confirmed gets a certificate,
whatever authorities, budgets and writes to the store do, and whoever obtains a
certificate for the same name beside it.  Every certificate that it comes upon
can be served (`Traffic.Upholds`), and where it comes upon none, a mock can be
made for the name (`HandshakeStage.Serves`).
-/

/-- A mock was made for some name. -/
def CertificateResource.IsMock (resource : CertificateResource) : Prop :=
  ∃ subject reason second, Mock.make subject reason second = .ok resource

namespace HandshakeStage

variable {gateway : Gateway} {start : Scene} {holds : String → CertificateResource → Prop}

/-- A handshake for a custom domain is on its way to a certificate. -/
def Serves (given : CertifiedKey → Prop) : HandshakeStage → Prop
  | validating _ => False
  | keeping _ certified => given certified
  | finished result => ∃ certified, result = .ok certified ∧ given certified
  | _ => True

/-- What may be served under a key: what was ready at first, and what a record
with a property backs. -/
def Given
    (start : Scene)
    (holds : String → CertificateResource → Prop)
    (key : String)
    (certified : CertifiedKey) :
    Prop :=
  (∃ expiry, start.readyCertificates.entries.get? key = some (certified, expiry)) ∨
    Backs holds key certified

theorem serves_serve
    {target : ServingTarget}
    {name : String}
    {resource : CertificateResource}
    (isKey : target.key = HostName.storeKey name)
    (usable : ∀ record, holds (HostName.storeKey name) record →
      ∃ certified, record.certifiedKey = .ok certified)
    (has : holds (HostName.storeKey target.key) resource)
    (other : String) :
    (serve target other resource).Serves (Given start holds (HostName.storeKey name)) := by
  have sameKey : HostName.storeKey target.key = HostName.storeKey name := by
    rw [isKey, HostName.storeKey_storeKey]
  obtain ⟨certified, certifies⟩ := usable resource (sameKey ▸ has)
  rw [serve, certifies, ← isKey]
  exact Or.inr ⟨resource, has, certifies⟩

theorem serves_opening
    {serverName : Option String}
    {name : String}
    {protocols : List String}
    (asked : (serverName.map HostName.asked).filter (· ≠ "") = some name)
    (ordinary : protocols.contains validationProtocol = false)
    (given : CertifiedKey → Prop) :
    (opening gateway serverName protocols).Serves given := by
  rw [opening, asked]
  simp only [ordinary]
  trivial

/-- No call of a handshake for a custom domain makes it fail, if it can read the
store and whatever is stored can be served. -/
theorem serves_moves
    {traffic : Traffic TaskStage}
    {number : Nat}
    {serverName : Option String}
    {name : String}
    {claim : DomainClaim}
    {stage later : HandshakeStage}
    {call : GatewayCall}
    {answer : call.Answer}
    (ascii : name.toList.all (fun c => c.toNat < 128) = true)
    (asked : (serverName.map HostName.asked).filter (· ≠ "") = some name)
    (custom : gateway.classify name = Gateway.customTarget name claim)
    (usable : ∀ record, holds (HostName.storeKey name) record →
      ∃ certified, record.certifiedKey = .ok certified)
    (readable : ∀ other error,
      TrafficEvent.calls number call answer ≠ .calls number (.findRecord other) (.error error))
    (upholds : Traffic.Upholds gateway start holds traffic)
    (fits : stage.Fits gateway serverName)
    (held : stage.Holds gateway holds)
    (serves : stage.Serves (Given start holds (HostName.storeKey name)))
    (admitted : traffic.scene.Admits call answer)
    (moves : Moves gateway stage call answer later) :
    later.Serves (Given start holds (HostName.storeKey name)) := by
  have site : ∀ {target other}, IsSite gateway serverName target other →
      other = name ∧ target.key = HostName.storeKey name ∧
        target.primary = false ∧ target.issuanceAllowed = true := by
    rintro target other ⟨named, rfl⟩
    cases asked.symm.trans named
    rw [custom]
    exact ⟨rfl, rfl, rfl, rfl⟩
  cases moves with
  | validated other answer => exact serves.elim
  | ready target other certified =>
      obtain ⟨-, isKey, -⟩ := site fits
      refine ⟨certified, rfl, ?_⟩
      obtain ⟨expiry, filed, -⟩ :=
        TimedCatalog.entry_of_find? (show TimedCatalog.find? _ _ _ = _ from admitted.symm)
      rw [isKey] at filed
      exact (upholds.ready filed).imp_left fun atFirst => ⟨expiry, atFirst⟩
  | notReady target other => trivial
  | unreadable target other error => exact (readable _ _ rfl).elim
  | found target other resource =>
      obtain ⟨-, -, notPrimary, -⟩ := site fits
      simp [found, notPrimary, Serves]
  | missing target other =>
      obtain ⟨-, -, notPrimary, allowed⟩ := site fits
      simp [missing, notPrimary, allowed, Serves]
  | dated target other resource second =>
      obtain ⟨-, isKey, -⟩ := site fits
      unfold dated
      cases Gateway.renewalRequest? target.key resource second with
      | none => exact serves_serve isKey usable held other
      | some request => trivial
  | launched target other resource request launchedNumber =>
      obtain ⟨-, isKey, -⟩ := site fits
      exact serves_serve isKey usable held.1 other
  | @issuance target other stage call answer progress inside =>
      obtain ⟨-, isKey, -⟩ := site fits.1
      cases progress with
      | on later => trivial
      | ended result =>
          cases result with
          | error reason => trivial
          | ok resource =>
              refine serves_serve isKey usable ?_ other
              have sameKey := key_of_site fits.1 fits.2
              cases inside with
              | taken =>
                  rw [← sameKey]
                  exact Scene.holds_of_read upholds.records admitted
              | released =>
                  have has : holds (gateway.clientJob target other).key resource := held
                  rw [← Gateway.storeKey_key (gateway.job?_client target other), sameKey] at has
                  exact has
  | fallback made => trivial
  | @noFallback target other reason second error failed =>
      obtain ⟨rfl, -⟩ := site fits.1
      obtain ⟨mock, made⟩ := Mock.exists_make ascii reason.message second
      cases made.symm.trans failed
  | fallbackStored target other reason mock answer =>
      obtain ⟨-, isKey, -⟩ := site fits.1
      exact serves_serve isKey usable held other
  | kept key certified => exact ⟨certified, rfl, serves⟩

end HandshakeStage

namespace Traffic

variable {gateway : Gateway} {start : Scene} {events : List TrafficEvent}
variable {holds : String → CertificateResource → Prop} {suffix : String}

/-- A handshake for a custom domain is on its way to a certificate all the time. -/
theorem serves_of_run
    {traffic : Traffic TaskStage}
    {number : Nat}
    {task : GatewayTask TaskStage}
    {stage : HandshakeStage}
    {serverName : Option String}
    {protocols : List String}
    {name : String}
    {claim : DomainClaim}
    (isPrimary : gateway.primaryDomain = .ofSuffix suffix)
    (heritable : Heritable holds)
    (run : Run gateway.stagedBehaviour (quiet start) events traffic)
    (enters : ∀ {key record}, Enters gateway start events traffic key record → holds key record)
    (usable : ∀ record, holds (HostName.storeKey name) record →
      ∃ certified, record.certifiedKey = .ok certified)
    (readable : ∀ key error, .calls number (.findRecord key) (.error error) ∉ events)
    (present : traffic.tasks[number]? = some task)
    (isHandshake : task.errand = .resolving serverName protocols)
    (asked : (serverName.map HostName.asked).filter (· ≠ "") = some name)
    (ordinary : protocols.contains validationProtocol = false)
    (custom : gateway.classify name = Gateway.customTarget name claim)
    (ascii : name.toList.all (fun c => c.toNat < 128) = true)
    (left : task.rest = some (.handshake stage)) :
    stage.Serves (HandshakeStage.Given start holds (HostName.storeKey name)) := by
  induction run generalizing task stage with
  | nil => cases present
  | @snoc events traffic later event run step inductionHypothesis =>
      have entersBefore : ∀ {key record},
          Enters gateway start events traffic key record → holds key record :=
        fun before => enters (before.step step)
      have readableBefore : ∀ key error, .calls number (.findRecord key) (.error error) ∉ events :=
        fun key error member => readable key error (List.mem_append_left _ member)
      cases step.change present with
      | begins event errand =>
          cases isHandshake
          cases left
          exact HandshakeStage.serves_opening asked ordinary _
      | @moves task before next call answer there leftBefore moves admitted =>
          cases left
          obtain ⟨inner, rfl, inside⟩ := TaskStage.handshake_before moves
          have upholds := Upholds.of_run isPrimary heritable run entersBefore
          have fits := GuardsFit.fits_of_run run there leftBefore
          have held := upholds.stages there leftBefore
          have serves := inductionHypothesis entersBefore readableBefore there isHandshake leftBefore
          obtain ⟨sameName, sameProtocols, sameErrand, stageFits⟩ := fits
          cases isHandshake.symm.trans sameErrand
          have readableNow : ∀ other error,
              TrafficEvent.calls number call answer ≠
                .calls number (.findRecord other) (.error error) :=
            fun other error same =>
              readable other error (same ▸ List.mem_append_right _ (List.mem_singleton_self _))
          exact HandshakeStage.serves_moves ascii asked custom usable readableNow upholds stageFits
            held serves admitted inside
      | panics there => cases left
      | stays there => exact inductionHypothesis entersBefore readableBefore there isHandshake left

/-- Only a panic leaves a task without anything to do or to show. -/
theorem panicked_of_run
    {ρ : Type}
    {behaviour : Behaviour ρ}
    {traffic : Traffic ρ}
    {number : Nat}
    {task : GatewayTask ρ}
    (run : Run behaviour (quiet start) events traffic)
    (present : traffic.tasks[number]? = some task)
    (gone : task.rest = none) :
    .panics number ∈ events := by
  induction run generalizing task with
  | nil => cases present
  | snoc _ step inductionHypothesis =>
      cases step.change present with
      | begins => cases gone
      | moves => cases gone
      | panics => exact List.mem_append_right _ (List.mem_singleton_self _)
      | stays there => exact List.mem_append_left _ (inductionHypothesis there gone)

/-- What comes into a run of machines comes into the run of their programs. -/
theorem Enters.programs
    {traffic : Traffic TaskStage}
    {key : String}
    {record : CertificateResource}
    (enters : Enters gateway start events traffic key record) :
    Enters gateway start events (traffic.programs gateway) key record := by
  cases enters with
  | stored filed => exact .stored filed
  | issued present named given => exact .issued (getElem?_programs present) named given
  | handedIn arrived named previous => exact .handedIn arrived named previous

/-- What is stored under a key came in there, or is a mock, but for the mark. -/
def Originates
    (came : CertificateResource → Prop)
    (key other : String)
    (record : CertificateResource) :
    Prop :=
  other = key →
    ∃ origin mark, record = { origin with retryAfter := mark } ∧ (came origin ∨ origin.IsMock)

theorem heritable_originates
    (came : CertificateResource → Prop)
    (key : String) :
    Heritable (Originates came key) := by
  constructor
  · intro other subject reason second mock made isKey
    exact ⟨mock, mock.retryAfter, rfl, Or.inr ⟨subject, reason, second, made⟩⟩
  · intro other record mark has isKey
    obtain ⟨origin, earlier, rfl, cause⟩ := has isKey
    exact ⟨origin, mark, rfl, cause⟩

/-- If what comes in can be served, so can what is stored. -/
theorem certifiedKey_of_originates
    {came : CertificateResource → Prop}
    {key : String}
    (usable : ∀ record, came record → ∃ certified, record.certifiedKey = .ok certified)
    (record : CertificateResource)
    (originates : Originates came key key record) :
    ∃ certified, record.certifiedKey = .ok certified := by
  obtain ⟨origin, mark, rfl, entering | ⟨subject, reason, second, made⟩⟩ := originates rfl
  · exact usable origin entering
  · obtain ⟨certified, isKey⟩ := Mock.exists_certifiedKey made
    exact ⟨certified, isKey⟩

/-- An authorized handshake never fails because issuance failed.  Whatever else
goes on, whatever authorities answer, budgets deny and writes to the store do, a
handshake for a custom domain with an ASCII name whose claim is confirmed ends in
no other way than with a certificate, if it can read the store and whatever comes
in under the store key of its name can be served.  That certificate was ready when
the run began, comes from a record that came in, or is a mock: it is a mock where
nothing was ready or stored and no real certificate could be obtained.  The
handshake makes at most eighteen calls, and until it has ended it can make the
next one, or waits for a guard whose holder can. -/
theorem authorized_handshake_is_served
    {traffic : Traffic (GatewayProgram TaskResult)}
    {number : Nat}
    {task : GatewayTask (GatewayProgram TaskResult)}
    {name : String}
    {claim : DomainClaim}
    (isPrimary : gateway.primaryDomain = .ofSuffix suffix)
    (free : start.locks.isEmpty = true)
    (run : Run gateway.behaviour (quiet start) events traffic)
    (present : traffic.tasks[number]? = some task)
    (entitled : task.errand.Entitled gateway name claim)
    (ascii : name.toList.all (fun c => c.toNat < 128) = true)
    (usable : ∀ record, Enters gateway start events traffic (HostName.storeKey name) record →
      ∃ certified, record.certifiedKey = .ok certified)
    (readable : ∀ key error, .calls number (.findRecord key) (.error error) ∉ events) :
    (∀ result,
      task.rest = some (.done result) →
      ∃ certified,
        result = .resolved (.ok certified) ∧
          ((∃ expiry,
              start.readyCertificates.entries.get? (HostName.storeKey name) =
                some (certified, expiry)) ∨
            ∃ record,
              record.certifiedKey = .ok certified ∧
                (Enters gateway start events traffic (HostName.storeKey name) record ∨
                  record.IsMock))) ∧
    (task.rest = none → .panics number ∈ events) ∧
    events.countP (TrafficEvent.isCallOf number) ≤ 18 ∧
    (∀ (call : GatewayCall) (next : call.Answer → GatewayProgram TaskResult),
      task.rest = some (.call call next) →
      (∃ answer, traffic.scene.Admits call answer) ∨
        ∃ (key : String) (guardNumber holder : Nat)
          (owner : GatewayTask (GatewayProgram TaskResult)) (ownCall : GatewayCall)
          (ownNext : ownCall.Answer → GatewayProgram TaskResult),
          call = .awaitRelease key guardNumber ∧
            traffic.tasks[holder]? = some owner ∧
            owner.guard = some (key, guardNumber) ∧
            owner.rest = some (.call ownCall ownNext) ∧
            ∃ answer, traffic.scene.Admits ownCall answer) := by
  obtain ⟨serverName, protocols, isHandshake, isName, ordinary⟩ := entitled.asks
  refine ⟨fun result ended => ?served, panicked_of_run run present, calls_le run present isHandshake,
    fun call next left => admitted_or_waits free run present left⟩
  obtain ⟨staged, stagedRun, rfl⟩ := run_staged run
  obtain ⟨original, there, rfl⟩ := getElem?_map present
  obtain ⟨stage, left, isDone⟩ := Option.map_eq_some_iff.mp ended
  have enters : ∀ {key record}, Enters gateway start events staged key record →
      Originates (Enters gateway start events (staged.programs gateway) (HostName.storeKey name))
        (HostName.storeKey name) key record := by
    rintro key record entering rfl
    exact ⟨record, record.retryAfter, rfl, Or.inl entering.programs⟩
  have asked : ((some serverName).map HostName.asked).filter (· ≠ "") = some name := by
    rw [Option.map_some, isName]
    exact Option.filter_eq_some_iff.mpr ⟨rfl, by simpa using entitled.named⟩
  have custom :=
    Gateway.classify_of_claimed entitled.custom entitled.claimed entitled.authorized
  obtain ⟨inner, rfl, -⟩ := (calls_add_callsLeft_le stagedRun there isHandshake).2 stage left
  have serves := serves_of_run isPrimary (heritable_originates _ _) stagedRun enters
    (certifiedKey_of_originates usable) readable there isHandshake asked ordinary custom ascii left
  rcases TaskStage.over_cases isDone with ⟨resolved, done, rfl⟩ | ⟨swept, only, done, -⟩ | done
  · cases done
    obtain ⟨certified, rfl, given⟩ := serves
    refine ⟨certified, rfl, given.imp_right ?_⟩
    rintro ⟨record, has, certifies⟩
    obtain ⟨origin, mark, rfl, cause⟩ := has (HostName.storeKey_storeKey name)
    exact ⟨origin, certifies, cause⟩
  · cases done
  · cases done

/-- The renewal of a certificate is refused while a handshake waits for it. -/
def refusedBeside : List TrafficEvent :=
  let request : ObtainRequest :=
    { domains := [SmallGateway.blog], previous := some lastingCertificate }
  let kept := lastingCertificate.stamped 1700000000
  [arrivalEvent] ++ missEvents 0 ++
    [ .arrives (.obtaining request)
    , .calls 1 (.claim SmallGateway.blog) (.owner 0)
    , .calls 0 (.claim SmallGateway.blog) (.busy 0)
    , .calls 1 (.spend .request) ()
    , .calls 1 (.renew .general lastingCertificate) (.error (.generation "refused"))
    , .calls 1 (.spend .failure) ()
    , .calls 1 (.spend .order) ()
    , .calls 1 (.spend .request) ()
    , .calls 1 (.order .general [SmallGateway.blog]) (.error (.generation "refused"))
    , .calls 1 .clock 1700000000
    , .calls 1 (.putRecord SmallGateway.blog kept) (.ok ())
    , .calls 1 (.release SmallGateway.blog) ()
    , .calls 0 (.awaitRelease SmallGateway.blog 0) ()
    , .calls 0 (.findRecord SmallGateway.blog) (.ok (some kept))
    , keepEvent 0 ]

/-- The handshake gets the certificate that was not renewed, and the theorem
applies. -/
theorem handshake_beside_refusal_is_served :
    let start := SmallGateway.scene Catalog.empty
    ∃ traffic task certified record,
      Run SmallGateway.gateway.behaviour (quiet start) refusedBeside traffic ∧
        traffic.tasks[0]? = some task ∧
        task.rest = some (.done (.resolved (.ok certified))) ∧
        record.certifiedKey = .ok certified ∧
        (Enters SmallGateway.gateway start refusedBeside traffic SmallGateway.blog record ∨
          record.IsMock) := by
  intro start
  have replayed :
      ((replay SmallGateway.gateway (quiet start) refusedBeside).bind fun traffic =>
        traffic.tasks[0]?.bind fun task =>
          task.resolved?.bind fun _ => task.asked?) =
        some SmallGateway.blog := by
    decide +kernel
  obtain ⟨traffic, accepted, onwards⟩ := Option.bind_eq_some_iff.mp replayed
  obtain ⟨task, present, onwards⟩ := Option.bind_eq_some_iff.mp onwards
  obtain ⟨resolved, isResolved, isAsked⟩ := Option.bind_eq_some_iff.mp onwards
  have isHandshake := GatewayTask.errand_of_asked? isAsked
  have ended := GatewayTask.rest_of_resolved? isResolved
  have run : Run SmallGateway.gateway.behaviour (quiet start) ([] ++ refusedBeside) traffic :=
    run_of_replay .nil accepted
  have isPrimary : SmallGateway.gateway.primaryDomain = .ofSuffix "pages.example.org" := by
    decide +kernel
  have entitled : task.errand.Entitled SmallGateway.gateway SmallGateway.blog
      { owner := "alice", repo := "pages", branch := "pages", authorized := true } :=
    ⟨⟨SmallGateway.blog, [], isHandshake, by decide +kernel, rfl⟩, by decide, by decide +kernel,
      by decide +kernel, rfl⟩
  have sameKey : HostName.storeKey SmallGateway.blog = SmallGateway.blog := by decide +kernel
  have usable : ∀ record,
      Enters SmallGateway.gateway start refusedBeside traffic
        (HostName.storeKey SmallGateway.blog) record →
      ∃ certified, record.certifiedKey = .ok certified := by
    intro record entering
    cases entering with
    | stored filed => cases filed
    | issued _ _ given =>
        rcases given with ⟨role, previous, member⟩ | ⟨role, domains, member⟩ <;>
          simp [refusedBeside, missEvents, arrivalEvent, keepEvent] at member
    | handedIn arrived _ isPrevious =>
        obtain rfl : _ = ({ domains := [SmallGateway.blog], previous := some lastingCertificate } :
            ObtainRequest) := by
          simpa [refusedBeside, missEvents, arrivalEvent, keepEvent] using arrived
        cases isPrevious
        have served : lastingCertificate.certifiedKey.toOption = some sharedKey := by decide +kernel
        cases isKey : lastingCertificate.certifiedKey with
        | ok certified => exact ⟨certified, rfl⟩
        | error reason =>
            rw [isKey] at served
            cases served
  have readable : ∀ key error, .calls 0 (.findRecord key) (.error error) ∉ refusedBeside := by
    intro key error member
    simp [refusedBeside, missEvents, arrivalEvent, keepEvent] at member
  obtain ⟨served, -⟩ := authorized_handshake_is_served isPrimary rfl run present entitled
    (by decide +kernel) usable readable
  obtain ⟨certified, isResult, given⟩ := served _ ended
  cases isResult
  rcases given with ⟨expiry, atFirst⟩ | ⟨record, isKey, cause⟩
  · cases atFirst
  · rw [sameKey] at cause
    exact ⟨traffic, task, certified, record, run, present, ended, isKey, cause⟩

end Traffic

end OnDemandTls
