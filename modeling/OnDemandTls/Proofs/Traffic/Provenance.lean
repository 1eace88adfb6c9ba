import OnDemandTls.Proofs.Traffic.Clocks
import OnDemandTls.Proofs.Traffic.Freshness
import OnDemandTls.Proofs.Traffic.PrimaryRecord
import OnDemandTls.Proofs.Traffic.Testimony

namespace OnDemandTls

/-!
# Where certificates come from

A record of a run was stored at first, an authority gave it, somebody asked for
its renewal (`Traffic.Enters`), or it is a mock.  Tasks read, store, mark and
serve records, and hand them on to other tasks, but make no others.  So a
property of all that comes in and of all mocks, which marks do not change
(`Traffic.Heritable`), is a property of everything that is stored, ready or on
its way (`Traffic.Upholds`).
-/

section Properties

variable (gateway : Gateway) (holds : String → CertificateResource → Prop)

/-- The certificate whose renewal an errand asks for has a property. -/
def Errand.Holds : Errand → Prop
  | obtaining request =>
      ∀ key previous,
        (Errand.obtaining request).certificateName? gateway = some key →
        request.previous = some previous →
        holds key previous
  | _ => True

/-- A record with a property backs what is ready under a key. -/
def Backs
    (key : String)
    (certified : CertifiedKey) :
    Prop :=
  ∃ record, holds (HostName.storeKey key) record ∧ record.certifiedKey = .ok certified

/-- The record that an issuance is about to store or to give back has a
property. -/
def IssuanceStage.Holds (holds : CertificateResource → Prop) : IssuanceStage → Prop
  | storing resource | marking resource _ | storingMock _ resource
  | releasing (.ok resource) => holds resource
  | _ => True

/-- The record that an issuance gives back has a property. -/
def IssuanceProgress.Holds (holds : CertificateResource → Prop) : IssuanceProgress → Prop
  | on stage => stage.Holds holds
  | ended (.ok resource) => holds resource
  | ended (.error _) => True

/-- The record that a handshake is about to store, to serve or to have renewed
has a property. -/
def HandshakeStage.Holds : HandshakeStage → Prop
  | dating target _ resource | storingFallback target _ _ resource =>
      holds (HostName.storeKey target.key) resource
  | launching target _ resource request =>
      holds (HostName.storeKey target.key) resource ∧
        (Errand.obtaining request).Holds gateway holds
  | obtaining target name stage => stage.Holds (holds (gateway.clientJob target name).key)
  | keeping key certified => Backs holds key certified
  | _ => True

/-- The record that a cycle of maintenance is about to have renewed has a
property. -/
def SweepStage.Holds : SweepStage → Prop
  | launching _ request => (Errand.obtaining request).Holds gateway holds
  | _ => True

/-- The record that a task is about to store, to serve, to give back or to have
renewed has a property. -/
def TaskStage.Holds (errand : Errand) : TaskStage → Prop
  | handshake stage => stage.Holds gateway holds
  | issuance job stage => stage.Holds (holds job.key)
  | upkeep rest only =>
      (upkeep rest only).SweepsAt gateway errand (SweepStage.Holds gateway holds)
  | _ => True

end Properties

/-- A property that every mock has and that marks do not change. -/
structure Heritable (holds : String → CertificateResource → Prop) : Prop where
  mocks :
    ∀ {key subject reason : String} {second : Int} {mock : CertificateResource},
      Mock.make subject reason second = .ok mock → holds key mock
  marks :
    ∀ {key : String} {record : CertificateResource} {mark : Option Int},
      holds key record → holds key { record with retryAfter := mark }

/-! ## What tasks do with records -/

namespace IssuanceJob

variable {holds : CertificateResource → Prop}

theorem holds_freshStage (job : IssuanceJob) : job.freshStage.Holds holds := by
  unfold freshStage
  cases job.request.user <;> trivial

theorem holds_firstStage (job : IssuanceJob) : job.firstStage.Holds holds := by
  unfold firstStage
  split
  · trivial
  · split
    · trivial
    · cases job.previous with
      | none => exact job.holds_freshStage
      | some previous => trivial

theorem holds_verdict
    {job : IssuanceJob}
    (previous : ∀ resource, job.previous = some resource → holds resource)
    (reason : AuthorityError)
    (second : Int) :
    (job.verdict reason second).Holds holds := by
  unfold verdict
  cases kept : job.previous.filter (fun resource => !resource.isExpired second) with
  | none => trivial
  | some resource => exact previous resource (Option.filter_eq_some_iff.mp kept).1

end IssuanceJob

section Calls

variable {gateway : Gateway} {holds : String → CertificateResource → Prop}
variable {scene : Scene} {number : Nat} {call : GatewayCall} {answer : call.Answer}

/-- A property of the records of a scene is one of whatever is read. -/
theorem Scene.holds_of_read
    {name : String}
    {resource : CertificateResource}
    (records : ∀ {key record}, scene.records.get? key = some record → holds key record)
    (admitted : scene.Admits (.findRecord name) (.ok (some resource))) :
    holds (HostName.storeKey name) resource :=
  records (Scene.find?_of_admits admitted)

/-- An issuance reads, is given or makes what it stores. -/
theorem IssuanceStage.holds_moves
    {job : IssuanceJob}
    {stage : IssuanceStage}
    {later : IssuanceProgress}
    (isKey : HostName.storeKey job.key = job.key)
    (records : ∀ {key record}, scene.records.get? key = some record → holds key record)
    (issued : ∀ resource, Traffic.IssuedTo [.calls number call answer] number resource →
      holds job.key resource)
    (previous : ∀ resource, job.previous = some resource → holds job.key resource)
    (heritable : Heritable holds)
    (before : stage.Holds (holds job.key))
    (admitted : scene.Admits call answer)
    (moves : Moves job stage call answer later) :
    later.Holds (holds job.key) := by
  cases moves with
  | owner guardNumber => exact job.holds_firstStage
  | paidFailure => exact job.holds_freshStage
  | taken resource =>
      have found : holds (HostName.storeKey job.key) resource :=
        Scene.holds_of_read records admitted
      rw [isKey] at found
      exact found
  | renewed _ resource => exact issued resource (Or.inl ⟨_, _, List.mem_singleton_self _⟩)
  | ordered resource => exact issued resource (Or.inr ⟨_, _, List.mem_singleton_self _⟩)
  | stored resource => exact before
  | judged reason second => exact IssuanceJob.holds_verdict previous reason second
  | marked resource second => exact heritable.marks before
  | mockMade made => exact heritable.mocks made
  | mockStored cause mock answer => exact before
  | released result => cases result <;> exact before
  | _ => trivial

theorem HandshakeStage.holds_serve
    {target : ServingTarget}
    {resource : CertificateResource}
    (name : String)
    (has : holds (HostName.storeKey target.key) resource) :
    (serve target name resource).Holds gateway holds := by
  unfold serve
  cases isKey : resource.certifiedKey with
  | error reason => trivial
  | ok certified => exact ⟨resource, has, isKey⟩

/-- What a handshake has renewed is what it serves, but for the mark. -/
theorem Gateway.holds_of_renewalRequest?
    {key : String}
    {resource : CertificateResource}
    {second : Int}
    {request : ObtainRequest}
    (heritable : Heritable holds)
    (has : holds (HostName.storeKey key) resource)
    (due : renewalRequest? key resource second = some request) :
    (Errand.obtaining request).Holds gateway holds := by
  intro name previous named isPrevious
  rw [certificateName?_of_single (of_renewalRequest? due).1] at named
  cases named
  unfold renewalRequest? at due
  split at due
  · cases due
  · cases due
  · cases due
    cases isPrevious
    exact heritable.marks has

/-- A handshake reads, is given or makes what it serves. -/
theorem HandshakeStage.holds_moves
    {errand : Errand}
    {stage later : HandshakeStage}
    (fits : (TaskStage.handshake stage).Fits gateway errand)
    (records : ∀ {key record}, scene.records.get? key = some record → holds key record)
    (issued : ∀ resource key, errand.certificateName? gateway = some key →
      Traffic.IssuedTo [.calls number call answer] number resource → holds key resource)
    (heritable : Heritable holds)
    (before : stage.Holds gateway holds)
    (admitted : scene.Admits call answer)
    (moves : Moves gateway stage call answer later) :
    later.Holds gateway holds := by
  cases moves with
  | validated name answer =>
      unfold validated
      cases answer with
      | none => trivial
      | some keyAuthorization =>
          simp only
          cases ValidationCertificate.make? name keyAuthorization <;> trivial
  | found target name resource =>
      have has : holds (HostName.storeKey target.key) resource :=
        Scene.holds_of_read records admitted
      unfold found
      split
      · exact holds_serve name has
      · exact has
  | missing target name =>
      unfold missing
      split
      · trivial
      · split <;> trivial
  | dated target name resource second =>
      unfold dated
      cases due : Gateway.renewalRequest? target.key resource second with
      | none => exact holds_serve name before
      | some request => exact ⟨before, Gateway.holds_of_renewalRequest? heritable before due⟩
  | launched target name resource request number => exact holds_serve name before.1
  | @issuance target name stage call answer progress inside =>
      have certificate := TaskStage.certificateName?_of_standing fits rfl
      obtain ⟨serverName, protocols, -, site, custom⟩ := fits
      have isKey : HostName.storeKey (gateway.clientJob target name).key =
          (gateway.clientJob target name).key :=
        Gateway.storeKey_key (gateway.job?_client target name)
      have after := IssuanceStage.holds_moves isKey records
        (fun resource => issued resource _ certificate)
        (fun resource isPrevious => by cases isPrevious) heritable before admitted inside
      match progress with
      | .on later => exact after
      | .ended (.error reason) => trivial
      | .ended (.ok resource) =>
          refine holds_serve name ?_
          rw [← key_of_site site custom, isKey]
          exact after
  | fallback made => exact heritable.mocks made
  | fallbackStored target name reason mock answer => exact holds_serve name before
  | _ => trivial

/-- A cycle of maintenance has renewed what it found. -/
theorem SweepStage.holds_moves
    {suffix : String}
    {interval : Nat}
    {withHandshakes : Bool}
    {stage later : SweepStage}
    (isPrimary : gateway.primaryDomain = .ofSuffix suffix)
    (records : ∀ {key record}, scene.records.get? key = some record → holds key record)
    (admitted : scene.Admits call answer)
    (moves : Moves gateway interval withHandshakes stage call answer later) :
    later.Holds gateway holds := by
  cases moves with
  | listed now records =>
      unfold delete
      split <;> trivial
  | deleted now report key others =>
      unfold deleted delete
      split
      · trivial
      · split <;> trivial
  | notDeleted now report key others error =>
      unfold delete
      split <;> trivial
  | dropped now report key others =>
      unfold delete
      split <;> trivial
  | stagedPurged now report count =>
      unfold purged
      split <;> trivial
  | primaryFound now report primary =>
      unfold primaryFound
      cases due : primary.bind fun resource => gateway.primaryRenewalRequest? resource now with
      | none => trivial
      | some request =>
          obtain ⟨resource, rfl, isRequest⟩ := Option.bind_eq_some_iff.mp due
          have has : holds (HostName.storeKey gateway.primaryDomain.key) resource :=
            Scene.holds_of_read records admitted
          intro key previous named isPrevious
          obtain ⟨-, rfl⟩ := Gateway.primaryRenewalRequest?_eq_some_iff.mp isRequest
          cases isPrevious
          have primaryNamed :=
            gateway.key_ofRequest?_primary isPrimary (gateway.client? .primary)
          cases named.symm.trans primaryNamed
          rw [isPrimary, PrimaryDomain.storeKey_key_ofSuffix, ← isPrimary] at has
          exact has
  | _ => trivial

namespace TaskStage

variable {errand : Errand} {stage later : TaskStage}

theorem holds_requesting (request : ObtainRequest) :
    (requesting gateway request).Holds gateway holds errand := by
  unfold requesting
  cases gateway.job? request <;> trivial

theorem holds_opening (errand : Errand) :
    (opening gateway errand).Holds gateway holds errand := by
  cases errand with
  | resolving serverName protocols =>
      simp only [opening, HandshakeStage.opening]
      split
      · trivial
      · split <;> trivial
  | obtaining request => exact holds_requesting request
  | ensuringPrimary => trivial
  | sweeping interval withHandshakes =>
      have begins : SweepStage.Holds gateway holds .dating := trivial
      have sweeps :
          (opening gateway (.sweeping interval withHandshakes)).SweepsAt gateway
            (.sweeping interval withHandshakes) (SweepStage.Holds gateway holds) :=
        sweepsAt_opening begins
      exact sweeps

/-- A task reads, is given or makes what it holds. -/
theorem holds_moves
    {suffix : String}
    (isPrimary : gateway.primaryDomain = .ofSuffix suffix)
    (fits : stage.Fits gateway errand)
    (records : ∀ {key record}, scene.records.get? key = some record → holds key record)
    (issued : ∀ resource key, errand.certificateName? gateway = some key →
      Traffic.IssuedTo [.calls number call answer] number resource → holds key resource)
    (heritable : Heritable holds)
    (asks : errand.Holds gateway holds)
    (before : stage.Holds gateway holds errand)
    (admitted : scene.Admits call answer)
    (moves : Moves gateway stage call answer later) :
    later.Holds gateway holds errand := by
  cases moves with
  | handshake inside =>
      exact HandshakeStage.holds_moves fits records issued heritable before admitted inside
  | @issuance job stage call answer progress inside =>
      have certificate := certificateName?_of_standing fits rfl
      obtain ⟨requests, isJob⟩ := fits
      have previous : ∀ resource, job.previous = some resource → holds job.key resource := by
        intro resource isPrevious
        have isRequest := (Option.filter_eq_some_iff.mp isPrevious).1
        cases errand with
        | resolving serverName protocols =>
            obtain ⟨name, -, same⟩ := Option.map_eq_some_iff.mp requests
            rw [← same] at isRequest
            cases isRequest
        | obtaining request =>
            cases requests
            exact asks job.key resource certificate isRequest
        | ensuringPrimary =>
            rw [← Option.some.inj requests] at isRequest
            cases isRequest
        | sweeping interval withHandshakes => cases requests
      have after := IssuanceStage.holds_moves (Gateway.storeKey_key isJob) records
        (fun resource => issued resource _ certificate) previous heritable before admitted inside
      cases progress with
      | on later => exact after
      | ended result => trivial
  | primarySought answer =>
      match answer with
      | .error error => trivial
      | .ok (some resource) => trivial
      | .ok none => exact holds_requesting gateway.primaryRequest
  | upkeep only answer =>
      have sweeps : (upkeep _ only).SweepsAt gateway errand (SweepStage.Holds gateway holds) :=
        before
      exact sweeps.moves (.upkeep only answer) fun _ _ _ _ _ _ inside =>
        SweepStage.holds_moves isPrimary records admitted inside

/-- What a task stores, it holds. -/
theorem holds_of_put
    {name : String}
    {record : CertificateResource}
    {answer : Except StoreError Unit}
    (heritable : Heritable holds)
    (fits : stage.Fits gateway errand)
    (before : stage.Holds gateway holds errand)
    (moves : Moves gateway stage (.putRecord name record) answer later) :
    holds (HostName.storeKey name) record := by
  have inIssuance : ∀ {job : IssuanceJob} {inner : IssuanceStage} {progress},
      HostName.storeKey job.key = job.key →
      inner.Holds (holds job.key) →
      IssuanceStage.Moves job inner (.putRecord name record) answer progress →
      holds (HostName.storeKey name) record := by
    intro job inner progress isKey before inside
    cases inside with
    | stored | notStored | mockStored =>
        rw [isKey]
        exact before
    | marked | notMarked =>
        rw [isKey]
        exact heritable.marks before
  cases moves with
  | handshake inside =>
      cases inside with
      | fallbackStored target name reason mock answer => exact before
      | issuance inside =>
          exact inIssuance (Gateway.storeKey_key (gateway.job?_client _ _)) before inside
  | issuance inside => exact inIssuance (Gateway.storeKey_key fits.2) before inside
  | upkeep only answer => exact only.allowed_next.elim

/-- What a handshake keeps ready is backed by what it holds. -/
theorem backs_of_keep
    {key : String}
    {certified : CertifiedKey}
    (before : stage.Holds gateway holds errand)
    (moves : Moves gateway stage (.keepReady key certified) () later) :
    Backs holds key certified := by
  cases moves with
  | handshake inside =>
      cases inside with
      | kept => exact before
      | issuance inside => cases inside
  | issuance inside => cases inside
  | upkeep only answer => exact only.allowed_next.elim

/-- What a task has renewed, it holds. -/
theorem holds_of_launch
    {request : ObtainRequest}
    {number : Nat}
    (before : stage.Holds gateway holds errand)
    (moves : Moves gateway stage (.startObtaining request) number later) :
    (Errand.obtaining request).Holds gateway holds := by
  cases moves with
  | handshake inside =>
      cases inside with
      | launched => exact before.2
      | issuance inside => cases inside
  | issuance inside => cases inside
  | upkeep only answer =>
      obtain ⟨interval, withHandshakes, sweep, -, upcoming, has⟩ := before
      obtain ⟨after, inside, -⟩ := SweepStage.moves_of_program upcoming.symm number
      cases inside with
      | launched => exact has

end TaskStage

end Calls

/-! ## Runs -/

namespace Traffic

/-- A record comes into a run under a store key. -/
inductive Enters
    {ρ : Type}
    (gateway : Gateway)
    (start : Scene)
    (events : List TrafficEvent)
    (traffic : Traffic ρ)
    (key : String)
    (record : CertificateResource) :
    Prop where
  | stored :
      start.records.get? key = some record →
      Enters gateway start events traffic key record
  /-- An authority gives it to a task that is to obtain a certificate for the key. -/
  | issued
      {number : Nat}
      {task : GatewayTask ρ} :
      traffic.tasks[number]? = some task →
      task.errand.certificateName? gateway = some key →
      IssuedTo events number record →
      Enters gateway start events traffic key record
  /-- Somebody asks for its renewal. -/
  | handedIn
      {request : ObtainRequest} :
      .arrives (.obtaining request) ∈ events →
      (Errand.obtaining request).certificateName? gateway = some key →
      request.previous = some record →
      Enters gateway start events traffic key record

/-- What comes in before a step, comes in. -/
theorem Enters.step
    {ρ : Type}
    {behaviour : Behaviour ρ}
    {gateway : Gateway}
    {start : Scene}
    {events : List TrafficEvent}
    {event : TrafficEvent}
    {traffic later : Traffic ρ}
    {key : String}
    {record : CertificateResource}
    (enters : Enters gateway start events traffic key record)
    (step : Step behaviour traffic event later) :
    Enters gateway start (events ++ [event]) later key record := by
  cases enters with
  | stored filed => exact .stored filed
  | issued present named given =>
      obtain ⟨now, presentLater, sameErrand⟩ := step.persists present
      exact .issued presentLater (by rw [sameErrand, named]) (given.append [event])
  | handedIn arrived named previous =>
      exact .handedIn (List.mem_append_left _ arrived) named previous

/-- Everything that is stored, ready or on its way has a property, but for what
was ready at first. -/
structure Upholds
    (gateway : Gateway)
    (start : Scene)
    (holds : String → CertificateResource → Prop)
    (traffic : Traffic TaskStage) :
    Prop where
  records :
    ∀ {key : String} {record : CertificateResource},
      traffic.scene.records.get? key = some record → holds key record
  ready :
    ∀ {key : String} {certified : CertifiedKey} {expiry : Nat},
      traffic.scene.readyCertificates.entries.get? key = some (certified, expiry) →
      start.readyCertificates.entries.get? key = some (certified, expiry) ∨
        Backs holds key certified
  errands :
    ∀ {number : Nat} {task : GatewayTask TaskStage},
      traffic.tasks[number]? = some task → task.errand.Holds gateway holds
  stages :
    ∀ {number : Nat} {task : GatewayTask TaskStage} {stage : TaskStage},
      traffic.tasks[number]? = some task →
      task.rest = some stage →
      stage.Holds gateway holds task.errand

namespace Upholds

variable {gateway : Gateway} {start : Scene} {events : List TrafficEvent}
variable {holds : String → CertificateResource → Prop}
variable {suffix : String} {event : TrafficEvent} {traffic later : Traffic TaskStage}

/-- What is stored or ready after a step was so before, or some task held it. -/
theorem scene_step
    (heritable : Heritable holds)
    (run : Run gateway.stagedBehaviour (quiet start) events traffic)
    (upholds : Upholds gateway start holds traffic)
    (step : Step gateway.stagedBehaviour traffic event later) :
    (∀ {key record}, later.scene.records.get? key = some record → holds key record) ∧
      ∀ {key certified expiry},
        later.scene.readyCertificates.entries.get? key = some (certified, expiry) →
        start.readyCertificates.entries.get? key = some (certified, expiry) ∨
          Backs holds key certified := by
  constructor
  · intro key record stored
    rcases step.stored_before stored with before | ⟨writer, name, member, rfl⟩
    · exact upholds.records before
    · cases List.mem_singleton.mp member
      obtain ⟨task, stage, next, there, left, moves, -⟩ := step.called
      exact TaskStage.holds_of_put heritable (GuardsFit.fits_of_run run there left)
        (upholds.stages there left) moves
  · intro key certified expiry ready
    rcases step.scene_cases with ⟨errand, -, sceneIs⟩ | ⟨number, call, answer, rfl, -, sceneIs⟩ |
      ⟨number, task, -, -, sceneIs⟩ | ⟨milliseconds, -, sceneIs⟩
    · rw [sceneIs] at ready
      exact upholds.ready ready
    · rw [sceneIs] at ready
      rcases Scene.ready_before ready with ⟨rfl, -⟩ | ⟨before, -⟩
      · obtain ⟨task, stage, next, there, left, moves, -⟩ := step.called
        exact Or.inr (TaskStage.backs_of_keep (upholds.stages there left) moves)
      · exact upholds.ready before
    · rw [sceneIs] at ready
      cases guard : task.guard <;> rw [guard] at ready <;> exact upholds.ready ready
    · rw [sceneIs] at ready
      exact upholds.ready ready

theorem errands_step
    (enters : ∀ {key record},
      Enters gateway start (events ++ [event]) later key record → holds key record)
    (upholds : Upholds gateway start holds traffic)
    (step : Step gateway.stagedBehaviour traffic event later)
    {number : Nat}
    {task : GatewayTask TaskStage}
    (present : later.tasks[number]? = some task) :
    task.errand.Holds gateway holds := by
  rcases step.errand_cases present with begins | ⟨before, there, sameErrand⟩
  · rcases TrafficEvent.begun_cases begins with rfl | ⟨launcher, request, answer, rfl, isLaunched⟩
    · cases arriving : task.errand with
      | obtaining request =>
          intro key previous named isPrevious
          rw [arriving] at enters
          exact enters (.handedIn (List.mem_append_right _ (List.mem_singleton_self _)) named
            isPrevious)
      | _ => trivial
    · obtain ⟨acting, stage, next, launching, left, moves, -⟩ := step.called
      rw [isLaunched]
      exact TaskStage.holds_of_launch (upholds.stages launching left) moves
  · rw [← sameErrand]
    exact upholds.errands there

theorem stages_step
    (isPrimary : gateway.primaryDomain = .ofSuffix suffix)
    (heritable : Heritable holds)
    (enters : ∀ {key record},
      Enters gateway start (events ++ [event]) later key record → holds key record)
    (run : Run gateway.stagedBehaviour (quiet start) events traffic)
    (upholds : Upholds gateway start holds traffic)
    (step : Step gateway.stagedBehaviour traffic event later)
    {number : Nat}
    {task : GatewayTask TaskStage}
    {stage : TaskStage}
    (present : later.tasks[number]? = some task)
    (left : task.rest = some stage) :
    stage.Holds gateway holds task.errand := by
  cases step.change present with
  | begins event errand =>
      cases left
      exact TaskStage.holds_opening errand
  | @moves task before next call answer there leftBefore moves admitted =>
      cases left
      have issued : ∀ resource key, task.errand.certificateName? gateway = some key →
          IssuedTo [.calls number call answer] number resource → holds key resource := by
        intro resource key named given
        refine enters (.issued present named ?_)
        rcases given with ⟨role, previous, member⟩ | ⟨role, domains, member⟩
        · exact Or.inl ⟨role, previous, List.mem_append_right _ member⟩
        · exact Or.inr ⟨role, domains, List.mem_append_right _ member⟩
      have fits := GuardsFit.fits_of_run run there leftBefore
      have asks := upholds.errands there
      have held := upholds.stages there leftBefore
      exact TaskStage.holds_moves isPrimary fits upholds.records issued heritable asks held admitted
        moves
  | panics there => cases left
  | stays there => exact upholds.stages there left

/-- A property of all that comes in is one of everything in the run. -/
theorem of_run
    (isPrimary : gateway.primaryDomain = .ofSuffix suffix)
    (heritable : Heritable holds)
    (run : Run gateway.stagedBehaviour (quiet start) events traffic)
    (enters : ∀ {key record}, Enters gateway start events traffic key record → holds key record) :
    Upholds gateway start holds traffic := by
  induction run with
  | nil =>
      exact ⟨fun filed => enters (.stored filed), Or.inl, (fun present => nomatch present),
        fun present => nomatch present⟩
  | snoc run step inductionHypothesis =>
      have upholds := inductionHypothesis fun before => enters (before.step step)
      obtain ⟨records, ready⟩ := upholds.scene_step heritable run step
      exact ⟨records, ready, upholds.errands_step enters step,
        upholds.stages_step isPrimary heritable enters run step⟩

end Upholds

end Traffic

end OnDemandTls
