import OnDemandTls.Proofs.Traffic.Guards
import OnDemandTls.Proofs.Traffic.Replay

namespace OnDemandTls

/-!
# Who may have certificates issued

Only a handshake for a custom domain whose claim is confirmed is entitled to
anything but a look at what there is.  In a run to which only handshakes come,
everything else is done by such a handshake or by a renewal that one has
launched, and it is done for the store key of the name that was asked for
(`Traffic.issuance_needs_entitlement`).
-/

open Traffic

/-- A handshake, other than one that validates a name, for a custom domain whose
claim is confirmed. -/
structure Errand.Entitled
    (gateway : Gateway)
    (errand : Errand)
    (name : String)
    (claim : DomainClaim) :
    Prop where
  asks :
    ∃ serverName protocols,
      errand = .resolving (some serverName) protocols ∧
        HostName.asked serverName = name ∧
        protocols.contains validationProtocol = false
  named : name ≠ ""
  custom : gateway.primaryDomain.covers name = false
  claimed : gateway.authority name = some claim
  authorized : claim.authorized = true

namespace GatewayCall

/-- The calls that do more than look at what there is and keep it ready. -/
def Acts : GatewayCall → Prop
  | putRecord _ _ | deleteRecord _ | startObtaining _ => True
  | call => call.Issues

/-- The store key that a call of an errand is made for. -/
def key?
    (gateway : Gateway)
    (errand : Errand) :
    GatewayCall → Option String
  | putRecord name _ | deleteRecord name => some (HostName.storeKey name)
  | claim name | awaitRelease name _ | release name => some name
  | spend _ | askUser _ | renew _ _ | order _ _ => errand.certificateName? gateway
  | startObtaining request => (Errand.obtaining request).certificateName? gateway
  | _ => none

/-- A call is made for a name: for its store key, with the general authority and
for no other names, and at the cost of the one who claims it. -/
structure IsFor
    (gateway : Gateway)
    (errand : Errand)
    (name : String)
    (claim : DomainClaim)
    (call : GatewayCall) :
    Prop where
  key : call.key? gateway errand = some (HostName.storeKey name)
  renewal : ∀ role previous, call = .renew role previous → role = .general
  order :
    ∀ role domains,
      call = .order role domains →
      role = .general ∧ ∀ domain ∈ domains, HostName.storeKey domain = HostName.storeKey name
  payer : ∀ user, call = .askUser user → user = claim.owner

end GatewayCall

namespace Scene

/-- A call that does not act leaves the store and the locks as they are. -/
theorem after_of_not_acts
    {call : GatewayCall}
    (idle : ¬ call.Acts)
    (scene : Scene)
    (answer : call.Answer) :
    (scene.after call answer).records = scene.records ∧
      (scene.after call answer).locks = scene.locks := by
  cases call <;> first | exact ⟨rfl, rfl⟩ | exact (idle trivial).elim

end Scene

namespace Gateway

variable {gateway : Gateway} {errand : Errand} {name : String} {claim : DomainClaim}

/-- The target of a custom domain whose claim is confirmed. -/
def customTarget
    (name : String)
    (claim : DomainClaim) :
    ServingTarget where
  key := HostName.storeKey name
  primary := false
  issuanceAllowed := true
  user := some claim.owner

theorem classify_of_claimed
    (custom : gateway.primaryDomain.covers name = false)
    (claimed : gateway.authority name = some claim)
    (authorized : claim.authorized = true) :
    gateway.classify name = customTarget name claim := by
  simp [classify, custom, claimed, authorized, customTarget]

/-- A name has the primary target, or it is claimed and the claim confirmed. -/
theorem classify_cases
    (gateway : Gateway)
    (name : String) :
    gateway.classify name = gateway.primaryTarget ∨
      gateway.primaryDomain.covers name = false ∧
        ∃ claim, gateway.authority name = some claim ∧ claim.authorized = true := by
  unfold classify
  by_cases covered : gateway.primaryDomain.covers name = true
  · simp [covered]
  · rw [if_neg covered]
    cases claimed : gateway.authority name with
    | none => exact Or.inl rfl
    | some claim =>
        by_cases authorized : claim.authorized = true
        · exact Or.inr ⟨Bool.eq_false_iff.mpr covered, claim, rfl, authorized⟩
        · exact Or.inl (if_neg authorized)

theorem mem_of_mem_provable
    {supportsWildcards : Bool}
    {domains : List String}
    {domain : String}
    (member : domain ∈ Issuance.provable supportsWildcards domains) :
    domain ∈ domains := by
  unfold Issuance.provable at member
  cases domains with
  | nil => exact member
  | cons first rest =>
      simp only at member
      split at member
      · exact List.mem_cons_of_mem first member
      · exact member

/-- An issuance for one name is for its store key and orders nothing else. -/
theorem job_of_single
    {request : ObtainRequest}
    {job : IssuanceJob}
    {domain : String}
    (single : request.domains = [domain])
    (isJob : gateway.job? request = some job) :
    job.key = HostName.storeKey domain ∧
      ∀ ordered ∈ job.issuance.domains, HostName.storeKey ordered = HostName.storeKey domain := by
  obtain ⟨issuance, isIssuance, rfl⟩ := Option.map_eq_some_iff.mp isJob
  unfold Issuance.ofRequest? at isIssuance
  rw [single] at isIssuance
  simp only [List.map_cons, List.map_nil, Option.some.injEq] at isIssuance
  subst isIssuance
  refine ⟨HostName.storeKey_fold domain, fun ordered member => ?_⟩
  rw [List.mem_singleton.mp (mem_of_mem_provable member)]
  exact HostName.storeKey_fold domain

/-- A request for one name is for the certificate of its store key. -/
theorem certificateName?_of_single
    {request : ObtainRequest}
    {domain : String}
    (single : request.domains = [domain]) :
    (Errand.obtaining request).certificateName? gateway = some (HostName.storeKey domain) := by
  simp only [Errand.certificateName?, Errand.request?, Option.bind_some, Issuance.ofRequest?,
    single, List.map_cons, List.map_nil, Option.map_some, HostName.storeKey_fold]

/-- The renewal of a stored certificate is asked for under its key, and nobody
pays for it. -/
theorem of_renewalRequest?
    {key : String}
    {resource : CertificateResource}
    {second : Int}
    {request : ObtainRequest}
    (due : renewalRequest? key resource second = some request) :
    request.domains = [key] ∧ request.user = none ∧ request.role = .general := by
  unfold renewalRequest? at due
  split at due
  · cases due
  · cases due
  · cases due
    exact ⟨rfl, rfl, rfl⟩

end Gateway

/-! ## Stages -/

namespace IssuanceStage

/-- Whoever is charged is the one who pays for the request. -/
def ChargesPayer
    (job : IssuanceJob) :
    IssuanceStage → Prop
  | charging user => job.request.user = some user
  | _ => True

theorem chargesPayer_freshStage (job : IssuanceJob) : job.freshStage.ChargesPayer job := by
  unfold IssuanceJob.freshStage
  cases payer : job.request.user with
  | none => trivial
  | some user => exact payer

theorem chargesPayer_firstStage (job : IssuanceJob) : job.firstStage.ChargesPayer job := by
  unfold IssuanceJob.firstStage
  split
  · trivial
  · split
    · trivial
    · cases job.previous with
      | none => exact chargesPayer_freshStage job
      | some previous => trivial

theorem chargesPayer_moves
    {job : IssuanceJob}
    {stage later : IssuanceStage}
    {call : GatewayCall}
    {answer : call.Answer}
    (moves : Moves job stage call answer (.on later)) :
    later.ChargesPayer job := by
  cases moves with
  | owner guardNumber => exact chargesPayer_firstStage job
  | paidFailure => exact chargesPayer_freshStage job
  | judged reason second =>
      unfold IssuanceJob.verdict
      cases job.previous.filter (fun resource => !resource.isExpired second) <;> trivial
  | _ => trivial

end IssuanceStage

namespace HandshakeStage

/-- A target and a name are those of an entitled handshake. -/
def IsCustom
    (gateway : Gateway)
    (errand : Errand)
    (target : ServingTarget)
    (name : String) :
    Prop :=
  ∃ claim, errand.Entitled gateway name claim ∧ target = Gateway.customTarget name claim

/-- Only an entitled handshake gets past the look at what is stored. -/
def Sanctioned
    (gateway : Gateway)
    (errand : Errand) :
    HandshakeStage → Prop
  | seekingReady target name | seekingRecord target name =>
      target.primary = true ∨ IsCustom gateway errand target name
  | dating target name _ | datingFallback target name _ | storingFallback target name _ _ =>
      IsCustom gateway errand target name
  | launching target name _ request =>
      IsCustom gateway errand target name ∧
        request.domains = [target.key] ∧ request.user = none ∧ request.role = .general
  | obtaining target name stage =>
      IsCustom gateway errand target name ∧ stage.ChargesPayer (gateway.clientJob target name)
  | validating _ | keeping _ _ | finished _ => True

variable {gateway : Gateway} {errand : Errand} {target : ServingTarget} {name : String}

theorem sanctioned_serve
    (gateway : Gateway)
    (errand : Errand)
    (target : ServingTarget)
    (name : String)
    (resource : CertificateResource) :
    (serve target name resource).Sanctioned gateway errand := by
  unfold serve
  cases resource.certifiedKey <;> trivial

theorem sanctioned_opening
    (gateway : Gateway)
    (serverName : Option String)
    (protocols : List String) :
    (opening gateway serverName protocols).Sanctioned gateway (.resolving serverName protocols) := by
  unfold opening
  cases named : (serverName.map HostName.asked).filter (· ≠ "") with
  | none => trivial
  | some name =>
      by_cases validation : protocols.contains validationProtocol = true
      · simp only [validation, if_true]
        trivial
      · simp only [validation]
        rcases gateway.classify_cases name with isPrimary | ⟨custom, claim, claimed, authorized⟩
        · exact Or.inl (congrArg ServingTarget.primary isPrimary)
        · obtain ⟨asked, notEmpty⟩ := Option.filter_eq_some_iff.mp named
          obtain ⟨spelling, rfl, asks⟩ := Option.map_eq_some_iff.mp asked
          have entitled : (Errand.resolving (some spelling) protocols).Entitled gateway name claim :=
            ⟨⟨spelling, protocols, rfl, asks, Bool.eq_false_iff.mpr validation⟩,
              by simpa using notEmpty, custom, claimed, authorized⟩
          exact Or.inr ⟨claim, entitled, Gateway.classify_of_claimed custom claimed authorized⟩

/-- The stages of a handshake stay within what it is entitled to. -/
theorem sanctioned_moves
    {stage later : HandshakeStage}
    {call : GatewayCall}
    {answer : call.Answer}
    (sanctioned : stage.Sanctioned gateway errand)
    (moves : Moves gateway stage call answer later) :
    later.Sanctioned gateway errand := by
  cases moves with
  | validated name answer =>
      unfold validated
      cases answer with
      | none => trivial
      | some keyAuthorization =>
          simp only
          cases ValidationCertificate.make? name keyAuthorization <;> trivial
  | ready target name certified => trivial
  | notReady target name => exact sanctioned
  | unreadable target name error => trivial
  | found target name resource =>
      unfold found
      rcases sanctioned with isPrimary | isCustom
      · rw [if_pos isPrimary]
        exact sanctioned_serve gateway errand target name resource
      · split
        · exact sanctioned_serve gateway errand target name resource
        · exact isCustom
  | missing target name =>
      unfold missing
      rcases sanctioned with isPrimary | isCustom
      · rw [if_pos isPrimary]
        trivial
      · split
        · trivial
        · split
          · exact ⟨isCustom, trivial⟩
          · trivial
  | dated target name resource second =>
      unfold dated
      cases due : Gateway.renewalRequest? target.key resource second with
      | none => exact sanctioned_serve gateway errand target name resource
      | some request => exact ⟨sanctioned, Gateway.of_renewalRequest? due⟩
  | launched target name resource request number =>
      exact sanctioned_serve gateway errand target name resource
  | @issuance target name stage call answer progress inside =>
      match progress with
      | .on later => exact ⟨sanctioned.1, IssuanceStage.chargesPayer_moves inside⟩
      | .ended (.ok resource) => exact sanctioned_serve gateway errand target name resource
      | .ended (.error reason) => exact sanctioned.1
  | fallback made => exact sanctioned
  | noFallback made => trivial
  | fallbackStored target name reason mock answer =>
      exact sanctioned_serve gateway errand target name mock
  | kept key certified => trivial

end HandshakeStage

namespace TaskStage

variable {gateway : Gateway} {errand : Errand}

/-- A stage is one that the errand of its task leads to, and a handshake stays
within what it is entitled to. -/
def Sanctioned
    (gateway : Gateway)
    (errand : Errand) :
    TaskStage → Prop
  | handshake stage => stage.Sanctioned gateway errand
  | issuance job stage =>
      (∀ serverName protocols, errand ≠ .resolving serverName protocols) ∧ stage.ChargesPayer job
  | seekingPrimary => errand = .ensuringPrimary
  | upkeep _ _ => ∃ interval withHandshakes, errand = .sweeping interval withHandshakes
  | finished _ => True

theorem sanctioned_requesting
    (noHandshake : ∀ serverName protocols, errand ≠ .resolving serverName protocols)
    (request : ObtainRequest) :
    (requesting gateway request).Sanctioned gateway errand := by
  unfold requesting
  cases gateway.job? request with
  | none => trivial
  | some job => exact ⟨noHandshake, trivial⟩

theorem sanctioned_opening
    (gateway : Gateway)
    (errand : Errand) :
    (opening gateway errand).Sanctioned gateway errand := by
  cases errand with
  | resolving serverName protocols =>
      exact HandshakeStage.sanctioned_opening gateway serverName protocols
  | obtaining request =>
      refine sanctioned_requesting ?_ request
      intro serverName protocols same
      cases same
  | ensuringPrimary => rfl
  | sweeping interval withHandshakes => exact ⟨interval, withHandshakes, rfl⟩

theorem sanctioned_moves
    {stage later : TaskStage}
    {call : GatewayCall}
    {answer : call.Answer}
    (sanctioned : stage.Sanctioned gateway errand)
    (moves : Moves gateway stage call answer later) :
    later.Sanctioned gateway errand := by
  cases moves with
  | handshake inside => exact HandshakeStage.sanctioned_moves sanctioned inside
  | @issuance job stage call answer progress inside =>
      cases progress with
      | on later => exact ⟨sanctioned.1, IssuanceStage.chargesPayer_moves inside⟩
      | ended result => trivial
  | primarySought answer =>
      match answer with
      | .error error => trivial
      | .ok (some resource) => trivial
      | .ok none =>
          have isPrimary : errand = .ensuringPrimary := sanctioned
          have noHandshake : ∀ serverName protocols, errand ≠ .resolving serverName protocols := by
            intro serverName protocols same
            cases isPrimary.symm.trans same
          exact sanctioned_requesting noHandshake gateway.primaryRequest
  | upkeep only answer => exact sanctioned

end TaskStage

/-! ## Calls -/

namespace IssuanceStage

/-- The calls of an issuance for one name are made for that name. -/
theorem isFor_of_moves
    {gateway : Gateway}
    {errand : Errand}
    {name domain : String}
    {claim : DomainClaim}
    {job : IssuanceJob}
    {stage : IssuanceStage}
    {call : GatewayCall}
    {answer : call.Answer}
    {progress : IssuanceProgress}
    (isJob : gateway.job? job.request = some job)
    (single : job.request.domains = [domain])
    (sameKey : HostName.storeKey domain = HostName.storeKey name)
    (general : job.request.role = .general)
    (payer : ∀ user, job.request.user = some user → user = claim.owner)
    (certificate : errand.certificateName? gateway = some job.key)
    (charges : stage.ChargesPayer job)
    (moves : Moves job stage call answer progress)
    (acts : call.Acts) :
    call.IsFor gateway errand name claim := by
  obtain ⟨isKey, ordered⟩ := Gateway.job_of_single single isJob
  rw [sameKey] at isKey ordered
  have storedKey : HostName.storeKey job.key = HostName.storeKey name := by
    rw [Gateway.storeKey_key isJob, isKey]
  -- Locks and records are named by the key of the issuance, and whatever is paid
  -- or ordered by the errand; both are the store key of the name.
  have key : call.key? gateway errand = some (HostName.storeKey name) := by
    cases moves with
    | busy guardNumber | owner guardNumber | awaited guardNumber | released result =>
        exact congrArg some isKey
    | stored issued | notStored issued error | marked previous second
    | notMarked previous second error | mockStored cause mock answer =>
        exact congrArg some storedKey
    | unreadable error | missing | taken resource | judged reason second | mockMade made
    | noMock made => exact acts.elim
    | _ => exact certificate.trans (congrArg some isKey)
  refine ⟨key, ?_, ?_, ?_⟩
  · rintro role previous rfl
    cases moves <;> exact general
  · rintro role domains rfl
    cases moves <;> exact ⟨general, ordered⟩
  · rintro user rfl
    cases moves <;> exact payer user charges

end IssuanceStage

/-- Where an errand comes from in a run to which only handshakes come: it is one
of them, or a renewal for the name of one that is entitled to it. -/
def Errand.Sanctioned
    (gateway : Gateway)
    (events : List TrafficEvent) :
    Errand → Prop
  | resolving serverName protocols => .arrives (.resolving serverName protocols) ∈ events
  | obtaining request =>
      ∃ handshake name claim,
        .arrives handshake ∈ events ∧
          handshake.Entitled gateway name claim ∧
          request.domains = [HostName.storeKey name] ∧
          request.user = none ∧
          request.role = .general
  | _ => False

theorem Errand.Sanctioned.append
    {gateway : Gateway}
    {events : List TrafficEvent}
    {errand : Errand}
    (sanctioned : errand.Sanctioned gateway events)
    (more : List TrafficEvent) :
    errand.Sanctioned gateway (events ++ more) := by
  cases errand with
  | resolving serverName protocols => exact List.mem_append_left more sanctioned
  | obtaining request =>
      obtain ⟨handshake, name, claim, arrived, rest⟩ := sanctioned
      exact ⟨handshake, name, claim, List.mem_append_left more arrived, rest⟩
  | ensuringPrimary => exact sanctioned
  | sweeping interval withHandshakes => exact sanctioned

namespace TaskStage

variable {gateway : Gateway} {events : List TrafficEvent} {errand : Errand}

/-- A handshake acts for the name that it is entitled to. -/
theorem isFor_of_handshake
    {stage later : HandshakeStage}
    {call : GatewayCall}
    {answer : call.Answer}
    (fits : (handshake stage).Fits gateway errand)
    (sanctioned : stage.Sanctioned gateway errand)
    (moves : HandshakeStage.Moves gateway stage call answer later)
    (acts : call.Acts) :
    ∃ name claim, errand.Entitled gateway name claim ∧ call.IsFor gateway errand name claim := by
  cases moves with
  | launched target name resource request number =>
      obtain ⟨⟨claim, entitled, rfl⟩, single, -, -⟩ := sanctioned
      refine ⟨name, claim, entitled, ?_, nofun, nofun, nofun⟩
      exact (Gateway.certificateName?_of_single single).trans
        (congrArg some (HostName.storeKey_storeKey name))
  | @issuance target name stage call answer progress inside =>
      obtain ⟨⟨claim, entitled, rfl⟩, charges⟩ := sanctioned
      refine ⟨name, claim, entitled, ?_⟩
      have certificate := certificateName?_of_standing fits rfl
      exact IssuanceStage.isFor_of_moves (gateway.job?_client _ name) rfl rfl rfl
        (fun user same => (Option.some.inj same).symm) certificate charges inside acts
  | fallbackStored target name reason mock answer =>
      obtain ⟨claim, entitled, rfl⟩ := sanctioned
      refine ⟨name, claim, entitled, ?_, nofun, nofun, nofun⟩
      exact congrArg some (HostName.storeKey_storeKey name)
  | _ => exact acts.elim

/-- Whatever a task of such a run does, it does for the name of an entitled
handshake. -/
theorem isFor_of_acts
    {stage later : TaskStage}
    {call : GatewayCall}
    {answer : call.Answer}
    (fits : stage.Fits gateway errand)
    (sanctioned : stage.Sanctioned gateway errand)
    (comes : errand.Sanctioned gateway events)
    (moves : Moves gateway stage call answer later)
    (acts : call.Acts) :
    ∃ handshake name claim,
      .arrives handshake ∈ events ∧
        handshake.Entitled gateway name claim ∧
        call.IsFor gateway errand name claim ∧
        (∀ serverName protocols, errand = .resolving serverName protocols → handshake = errand) := by
  cases moves with
  | @handshake stage later call answer inside =>
      obtain ⟨name, claim, entitled, isFor⟩ := isFor_of_handshake fits sanctioned inside acts
      obtain ⟨serverName, protocols, rfl, -⟩ := entitled.asks
      exact ⟨_, name, claim, comes, entitled, isFor, fun _ _ _ => rfl⟩
  | @issuance job stage call answer progress inside =>
      obtain ⟨noHandshake, charges⟩ := sanctioned
      have stands : (issuance job stage).standing gateway = .during job stage := rfl
      have certificate := certificateName?_of_standing fits stands
      obtain ⟨requests, isJob⟩ := fits
      cases errand with
      | resolving serverName protocols => exact absurd rfl (noHandshake serverName protocols)
      | obtaining request =>
          obtain ⟨handshake, name, claim, arrived, entitled, single, nobody, general⟩ := comes
          cases requests
          refine ⟨handshake, name, claim, arrived, entitled, ?_, nofun⟩
          exact IssuanceStage.isFor_of_moves isJob single (HostName.storeKey_storeKey name) general
            (fun user same => by rw [nobody] at same; cases same) certificate charges inside acts
      | ensuringPrimary => exact comes.elim
      | sweeping interval withHandshakes => exact comes.elim
  | primarySought answer => exact acts.elim
  | upkeep only answer =>
      obtain ⟨interval, withHandshakes, rfl⟩ := sanctioned
      exact comes.elim

/-- What a task of such a run launches is a renewal for an entitled handshake. -/
theorem sanctioned_launch
    {stage later : TaskStage}
    {request : ObtainRequest}
    {answer : Nat}
    (sanctioned : stage.Sanctioned gateway errand)
    (comes : errand.Sanctioned gateway events)
    (moves : Moves gateway stage (.startObtaining request) answer later) :
    (Errand.obtaining request).Sanctioned gateway events := by
  cases moves with
  | handshake inside =>
      cases inside with
      | launched target name resource request number =>
          obtain ⟨⟨claim, entitled, rfl⟩, single, nobody, general⟩ := sanctioned
          obtain ⟨serverName, protocols, rfl, -⟩ := entitled.asks
          exact ⟨_, name, claim, comes, entitled, single, nobody, general⟩
      | issuance inside => cases inside
  | issuance inside => cases inside
  | upkeep only answer =>
      obtain ⟨interval, withHandshakes, rfl⟩ := sanctioned
      exact comes.elim

end TaskStage

/-! ## Runs -/

namespace Traffic

variable {gateway : Gateway} {scene : Scene} {events : List TrafficEvent}

/-- All errands that come from outside are handshakes. -/
def OnlyHandshakes (events : List TrafficEvent) : Prop :=
  ∀ errand,
    .arrives errand ∈ events → ∃ serverName protocols, errand = .resolving serverName protocols

theorem OnlyHandshakes.of_append
    {more : List TrafficEvent}
    (onlyHandshakes : OnlyHandshakes (events ++ more)) :
    OnlyHandshakes events :=
  fun errand arrived => onlyHandshakes errand (List.mem_append_left more arrived)

theorem OnlyHandshakes.append
    {more : List TrafficEvent}
    (first : OnlyHandshakes events)
    (second : OnlyHandshakes more) :
    OnlyHandshakes (events ++ more) :=
  fun errand arrived => (List.mem_append.mp arrived).elim (first errand) (second errand)

section Staged

variable {traffic : Traffic TaskStage}

/-- The stages of all tasks stay within what their errands are entitled to. -/
theorem sanctioned_stage_of_run
    (run : Run gateway.stagedBehaviour (quiet scene) events traffic)
    {number : Nat}
    {task : GatewayTask TaskStage}
    {stage : TaskStage}
    (present : traffic.tasks[number]? = some task)
    (left : task.rest = some stage) :
    stage.Sanctioned gateway task.errand :=
  Run.stages (fun errand stage => stage.Sanctioned gateway errand)
    (TaskStage.sanctioned_opening gateway)
    (fun _ _ _ _ _ sanctioned moves => TaskStage.sanctioned_moves sanctioned moves) run present left

/-- If only handshakes come, every other task is the renewal for one of them. -/
theorem sanctioned_errand_of_run
    (onlyHandshakes : OnlyHandshakes events)
    (run : Run gateway.stagedBehaviour (quiet scene) events traffic)
    {number : Nat}
    {task : GatewayTask TaskStage}
    (present : traffic.tasks[number]? = some task) :
    task.errand.Sanctioned gateway events := by
  induction run generalizing number task with
  | nil => cases present
  | @snoc events traffic later event run step inductionHypothesis =>
      have before : ∀ {number : Nat} {task : GatewayTask TaskStage},
          traffic.tasks[number]? = some task → task.errand.Sanctioned gateway events :=
        inductionHypothesis onlyHandshakes.of_append
      -- Only a new task has a new errand: it comes from outside, or the task that
      -- launches it was sanctioned itself.
      rcases step.errand_cases present with begins | ⟨original, there, sameErrand⟩
      · rcases TrafficEvent.begun_cases begins with rfl | ⟨launcher, request, answer, rfl, isLaunched⟩
        · have arrived : .arrives task.errand ∈ events ++ [TrafficEvent.arrives task.errand] :=
            List.mem_append_right _ (List.mem_singleton_self _)
          obtain ⟨serverName, protocols, isHandshake⟩ := onlyHandshakes task.errand arrived
          rw [isHandshake] at arrived ⊢
          exact arrived
        · obtain ⟨acting, stage, next, launching, left, moves, -, -, -⟩ := step.called
          have sanctioned := sanctioned_stage_of_run run launching left
          rw [isLaunched]
          exact (TaskStage.sanctioned_launch sanctioned (before launching) moves).append _
      · rw [← sameErrand]
        exact (before there).append _

/-- If only handshakes come, no task is a cycle of maintenance. -/
theorem ne_sweeping_of_run
    (onlyHandshakes : OnlyHandshakes events)
    (run : Run gateway.stagedBehaviour (quiet scene) events traffic)
    {number : Nat}
    {task : GatewayTask TaskStage}
    (present : traffic.tasks[number]? = some task)
    (interval : Nat)
    (withHandshakes : Bool) :
    task.errand ≠ .sweeping interval withHandshakes := by
  intro isSweep
  have comes := sanctioned_errand_of_run onlyHandshakes run present
  rw [isSweep] at comes
  exact comes

/-- A handshake that is not entitled does not act. -/
theorem not_acts_of_not_entitled
    (run : Run gateway.stagedBehaviour (quiet scene) events traffic)
    {number : Nat}
    {task : GatewayTask TaskStage}
    {stage later : TaskStage}
    {serverName : Option String}
    {protocols : List String}
    {call : GatewayCall}
    {answer : call.Answer}
    (present : traffic.tasks[number]? = some task)
    (left : task.rest = some stage)
    (isHandshake : task.errand = .resolving serverName protocols)
    (refused : ∀ name claim, ¬ task.errand.Entitled gateway name claim)
    (moves : TaskStage.Moves gateway stage call answer later) :
    ¬ call.Acts := by
  intro acts
  have fits := GuardsFit.fits_of_run run present left
  have sanctioned := sanctioned_stage_of_run run present left
  cases moves with
  | handshake inside =>
      obtain ⟨name, claim, entitled, -⟩ := TaskStage.isFor_of_handshake fits sanctioned inside acts
      exact refused name claim entitled
  | issuance inside => exact sanctioned.1 serverName protocols isHandshake
  | primarySought answer => exact acts.elim
  | upkeep only answer =>
      obtain ⟨interval, withHandshakes, isSweep⟩ := sanctioned
      cases isHandshake.symm.trans isSweep

theorem guardAfter_of_not_acts
    {call : GatewayCall}
    (idle : ¬ call.Acts)
    (guard : Option (String × Nat))
    (answer : call.Answer) :
    guardAfter guard call answer = guard := by
  cases call <;> first | rfl | exact (idle trivial).elim

/-- A handshake that is not entitled holds no lock. -/
theorem unguarded_of_not_entitled
    (run : Run gateway.stagedBehaviour (quiet scene) events traffic)
    {number : Nat}
    {task : GatewayTask TaskStage}
    {serverName : Option String}
    {protocols : List String}
    (present : traffic.tasks[number]? = some task)
    (isHandshake : task.errand = .resolving serverName protocols)
    (refused : ∀ name claim, ¬ task.errand.Entitled gateway name claim) :
    task.guard = none := by
  induction run generalizing task with
  | nil => cases present
  | snoc run step inductionHypothesis =>
      cases step.change present with
      | begins event errand => rfl
      | moves there left moves =>
          have idle := not_acts_of_not_entitled run there left isHandshake refused moves
          exact (guardAfter_of_not_acts idle _ _).trans
            (inductionHypothesis there isHandshake refused)
      | panics there => rfl
      | stays there => exact inductionHypothesis there isHandshake refused

/-- A call that acts is made for the name of an entitled handshake. -/
theorem isFor_of_step
    (onlyHandshakes : OnlyHandshakes events)
    (run : Run gateway.stagedBehaviour (quiet scene) events traffic)
    {later : Traffic TaskStage}
    {number : Nat}
    {call : GatewayCall}
    {answer : call.Answer}
    (step : Step gateway.stagedBehaviour traffic (.calls number call answer) later)
    (acts : call.Acts) :
    ∃ task handshake name claim,
      traffic.tasks[number]? = some task ∧
        .arrives handshake ∈ events ∧
        handshake.Entitled gateway name claim ∧
        call.IsFor gateway task.errand name claim ∧
        ∀ serverName protocols,
          task.errand = .resolving serverName protocols → handshake = task.errand := by
  obtain ⟨task, stage, next, there, left, moves, -, -, -⟩ := step.called
  have fits := GuardsFit.fits_of_run run there left
  have sanctioned := sanctioned_stage_of_run run there left
  have comes := sanctioned_errand_of_run onlyHandshakes run there
  obtain ⟨handshake, name, claim, found⟩ :=
    TaskStage.isFor_of_acts fits sanctioned comes moves acts
  exact ⟨task, handshake, name, claim, there, found⟩

/-- A step of a handshake that is not entitled leaves the store and the locks as
they are. -/
theorem untouched_of_not_entitled
    (run : Run gateway.stagedBehaviour (quiet scene) events traffic)
    {later : Traffic TaskStage}
    {event : TrafficEvent}
    (step : Step gateway.stagedBehaviour traffic event later)
    {number : Nat}
    {task : GatewayTask TaskStage}
    {serverName : Option String}
    {protocols : List String}
    (isActor : event.task? = some number)
    (present : traffic.tasks[number]? = some task)
    (isHandshake : task.errand = .resolving serverName protocols)
    (refused : ∀ name claim, ¬ task.errand.Entitled gateway name claim) :
    later.scene.records = traffic.scene.records ∧
      later.scene.locks = traffic.scene.locks ∧
      ∀ call answer, event = .calls number call answer → ¬ call.Acts := by
  cases event with
  | arrives errand => cases isActor
  | passes milliseconds => cases isActor
  | calls actor call answer =>
      cases isActor
      obtain ⟨acting, stage, next, there, left, moves, -, sceneIs, -⟩ := step.called
      cases present.symm.trans there
      have idle := not_acts_of_not_entitled run present left isHandshake refused moves
      obtain ⟨sameRecords, sameLocks⟩ := Scene.after_of_not_acts idle traffic.scene answer
      rw [sceneIs]
      refine ⟨sameRecords, sameLocks, fun other otherAnswer same => ?_⟩
      cases same
      exact idle
  | panics actor =>
      cases isActor
      obtain ⟨panicking, there, sceneIs, -⟩ := step.panicked
      cases present.symm.trans there
      rw [sceneIs, unguarded_of_not_entitled run present isHandshake refused]
      exact ⟨rfl, rfl, fun _ _ => nofun⟩

/-- As long as no entitled handshake comes, all tasks are handshakes: a renewal
would have been launched for an entitled one. -/
theorem handshake_of_nobody
    (onlyHandshakes : OnlyHandshakes events)
    (nobody :
      ∀ handshake name claim,
        .arrives handshake ∈ events → ¬ handshake.Entitled gateway name claim)
    (run : Run gateway.stagedBehaviour (quiet scene) events traffic)
    {number : Nat}
    {task : GatewayTask TaskStage}
    (present : traffic.tasks[number]? = some task) :
    ∃ serverName protocols,
      task.errand = .resolving serverName protocols ∧
        ∀ name claim, ¬ task.errand.Entitled gateway name claim := by
  have comes := sanctioned_errand_of_run onlyHandshakes run present
  cases isErrand : task.errand with
  | resolving serverName protocols =>
      rw [isErrand] at comes
      exact ⟨serverName, protocols, rfl, fun name claim => nobody _ name claim comes⟩
  | obtaining request =>
      rw [isErrand] at comes
      obtain ⟨handshake, name, claim, arrived, entitled, -⟩ := comes
      exact (nobody handshake name claim arrived entitled).elim
  | ensuringPrimary =>
      rw [isErrand] at comes
      exact comes.elim
  | sweeping interval withHandshakes =>
      rw [isErrand] at comes
      exact comes.elim

/-- As long as no entitled handshake comes, nothing is done. -/
theorem untouched_of_nobody
    (onlyHandshakes : OnlyHandshakes events)
    (nobody :
      ∀ handshake name claim,
        .arrives handshake ∈ events → ¬ handshake.Entitled gateway name claim)
    (run : Run gateway.stagedBehaviour (quiet scene) events traffic) :
    traffic.scene.records = scene.records ∧
      traffic.scene.locks = scene.locks ∧
      ∀ number call answer, .calls number call answer ∈ events → ¬ call.Acts := by
  induction run with
  | nil => exact ⟨rfl, rfl, fun _ _ _ member => nomatch member⟩
  | @snoc events traffic later event run step inductionHypothesis =>
      have nobodyBefore : ∀ handshake name claim,
          .arrives handshake ∈ events → ¬ handshake.Entitled gateway name claim :=
        fun handshake name claim arrived =>
          nobody handshake name claim (List.mem_append_left _ arrived)
      obtain ⟨records, locks, idle⟩ :=
        inductionHypothesis onlyHandshakes.of_append nobodyBefore
      have untouched :
          later.scene.records = traffic.scene.records ∧
            later.scene.locks = traffic.scene.locks ∧
            ∀ number call answer, event = .calls number call answer → ¬ call.Acts := by
        cases event with
        | arrives errand =>
            cases step
            exact ⟨rfl, rfl, fun _ _ _ => nofun⟩
        | passes milliseconds =>
            cases step
            exact ⟨rfl, rfl, fun _ _ _ => nofun⟩
        | calls actor call answer =>
            obtain ⟨task, -, -, there, -⟩ := step.called
            obtain ⟨serverName, protocols, isHandshake, refused⟩ :=
              handshake_of_nobody onlyHandshakes.of_append nobodyBefore run there
            obtain ⟨sameRecords, sameLocks, isIdle⟩ :=
              untouched_of_not_entitled run step rfl there isHandshake refused
            refine ⟨sameRecords, sameLocks, fun number other otherAnswer same => ?_⟩
            cases same
            exact isIdle call answer rfl
        | panics actor =>
            obtain ⟨task, there, -⟩ := step.panicked
            obtain ⟨serverName, protocols, isHandshake, refused⟩ :=
              handshake_of_nobody onlyHandshakes.of_append nobodyBefore run there
            obtain ⟨sameRecords, sameLocks, -⟩ :=
              untouched_of_not_entitled run step rfl there isHandshake refused
            exact ⟨sameRecords, sameLocks, fun _ _ _ => nofun⟩
      refine ⟨untouched.1.trans records, untouched.2.1.trans locks, ?_⟩
      intro number call answer member
      rcases List.mem_append.mp member with earlier | now
      · exact idle number call answer earlier
      · exact untouched.2.2 number call answer (List.mem_singleton.mp now).symm

end Staged

/-- No issuance without a confirmed claim, in all runs to which handshakes come,
with any server names and protocols, any store and any claims.  Whenever a task
asks an authority, writes, deletes, has a lock to do with, takes a token or
launches a renewal, it does so for the store key of the name that an entitled
handshake has asked for, which is the task itself if the task is a handshake; it
orders nothing else, from the general authority, and only the owner of the claim
pays.  A handshake that is not entitled, that is one that validates a name or
asks for a primary name, for one that nobody claims or for one whose claim is not
confirmed, leaves the store and the locks as they are in every step, also when
it panics, and makes none of these calls; and as long as no entitled handshake
comes, nothing of this happens at all. -/
theorem issuance_needs_entitlement
    {traffic later : Traffic (GatewayProgram TaskResult)}
    {event : TrafficEvent}
    (onlyHandshakes : OnlyHandshakes events)
    (run : Run gateway.behaviour (quiet scene) events traffic)
    (step : Step gateway.behaviour traffic event later) :
    (∀ number call answer,
      event = .calls number call answer →
      call.Acts →
      ∃ task handshake name claim,
        traffic.tasks[number]? = some task ∧
          .arrives handshake ∈ events ∧
          handshake.Entitled gateway name claim ∧
          call.IsFor gateway task.errand name claim ∧
          ∀ serverName protocols,
            task.errand = .resolving serverName protocols → handshake = task.errand) ∧
    (∀ number task serverName protocols,
      event.task? = some number →
      traffic.tasks[number]? = some task →
      task.errand = .resolving serverName protocols →
      (∀ name claim, ¬ task.errand.Entitled gateway name claim) →
      later.scene.records = traffic.scene.records ∧
        later.scene.locks = traffic.scene.locks ∧
        ∀ call answer, event = .calls number call answer → ¬ call.Acts) ∧
    ((∀ handshake name claim,
        .arrives handshake ∈ events → ¬ handshake.Entitled gateway name claim) →
      traffic.scene.records = scene.records ∧
        traffic.scene.locks = scene.locks ∧
        ∀ number call answer, .calls number call answer ∈ events → ¬ call.Acts) := by
  obtain ⟨staged, stagedRun, rfl⟩ := run_staged run
  obtain ⟨laterStaged, stagedStep, rfl⟩ := step_staged step
  refine ⟨?acts, ?idles, fun nobody => untouched_of_nobody onlyHandshakes nobody stagedRun⟩
  case acts =>
    rintro number call answer rfl acts
    obtain ⟨task, handshake, name, claim, there, found⟩ :=
      isFor_of_step onlyHandshakes stagedRun stagedStep acts
    refine ⟨task.map (TaskStage.program gateway), handshake, name, claim, ?_, found⟩
    simp only [programs, map, List.getElem?_map, there, Option.map_some]
  case idles =>
    intro number task serverName protocols isActor present isHandshake refused
    obtain ⟨original, there, rfl⟩ := getElem?_map present
    exact untouched_of_not_entitled stagedRun stagedStep isActor there isHandshake refused

/-- The first handshake for a custom domain, up to its claim to the lock. -/
def firstHandshake : List TrafficEvent :=
  [ .arrives (.resolving (some SmallGateway.blog) [])
  , .calls 0 (.findReady SmallGateway.blog) none
  , .calls 0 (.findRecord SmallGateway.blog) (.ok none) ]

/-- The first handshake for a custom domain claims the lock, and the theorem
applies. -/
theorem first_handshake_is_entitled :
    let errand : Errand := .resolving (some SmallGateway.blog) []
    let emptyScene := SmallGateway.scene Catalog.empty
    ∃ traffic later task name claim,
      Run SmallGateway.gateway.behaviour (quiet emptyScene) firstHandshake traffic ∧
        Step SmallGateway.gateway.behaviour traffic
          (.calls 0 (.claim SmallGateway.blog) (.owner 0)) later ∧
        traffic.tasks[0]? = some task ∧
        errand.Entitled SmallGateway.gateway name claim ∧
        (GatewayCall.claim SmallGateway.blog).IsFor SmallGateway.gateway task.errand name claim := by
  intro errand emptyScene
  have replayed :
      ((replay SmallGateway.gateway (quiet emptyScene) firstHandshake).bind fun traffic =>
        (replayEvent SmallGateway.gateway traffic
            (.calls 0 (.claim SmallGateway.blog) (.owner 0))).map fun _ => ()) =
        some () := by
    decide +kernel
  obtain ⟨traffic, accepted, claimed⟩ := Option.bind_eq_some_iff.mp replayed
  obtain ⟨later, acceptedClaim, -⟩ := Option.map_eq_some_iff.mp claimed
  have run := run_of_replay .nil accepted
  have step := step_of_replayEvent acceptedClaim
  have arrivals : ∀ arriving, .arrives arriving ∈ firstHandshake → arriving = errand := by
    intro arriving arrived
    simpa [firstHandshake] using arrived
  have onlyHandshakes : OnlyHandshakes firstHandshake :=
    fun arriving arrived => ⟨_, _, arrivals arriving arrived⟩
  obtain ⟨task, handshake, name, claim, present, arrived, entitled, isFor, -⟩ :=
    (issuance_needs_entitlement onlyHandshakes run step).1 0 _ _ rfl trivial
  cases arrivals handshake arrived
  exact ⟨traffic, later, task, name, claim, run, step, present, entitled, isFor⟩

end Traffic

end OnDemandTls
