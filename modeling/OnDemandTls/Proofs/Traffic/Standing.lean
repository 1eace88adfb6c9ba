import OnDemandTls.Proofs.NormalForms
import OnDemandTls.Proofs.Traffic.TaskStages

namespace OnDemandTls

/-!
# Tasks and their issuances

A task runs at most one issuance.  It stands before it, within it or past it,
and only within it makes the calls that belong to an issuance
(`TaskStage.standing_moves`).  The issuance is the one that the errand of the
task requests (`TaskStage.Fits`).
-/

/-- Where a task stands with its issuance. -/
inductive Standing where
  | before
  | during (job : IssuanceJob) (stage : IssuanceStage)
  | past

namespace IssuanceProgress

/-- Where a step of an issuance leads its task. -/
def standing
    (job : IssuanceJob) :
    IssuanceProgress → Standing
  | on stage => .during job stage
  | ended _ => .past

end IssuanceProgress

namespace HandshakeStage

/-- Where a handshake stands with its issuance. -/
def standing
    (gateway : Gateway) :
    HandshakeStage → Standing
  | validating _ | seekingReady _ _ | seekingRecord _ _ => .before
  | obtaining target name stage => .during (gateway.clientJob target name) stage
  | _ => .past

end HandshakeStage

namespace TaskStage

/-- Where a task stands with its issuance. -/
def standing
    (gateway : Gateway) :
    TaskStage → Standing
  | handshake stage => stage.standing gateway
  | issuance job stage => .during job stage
  | seekingPrimary => .before
  | upkeep _ _ | finished _ => .past

end TaskStage

namespace GatewayCall

/-- The calls that only an issuance makes. -/
def Issues : GatewayCall → Prop
  | claim _ | awaitRelease _ _ | release _ => True
  | spend _ | askUser _ | renew _ _ | order _ _ => True
  | _ => False

theorem IsUpkeep.not_issues
    {call : GatewayCall}
    (upkeep : call.IsUpkeep) :
    ¬ call.Issues := by
  cases call <;> simp_all [IsUpkeep, Issues]

end GatewayCall

namespace Standing

/-- What a call of a task does to where the task stands. -/
inductive Moves :
    Standing → (call : GatewayCall) → call.Answer → Standing → Prop where
  | waits
      {call : GatewayCall}
      {answer : call.Answer} :
      ¬ call.Issues →
      Moves .before call answer .before
  | begins
      {call : GatewayCall}
      {answer : call.Answer}
      (job : IssuanceJob) :
      ¬ call.Issues →
      Moves .before call answer (.during job .claiming)
  | skips
      {call : GatewayCall}
      {answer : call.Answer} :
      ¬ call.Issues →
      Moves .before call answer .past
  | inside
      {job : IssuanceJob}
      {stage : IssuanceStage}
      {call : GatewayCall}
      {answer : call.Answer}
      {later : IssuanceProgress} :
      IssuanceStage.Moves job stage call answer later →
      Moves (.during job stage) call answer (later.standing job)
  | ends
      {call : GatewayCall}
      {answer : call.Answer} :
      ¬ call.Issues →
      Moves .past call answer .past

/-- A call that belongs to an issuance is made within one. -/
theorem Moves.inside_of_issues
    {standing later : Standing}
    {call : GatewayCall}
    {answer : call.Answer}
    (moves : Moves standing call answer later)
    (issues : call.Issues) :
    ∃ job stage progress,
      standing = .during job stage ∧
        IssuanceStage.Moves job stage call answer progress ∧
        later = progress.standing job := by
  cases moves with
  | inside inside => exact ⟨_, _, _, rfl, inside, rfl⟩
  | waits harmless | begins _ harmless | skips harmless | ends harmless =>
      exact (harmless issues).elim

end Standing

namespace HandshakeStage

@[simp] theorem standing_serve
    (gateway : Gateway)
    (target : ServingTarget)
    (name : String)
    (resource : CertificateResource) :
    (serve target name resource).standing gateway = .past := by
  unfold serve
  cases resource.certifiedKey <;> rfl

@[simp] theorem standing_found
    (gateway : Gateway)
    (target : ServingTarget)
    (name : String)
    (resource : CertificateResource) :
    (found target name resource).standing gateway = .past := by
  unfold found
  split
  · exact standing_serve gateway target name resource
  · rfl

@[simp] theorem standing_dated
    (gateway : Gateway)
    (target : ServingTarget)
    (name : String)
    (resource : CertificateResource)
    (second : Int) :
    (dated target name resource second).standing gateway = .past := by
  unfold dated
  cases Gateway.renewalRequest? target.key resource second with
  | none => exact standing_serve gateway target name resource
  | some request => rfl

@[simp] theorem standing_validated
    (gateway : Gateway)
    (name : String)
    (answer : Option String) :
    (validated name answer).standing gateway = .past := by
  unfold validated
  cases answer with
  | none => rfl
  | some keyAuthorization =>
      simp only
      cases ValidationCertificate.make? name keyAuthorization <;> rfl

@[simp] theorem standing_proceed
    (gateway : Gateway)
    (target : ServingTarget)
    (name : String)
    (progress : IssuanceProgress) :
    (proceed target name progress).standing gateway =
      progress.standing (gateway.clientJob target name) := by
  cases progress with
  | on stage => rfl
  | ended result =>
      cases result with
      | ok resource => exact standing_serve gateway target name resource
      | error reason => rfl

theorem standing_missing
    (gateway : Gateway)
    (target : ServingTarget)
    (name : String) :
    (missing target name).standing gateway = .past ∨
      (missing target name).standing gateway =
        .during (gateway.clientJob target name) .claiming := by
  unfold missing
  split
  · exact Or.inl rfl
  · split
    · exact Or.inr rfl
    · exact Or.inl rfl

/-- What a call of a handshake does to where it stands. -/
theorem standing_moves
    {gateway : Gateway}
    {stage later : HandshakeStage}
    {call : GatewayCall}
    {answer : call.Answer}
    (moves : Moves gateway stage call answer later) :
    Standing.Moves (stage.standing gateway) call answer (later.standing gateway) := by
  cases moves with
  | validated name answer =>
      rw [standing_validated]
      exact .skips id
  | ready target name certified => exact .skips id
  | notReady target name => exact .waits id
  | unreadable target name error => exact .skips id
  | found target name resource =>
      rw [standing_found]
      exact .skips id
  | missing target name =>
      rcases standing_missing gateway target name with isPast | isClaiming
      · rw [isPast]
        exact .skips id
      · rw [isClaiming]
        exact .begins _ id
  | dated target name resource second =>
      rw [standing_dated]
      exact .ends id
  | launched target name resource request number =>
      rw [standing_serve]
      exact .ends id
  | issuance inside =>
      rw [standing_proceed]
      exact .inside inside
  | fallback made => exact .ends id
  | noFallback made => exact .ends id
  | fallbackStored target name reason mock answer =>
      rw [standing_serve]
      exact .ends id
  | kept key certified => exact .ends id

end HandshakeStage

namespace TaskStage

@[simp] theorem standing_proceed
    (gateway : Gateway)
    (job : IssuanceJob)
    (progress : IssuanceProgress) :
    (proceed job progress).standing gateway = progress.standing job := by
  cases progress <;> rfl

theorem standing_requesting
    (gateway : Gateway)
    (request : ObtainRequest) :
    (requesting gateway request).standing gateway = .past ∨
      ∃ job, (requesting gateway request).standing gateway = .during job .claiming := by
  unfold requesting
  cases gateway.job? request with
  | none => exact Or.inl rfl
  | some job => exact Or.inr ⟨job, rfl⟩

/-- What a call of a task does to where the task stands with its issuance. -/
theorem standing_moves
    {gateway : Gateway}
    {stage later : TaskStage}
    {call : GatewayCall}
    {answer : call.Answer}
    (moves : Moves gateway stage call answer later) :
    Standing.Moves (stage.standing gateway) call answer (later.standing gateway) := by
  cases moves with
  | handshake inside => exact HandshakeStage.standing_moves inside
  | issuance inside =>
      rw [standing_proceed]
      exact .inside inside
  | primarySought answer =>
      match answer with
      | .error error => exact .skips id
      | .ok (some resource) => exact .skips id
      | .ok none =>
          change Standing.Moves .before _ _
            ((requesting gateway gateway.primaryRequest).standing gateway)
          rcases standing_requesting gateway gateway.primaryRequest with isPast | ⟨job, isClaiming⟩
          · rw [isPast]
            exact .skips id
          · rw [isClaiming]
            exact .begins job id
  | upkeep only answer => exact .ends only.allowed_next.not_issues

/-- No task begins amid its issuance. -/
theorem standing_opening
    (gateway : Gateway)
    (errand : Errand) :
    (opening gateway errand).standing gateway = .before ∨
      (opening gateway errand).standing gateway = .past ∨
      ∃ job, (opening gateway errand).standing gateway = .during job .claiming := by
  cases errand with
  | resolving serverName protocols =>
      simp only [opening, HandshakeStage.opening, standing]
      split
      · exact Or.inr (Or.inl rfl)
      · split
        · exact Or.inl rfl
        · exact Or.inl rfl
  | obtaining request => exact Or.inr (standing_requesting gateway request)
  | ensuringPrimary => exact Or.inl rfl
  | sweeping interval withHandshakes => exact Or.inr (Or.inl rfl)

end TaskStage

/-! ## The issuance of an errand -/

namespace HandshakeStage

/-- A target and a name are those of a handshake. -/
def IsSite
    (gateway : Gateway)
    (serverName : Option String)
    (target : ServingTarget)
    (name : String) :
    Prop :=
  (serverName.map HostName.asked).filter (· ≠ "") = some name ∧ target = gateway.classify name

/-- A stage belongs to a handshake for a server name; only for custom domains is
a certificate obtained. -/
def Fits
    (gateway : Gateway)
    (serverName : Option String) :
    HandshakeStage → Prop
  | seekingReady target name | seekingRecord target name =>
      IsSite gateway serverName target name
  | dating target name _ | launching target name _ _ => IsSite gateway serverName target name
  | obtaining target name _ | datingFallback target name _ | storingFallback target name _ _ =>
      IsSite gateway serverName target name ∧ target.primary = false
  | keeping key _ => ∃ target name, IsSite gateway serverName target name ∧ key = target.key
  | validating _ | finished _ => True

theorem fits_serve
    {gateway : Gateway}
    {serverName : Option String}
    {target : ServingTarget}
    {name : String}
    (site : IsSite gateway serverName target name)
    (resource : CertificateResource) :
    (serve target name resource).Fits gateway serverName := by
  unfold serve
  cases resource.certifiedKey with
  | error reason => trivial
  | ok certified => exact ⟨target, name, site, rfl⟩

theorem fits_opening
    (gateway : Gateway)
    (serverName : Option String)
    (protocols : List String) :
    (opening gateway serverName protocols).Fits gateway serverName := by
  unfold opening
  cases named : (serverName.map HostName.asked).filter (· ≠ "") with
  | none => trivial
  | some name =>
      simp only
      split
      · trivial
      · exact ⟨named, rfl⟩

/-- The stages of a handshake keep to its server name. -/
theorem fits_moves
    {gateway : Gateway}
    {serverName : Option String}
    {stage later : HandshakeStage}
    {call : GatewayCall}
    {answer : call.Answer}
    (fits : stage.Fits gateway serverName)
    (moves : Moves gateway stage call answer later) :
    later.Fits gateway serverName := by
  cases moves with
  | validated name answer =>
      unfold validated
      cases answer with
      | none => trivial
      | some keyAuthorization =>
          simp only
          cases ValidationCertificate.make? name keyAuthorization <;> trivial
  | ready target name certified => trivial
  | notReady target name => exact fits
  | unreadable target name error => trivial
  | found target name resource =>
      unfold found
      split
      · exact fits_serve fits resource
      · exact fits
  | missing target name =>
      unfold missing
      split
      · trivial
      · rename_i custom
        split
        · exact ⟨fits, Bool.eq_false_iff.mpr custom⟩
        · trivial
  | dated target name resource second =>
      unfold dated
      cases Gateway.renewalRequest? target.key resource second with
      | none => exact fits_serve fits resource
      | some request => exact fits
  | launched target name resource request number => exact fits_serve fits resource
  | @issuance target name stage call answer later inside =>
      match later with
      | .on stage => exact fits
      | .ended (.ok resource) => exact fits_serve fits.1 resource
      | .ended (.error reason) => exact fits
  | fallback made => exact fits
  | noFallback made => trivial
  | fallbackStored target name reason mock answer => exact fits_serve fits.1 mock
  | kept key certified => trivial

end HandshakeStage

namespace TaskStage

/-- A stage belongs to an errand, and so does the issuance in it. -/
def Fits
    (gateway : Gateway)
    (errand : Errand) :
    TaskStage → Prop
  | handshake stage =>
      ∃ serverName protocols,
        errand = .resolving serverName protocols ∧ stage.Fits gateway serverName
  | issuance job _ =>
      errand.request? gateway = some job.request ∧ gateway.job? job.request = some job
  | seekingPrimary => errand = .ensuringPrimary
  | upkeep _ _ | finished _ => True

theorem fits_requesting
    {gateway : Gateway}
    {errand : Errand}
    {request : ObtainRequest}
    (requests : errand.request? gateway = some request) :
    (requesting gateway request).Fits gateway errand := by
  unfold requesting
  cases found : gateway.job? request with
  | none => trivial
  | some job =>
      have same : job.request = request := by
        obtain ⟨issuance, -, rfl⟩ := Option.map_eq_some_iff.mp found
        rfl
      exact ⟨same ▸ requests, same ▸ found⟩

theorem fits_opening
    (gateway : Gateway)
    (errand : Errand) :
    (opening gateway errand).Fits gateway errand := by
  cases errand with
  | resolving serverName protocols =>
      exact ⟨serverName, protocols, rfl, HandshakeStage.fits_opening gateway serverName protocols⟩
  | obtaining request => exact fits_requesting rfl
  | ensuringPrimary => rfl
  | sweeping interval withHandshakes => trivial

/-- The stages of a task keep to its errand. -/
theorem fits_moves
    {gateway : Gateway}
    {errand : Errand}
    {stage later : TaskStage}
    {call : GatewayCall}
    {answer : call.Answer}
    (fits : stage.Fits gateway errand)
    (moves : Moves gateway stage call answer later) :
    later.Fits gateway errand := by
  cases moves with
  | handshake inside =>
      obtain ⟨serverName, protocols, isErrand, stageFits⟩ := fits
      exact ⟨serverName, protocols, isErrand, HandshakeStage.fits_moves stageFits inside⟩
  | @issuance job stage call answer later inside =>
      cases later with
      | on stage => exact fits
      | ended result => trivial
  | primarySought answer =>
      match answer with
      | .error error => trivial
      | .ok (some resource) => trivial
      | .ok none =>
          have requests : errand.request? gateway = some gateway.primaryRequest := by
            rw [show errand = .ensuringPrimary from fits]
            rfl
          exact fits_requesting requests
  | upkeep only answer => trivial

/-- The issuance in which a task stands is the one that its errand requests. -/
theorem request_of_standing
    {gateway : Gateway}
    {errand : Errand}
    {stage : TaskStage}
    {job : IssuanceJob}
    {inner : IssuanceStage}
    (fits : stage.Fits gateway errand)
    (stands : stage.standing gateway = .during job inner) :
    errand.request? gateway = some job.request ∧ gateway.job? job.request = some job := by
  cases stage with
  | handshake stage =>
      obtain ⟨serverName, protocols, rfl, stageFits⟩ := fits
      cases stage with
      | obtaining target name stage =>
          cases stands
          obtain ⟨⟨named, rfl⟩, -⟩ := stageFits
          refine ⟨?_, gateway.job?_client _ name⟩
          simp only [Errand.request?, named, Option.map_some]
          rfl
      | _ => cases stands
  | issuance job stage =>
      cases stands
      exact fits
  | _ => cases stands

/-- The name of the certificate that is issued is the one of the errand. -/
theorem certificateName?_of_standing
    {gateway : Gateway}
    {errand : Errand}
    {stage : TaskStage}
    {job : IssuanceJob}
    {inner : IssuanceStage}
    (fits : stage.Fits gateway errand)
    (stands : stage.standing gateway = .during job inner) :
    errand.certificateName? gateway = some job.key := by
  obtain ⟨requests, isJob⟩ := request_of_standing fits stands
  obtain ⟨issuance, isIssuance, same⟩ := Option.map_eq_some_iff.mp isJob
  unfold Errand.certificateName?
  rw [requests, Option.bind_some, isIssuance, ← same]
  rfl

end TaskStage

namespace Gateway

/-- The key of an issuance is a store key. -/
theorem storeKey_key
    {gateway : Gateway}
    {request : ObtainRequest}
    {job : IssuanceJob}
    (isJob : gateway.job? request = some job) :
    HostName.storeKey job.key = job.key := by
  obtain ⟨issuance, isIssuance, rfl⟩ := Option.map_eq_some_iff.mp isJob
  change HostName.storeKey issuance.key = issuance.key
  unfold Issuance.ofRequest? at isIssuance
  cases folded : request.domains.map HostName.fold with
  | nil =>
      rw [folded] at isIssuance
      cases isIssuance
  | cons first rest =>
      rw [folded] at isIssuance
      cases isIssuance
      exact HostName.storeKey_storeKey first

end Gateway

end OnDemandTls
