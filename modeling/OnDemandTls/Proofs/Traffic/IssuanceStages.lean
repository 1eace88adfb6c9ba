import OnDemandTls.Gateway.Issuance

namespace OnDemandTls

/-!
# Stages of an issuance

The program that obtains a certificate as a machine with one stage for each of
its calls.  A stage says which call comes next and what the program has found
out by then; `IssuanceStage.Moves` says where every answer leads.  The machine
and the program agree call by call: `IssuanceStage.moves_of_program` and
`IssuanceStage.program_of_moves`.
-/

/-- An issuance that a request asks a gateway for. -/
structure IssuanceJob where
  client : Option AuthorityClient
  issuance : Issuance
  request : ObtainRequest

/-- Why a mock is made by an issuance. -/
inductive MockCause where
  | noClient
  /-- The only name is a wildcard that cannot be proved. -/
  | noName
  | refusal (reason : AuthorityError)
  /-- The certificate that was to be kept could not be stored with its mark. -/
  | markLost (error : StoreError)

/-- Where the program that obtains a certificate stands: before which call. -/
inductive IssuanceStage where
  | claiming
  | waiting (guardNumber : Nat)
  /-- The guard is gone; what is stored now is to be taken. -/
  | taking
  | payingRenewal (previous : CertificateResource)
  | renewing (previous : CertificateResource)
  | payingFailure
  | charging (user : String)
  | payingOrder
  | payingRequest
  | ordering
  | storing (issued : CertificateResource)
  /-- No certificate was issued; the time decides what takes its place. -/
  | judging (reason : AuthorityError)
  | marking (previous : CertificateResource) (second : Int)
  | datingMock (cause : MockCause)
  | storingMock (cause : MockCause) (mock : CertificateResource)
  | releasing (result : Except ObtainError CertificateResource)

/-- How far the program that obtains a certificate has come. -/
inductive IssuanceProgress where
  | on (stage : IssuanceStage)
  | ended (result : Except ObtainError CertificateResource)

namespace MockCause

def message : MockCause → String
  | noClient => Gateway.noClient
  | noName => Gateway.noWildcards
  | refusal reason => reason.message
  | markLost error => error.message

end MockCause

namespace Gateway

/-- The issuance that a request asks for; without names there is none. -/
def job?
    (gateway : Gateway)
    (request : ObtainRequest) :
    Option IssuanceJob :=
  (Issuance.ofRequest? (gateway.client? request.role) request).map fun issuance =>
    { client := gateway.client? request.role, issuance := issuance, request := request }

end Gateway

namespace IssuanceJob

/-- The store key of an issuance, which is also the name that it locks. -/
def key (job : IssuanceJob) : String :=
  job.issuance.key

/-- The certificate that is renewed, if an authority issued it. -/
def previous (job : IssuanceJob) : Option CertificateResource :=
  job.request.previous.filter (fun resource => resource.origin = .acme)

/-- The stage in which a fresh order begins. -/
def freshStage (job : IssuanceJob) : IssuanceStage :=
  match job.request.user with
  | none => .payingOrder
  | some user => .charging user

/-- The first stage of the owner of an issuance. -/
def firstStage (job : IssuanceJob) : IssuanceStage :=
  if job.client.isNone then
    .datingMock .noClient
  else if job.issuance.domains.isEmpty then
    .datingMock .noName
  else
    match job.previous with
    | some previous => .payingRenewal previous
    | none => job.freshStage

/-- What is done at some second about an issuance that was refused. -/
def verdict
    (job : IssuanceJob)
    (reason : AuthorityError)
    (second : Int) :
    IssuanceStage :=
  match job.previous.filter (fun resource => !resource.isExpired second) with
  | none => .datingMock (.refusal reason)
  | some previous => .marking previous second

/-- The end of an issuance by its owner. -/
def finish
    (job : IssuanceJob)
    (result : Except ObtainError CertificateResource) :
    GatewayProgram (Except ObtainError CertificateResource) :=
  .call (.release job.key) fun _ => .done result

/-- What follows the answer of an authority. -/
def conclude
    (job : IssuanceJob)
    (result : Except AuthorityError CertificateResource) :
    GatewayProgram (Except ObtainError CertificateResource) :=
  (Gateway.concludeIssuance job.issuance job.previous result).bind job.finish

/-- The call of an authority for a fresh certificate, and what follows. -/
def order (job : IssuanceJob) : GatewayProgram (Except ObtainError CertificateResource) :=
  .call (.order job.request.role job.issuance.domains) job.conclude

def payAndOrder (job : IssuanceJob) : GatewayProgram (Except ObtainError CertificateResource) :=
  .call (.spend .order) fun _ => .call (.spend .request) fun _ => job.order

def charge
    (job : IssuanceJob)
    (user : String) :
    GatewayProgram (Except ObtainError CertificateResource) :=
  .call (.askUser user) fun granted =>
    if granted then job.payAndOrder else job.finish (.error (.userBudgetSpent user))

def fresh (job : IssuanceJob) : GatewayProgram (Except ObtainError CertificateResource) :=
  match job.request.user with
  | none => job.payAndOrder
  | some user => job.charge user

def renew
    (job : IssuanceJob)
    (previous : CertificateResource) :
    GatewayProgram (Except ObtainError CertificateResource) :=
  .call (.renew job.request.role previous) fun
    | .ok renewed => job.conclude (.ok renewed)
    | .error _ => .call (.spend .failure) fun _ => job.fresh

def mock
    (job : IssuanceJob)
    (cause : MockCause) :
    GatewayProgram (Except ObtainError CertificateResource) :=
  (Gateway.persistMock job.key job.issuance.subject cause.message).bind job.finish

end IssuanceJob

namespace IssuanceStage

/-- What is left of the program at a stage. -/
def program
    (job : IssuanceJob) :
    IssuanceStage → GatewayProgram (Except ObtainError CertificateResource)
  | claiming =>
      .call (.claim job.key) fun
        | .busy guardNumber =>
            .call (.awaitRelease job.key guardNumber) fun _ => Gateway.takeStored job.key
        | .owner _ => (Gateway.issue job.client job.issuance job.request).bind job.finish
  | waiting guardNumber =>
      .call (.awaitRelease job.key guardNumber) fun _ => Gateway.takeStored job.key
  | taking => Gateway.takeStored job.key
  | payingRenewal previous => .call (.spend .request) fun _ => job.renew previous
  | renewing previous => job.renew previous
  | payingFailure => .call (.spend .failure) fun _ => job.fresh
  | charging user => job.charge user
  | payingOrder => job.payAndOrder
  | payingRequest => .call (.spend .request) fun _ => job.order
  | ordering => job.order
  | storing issued => job.conclude (.ok issued)
  | judging reason => job.conclude (.error reason)
  | marking previous second =>
      .call (.putRecord job.key (previous.stamped second)) fun
        | .ok () => job.finish (.ok (previous.stamped second))
        | .error error => job.mock (.markLost error)
  | datingMock cause => job.mock cause
  | storingMock _ mock => .call (.putRecord job.key mock) fun _ => job.finish (.ok mock)
  | releasing result => job.finish result

end IssuanceStage

namespace IssuanceProgress

/-- What is left of the program. -/
def program
    (job : IssuanceJob) :
    IssuanceProgress → GatewayProgram (Except ObtainError CertificateResource)
  | on stage => stage.program job
  | ended result => .done result

end IssuanceProgress

namespace IssuanceStage

/-- The calls of an issuance and where their answers lead. -/
inductive Moves (job : IssuanceJob) :
    IssuanceStage → (call : GatewayCall) → call.Answer → IssuanceProgress → Prop where
  | busy (guardNumber : Nat) :
      Moves job .claiming (.claim job.key) (.busy guardNumber) (.on (.waiting guardNumber))
  | owner (guardNumber : Nat) :
      Moves job .claiming (.claim job.key) (.owner guardNumber) (.on job.firstStage)
  | awaited (guardNumber : Nat) :
      Moves job (.waiting guardNumber) (.awaitRelease job.key guardNumber) () (.on .taking)
  | unreadable (error : StoreError) :
      Moves job .taking (.findRecord job.key) (.error error) (.ended (.error (.store error)))
  | missing :
      Moves job .taking (.findRecord job.key) (.ok none)
        (.ended (.error (.nothingLeftBehind job.key)))
  | taken (resource : CertificateResource) :
      Moves job .taking (.findRecord job.key) (.ok (some resource)) (.ended (.ok resource))
  | paidRenewal (previous : CertificateResource) :
      Moves job (.payingRenewal previous) (.spend .request) () (.on (.renewing previous))
  | renewed (previous issued : CertificateResource) :
      Moves job (.renewing previous) (.renew job.request.role previous) (.ok issued)
        (.on (.storing issued))
  | notRenewed (previous : CertificateResource) (reason : AuthorityError) :
      Moves job (.renewing previous) (.renew job.request.role previous) (.error reason)
        (.on .payingFailure)
  | paidFailure :
      Moves job .payingFailure (.spend .failure) () (.on job.freshStage)
  | granted (user : String) :
      Moves job (.charging user) (.askUser user) true (.on .payingOrder)
  | denied (user : String) :
      Moves job (.charging user) (.askUser user) false
        (.on (.releasing (.error (.userBudgetSpent user))))
  | paidOrder :
      Moves job .payingOrder (.spend .order) () (.on .payingRequest)
  | paidRequest :
      Moves job .payingRequest (.spend .request) () (.on .ordering)
  | ordered (issued : CertificateResource) :
      Moves job .ordering (.order job.request.role job.issuance.domains) (.ok issued)
        (.on (.storing issued))
  | refused (reason : AuthorityError) :
      Moves job .ordering (.order job.request.role job.issuance.domains) (.error reason)
        (.on (.judging reason))
  | stored (issued : CertificateResource) :
      Moves job (.storing issued) (.putRecord job.key issued) (.ok ()) (.on (.releasing (.ok issued)))
  | notStored (issued : CertificateResource) (error : StoreError) :
      Moves job (.storing issued) (.putRecord job.key issued) (.error error)
        (.on (.releasing (.error (.store error))))
  | judged (reason : AuthorityError) (second : Int) :
      Moves job (.judging reason) .clock second (.on (job.verdict reason second))
  | marked (previous : CertificateResource) (second : Int) :
      Moves job (.marking previous second) (.putRecord job.key (previous.stamped second))
        (.ok ()) (.on (.releasing (.ok (previous.stamped second))))
  | notMarked (previous : CertificateResource) (second : Int) (error : StoreError) :
      Moves job (.marking previous second) (.putRecord job.key (previous.stamped second))
        (.error error) (.on (.datingMock (.markLost error)))
  | mockMade {cause : MockCause} {second : Int} {mock : CertificateResource} :
      Mock.make job.issuance.subject cause.message second = .ok mock →
      Moves job (.datingMock cause) .clock second (.on (.storingMock cause mock))
  | noMock {cause : MockCause} {second : Int} {error : MockError} :
      Mock.make job.issuance.subject cause.message second = .error error →
      Moves job (.datingMock cause) .clock second (.on (.releasing (.error (.mock error))))
  | mockStored (cause : MockCause) (mock : CertificateResource) (answer : Except StoreError Unit) :
      Moves job (.storingMock cause mock) (.putRecord job.key mock) answer
        (.on (.releasing (.ok mock)))
  | released (result : Except ObtainError CertificateResource) :
      Moves job (.releasing result) (.release job.key) () (.ended result)

end IssuanceStage

namespace IssuanceJob

theorem program_freshStage (job : IssuanceJob) :
    job.freshStage.program job = job.fresh := by
  unfold freshStage fresh
  cases job.request.user <;> rfl

/-- What an owner does after a renewal was tried. -/
def afterRenewal
    (job : IssuanceJob) :
    Option CertificateResource → GatewayProgram (Except ObtainError CertificateResource)
  | some renewed => Gateway.concludeIssuance job.issuance job.previous (.ok renewed)
  | none =>
      (Gateway.chargeUser job.request.user).bind fun
        | .error error => .done (.error error)
        | .ok () =>
            (Gateway.placeOrder job.request.role job.issuance.domains).bind
              (Gateway.concludeIssuance job.issuance job.previous)

theorem afterRenewal_none_bind (job : IssuanceJob) :
    (job.afterRenewal none).bind job.finish = job.fresh := by
  unfold afterRenewal fresh
  cases job.request.user with
  | none => rfl
  | some user =>
      refine congrArg (Program.call (I := gatewayCalls) (GatewayCall.askUser user))
        (funext fun granted => ?_)
      cases granted <;> rfl

theorem renewPrevious_bind
    (job : IssuanceJob)
    (previous : CertificateResource) :
    ((Gateway.renewPrevious job.request.role (some previous)).bind job.afterRenewal).bind
        job.finish =
      (IssuanceStage.payingRenewal previous).program job := by
  refine congrArg (Program.call (I := gatewayCalls) (GatewayCall.spend .request))
    (funext fun _ => ?_)
  refine congrArg (Program.call (I := gatewayCalls) (GatewayCall.renew job.request.role previous))
    (funext fun answer => ?_)
  cases answer with
  | ok renewed => rfl
  | error reason =>
      refine congrArg (Program.call (I := gatewayCalls) (GatewayCall.spend .failure))
        (funext fun _ => ?_)
      exact job.afterRenewal_none_bind

/-- The owner's program begins in the first stage. -/
theorem program_firstStage (job : IssuanceJob) :
    job.firstStage.program job =
      (Gateway.issue job.client job.issuance job.request).bind job.finish := by
  unfold Gateway.issue firstStage
  split
  · rfl
  · split
    · rfl
    · have tried :
          Gateway.issueThrough job.issuance job.request =
            (Gateway.renewPrevious job.request.role job.previous).bind job.afterRenewal := rfl
      rw [tried]
      cases job.previous with
      | none => rw [program_freshStage, ← afterRenewal_none_bind]; rfl
      | some previous => rw [renewPrevious_bind]

theorem mock_eq
    (job : IssuanceJob)
    (cause : MockCause) :
    job.mock cause =
      .call .clock fun second =>
        match Mock.make job.issuance.subject cause.message second with
        | .error error => job.finish (.error (.mock error))
        | .ok mock => .call (.putRecord job.key mock) fun _ => job.finish (.ok mock) := by
  refine congrArg (Program.call (I := gatewayCalls) GatewayCall.clock) (funext fun second => ?_)
  simp only [Program.bind]
  cases Mock.make job.issuance.subject cause.message second <;> rfl

/-- What a refusal leads to depends on the time. -/
theorem conclude_error
    (job : IssuanceJob)
    (reason : AuthorityError) :
    job.conclude (.error reason) =
      .call .clock fun second => (job.verdict reason second).program job := by
  refine congrArg (Program.call (I := gatewayCalls) GatewayCall.clock) (funext fun second => ?_)
  unfold verdict
  simp only [Program.bind]
  cases job.previous.filter (fun resource => !resource.isExpired second) with
  | none => rfl
  | some previous =>
      refine congrArg
        (Program.call (I := gatewayCalls)
          (GatewayCall.putRecord job.key (previous.stamped second)))
        (funext fun answer => ?_)
      cases answer <;> rfl

theorem conclude_ok
    (job : IssuanceJob)
    (issued : CertificateResource) :
    job.conclude (.ok issued) =
      .call (.putRecord job.key issued) fun
        | .ok () => job.finish (.ok issued)
        | .error error => job.finish (.error (.store error)) := by
  refine congrArg (Program.call (I := gatewayCalls) (GatewayCall.putRecord job.key issued))
    (funext fun answer => ?_)
  cases answer <;> rfl

end IssuanceJob

namespace IssuanceStage

/-- Every answer to the next call of the program is a move of the machine. -/
theorem moves_of_program
    {job : IssuanceJob}
    {stage : IssuanceStage}
    {call : GatewayCall}
    {next : call.Answer → GatewayProgram (Except ObtainError CertificateResource)}
    (upcoming : stage.program job = .call call next)
    (answer : call.Answer) :
    ∃ later, Moves job stage call answer later ∧ next answer = later.program job := by
  cases stage with
  | claiming =>
      cases upcoming
      cases answer with
      | owner guardNumber => exact ⟨_, .owner guardNumber, job.program_firstStage.symm⟩
      | busy guardNumber => exact ⟨_, .busy guardNumber, rfl⟩
  | waiting guardNumber =>
      cases upcoming
      exact ⟨_, .awaited guardNumber, rfl⟩
  | taking =>
      cases upcoming
      cases answer with
      | error error => exact ⟨_, .unreadable error, rfl⟩
      | ok found =>
          cases found with
          | none => exact ⟨_, .missing, rfl⟩
          | some resource => exact ⟨_, .taken resource, rfl⟩
  | payingRenewal previous =>
      cases upcoming
      exact ⟨_, .paidRenewal previous, rfl⟩
  | renewing previous =>
      cases upcoming
      cases answer with
      | ok issued => exact ⟨_, .renewed previous issued, rfl⟩
      | error reason => exact ⟨_, .notRenewed previous reason, rfl⟩
  | payingFailure =>
      cases upcoming
      exact ⟨_, .paidFailure, job.program_freshStage.symm⟩
  | charging user =>
      cases upcoming
      cases answer with
      | true => exact ⟨_, .granted user, rfl⟩
      | false => exact ⟨_, .denied user, rfl⟩
  | payingOrder =>
      cases upcoming
      exact ⟨_, .paidOrder, rfl⟩
  | payingRequest =>
      cases upcoming
      exact ⟨_, .paidRequest, rfl⟩
  | ordering =>
      cases upcoming
      cases answer with
      | ok issued => exact ⟨_, .ordered issued, rfl⟩
      | error reason => exact ⟨_, .refused reason, rfl⟩
  | storing issued =>
      rw [program, job.conclude_ok] at upcoming
      cases upcoming
      cases answer with
      | ok => exact ⟨_, .stored issued, rfl⟩
      | error error => exact ⟨_, .notStored issued error, rfl⟩
  | judging reason =>
      rw [program, job.conclude_error] at upcoming
      cases upcoming
      exact ⟨_, .judged reason answer, rfl⟩
  | marking previous second =>
      cases upcoming
      cases answer with
      | ok => exact ⟨_, .marked previous second, rfl⟩
      | error error => exact ⟨_, .notMarked previous second error, rfl⟩
  | datingMock cause =>
      rw [program, job.mock_eq] at upcoming
      cases upcoming
      cases made : Mock.make job.issuance.subject cause.message answer with
      | error error => exact ⟨_, .noMock made, by simp only [made]; rfl⟩
      | ok mock => exact ⟨_, .mockMade made, by simp only [made]; rfl⟩
  | storingMock cause mock =>
      cases upcoming
      exact ⟨_, .mockStored cause mock answer, rfl⟩
  | releasing result =>
      cases upcoming
      exact ⟨_, .released result, rfl⟩

/-- At every stage there is a call to make. -/
theorem program_eq_call
    (job : IssuanceJob)
    (stage : IssuanceStage) :
    ∃ call next, stage.program job = .call call next := by
  cases stage with
  | charging user => exact ⟨_, _, rfl⟩
  | storing issued => exact ⟨_, _, job.conclude_ok issued⟩
  | judging reason => exact ⟨_, _, job.conclude_error reason⟩
  | datingMock cause => exact ⟨_, _, job.mock_eq cause⟩
  | _ => exact ⟨_, _, rfl⟩

/-- Every move of the machine is an answer to the next call of the program. -/
theorem program_of_moves
    {job : IssuanceJob}
    {stage : IssuanceStage}
    {later : IssuanceProgress}
    {call : GatewayCall}
    {answer : call.Answer}
    (moves : Moves job stage call answer later) :
    ∃ next : call.Answer → GatewayProgram (Except ObtainError CertificateResource),
      stage.program job = .call call next ∧ later.program job = next answer := by
  cases moves with
  | owner guardNumber => exact ⟨_, rfl, job.program_firstStage⟩
  | paidFailure => exact ⟨_, rfl, job.program_freshStage⟩
  | stored issued => exact ⟨_, job.conclude_ok issued, rfl⟩
  | notStored issued error => exact ⟨_, job.conclude_ok issued, rfl⟩
  | judged reason second => exact ⟨_, job.conclude_error reason, rfl⟩
  | mockMade made => exact ⟨_, job.mock_eq _, by simp only [made]; rfl⟩
  | noMock made => exact ⟨_, job.mock_eq _, by simp only [made]; rfl⟩
  | _ => exact ⟨_, rfl, rfl⟩

end IssuanceStage

namespace Gateway

/-- Obtaining a certificate begins with a claim, unless no name is requested. -/
theorem obtain_eq
    (gateway : Gateway)
    (request : ObtainRequest) :
    gateway.obtain request =
      match gateway.job? request with
      | none => .done (.error .emptyRequest)
      | some job => IssuanceStage.claiming.program job := by
  unfold obtain job?
  simp only
  cases Issuance.ofRequest? (gateway.client? request.role) request with
  | none => rfl
  | some issuance =>
      refine congrArg (Program.call (I := gatewayCalls) (GatewayCall.claim issuance.key))
        (funext fun answer => ?_)
      cases answer <;> rfl

end Gateway

end OnDemandTls
