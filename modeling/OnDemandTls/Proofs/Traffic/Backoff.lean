import OnDemandTls.Proofs.Traffic.Clocks
import OnDemandTls.Proofs.Traffic.Entitlement
import OnDemandTls.Proofs.Traffic.FailedIssuance

namespace OnDemandTls

/-!
# How long a failed issuance is left alone

What is stored when an issuance fails has the second of the failure in it: in its
mark, if a certificate is kept, and in its expiry, if it is a mock.  What is known of
all that is renewed and of all that a failure then leaves is known of whatever is
stored that no authority gave (`Traffic.leaves_of_put`).  So where only handshakes come
it is due for renewal exactly six hours later: a mock gets there by its validity, which
is six hours more than the renewal window, and a certificate by its mark, since it was
within the window when its renewal was launched (`Traffic.dueAfter_of_put`).
-/

namespace CertificateResource

/-- The resource is due for renewal from some second on, and not before. -/
def DueFrom
    (resource : CertificateResource)
    (second : Int) :
    Prop :=
  ∀ now, resource.renewalDecision now = .due ↔ second ≤ now

/-- The resource is within its renewal window. -/
def IsClosing
    (resource : CertificateResource)
    (now : Int) :
    Prop :=
  resource.validTill ≤ now + renewalWindow

variable {resource : CertificateResource} {second now later : Int}

/-- A resource is due within its renewal window, once it is not marked any more. -/
theorem renewalDecision_eq_due_iff :
    resource.renewalDecision now = .due ↔
      resource.IsClosing now ∧ ∀ retryAfter, resource.retryAfter = some retryAfter → retryAfter ≤ now := by
  unfold renewalDecision IsClosing
  by_cases early : now + renewalWindow < resource.validTill
  · rw [if_pos early]
    simp only [reduceCtorEq, false_iff]
    exact fun closing => Int.not_lt.mpr closing.1 early
  · rw [if_neg early]
    cases resource.retryAfter with
    | none => simp [Int.not_lt.mp early]
    | some retryAfter =>
        by_cases waits : now < retryAfter
        · simp [waits]
        · simp [waits, Int.not_lt.mp early, Int.not_lt.mp waits]

theorem IsClosing.mono
    (closing : resource.IsClosing now)
    (since : now ≤ later) :
    resource.IsClosing later := by
  unfold IsClosing at closing ⊢
  omega

/-- A mark keeps what is within its renewal window from being due for six hours. -/
theorem dueFrom_stamped (closing : resource.IsClosing second) :
    (resource.stamped second).DueFrom (second + retryBackoff) := by
  intro now
  rw [renewalDecision_eq_due_iff]
  constructor
  · rintro ⟨-, passed⟩
    exact passed _ rfl
  · intro passed
    have since : second ≤ now := by
      simp only [retryBackoff] at passed
      omega
    refine ⟨closing.mono since, fun retryAfter marked => ?_⟩
    cases marked
    exact passed

/-- What the renewal of a stored certificate asks for. -/
def renewal
    (resource : CertificateResource)
    (key : String) :
    ObtainRequest where
  domains := [key]
  previous := some { resource with retryAfter := none }

end CertificateResource

/-- A renewal is asked for when a certificate is due. -/
theorem Gateway.renewalRequest?_eq_some_iff
    {key : String}
    {resource : CertificateResource}
    {now : Int}
    {request : ObtainRequest} :
    renewalRequest? key resource now = some request ↔
      resource.renewalDecision now = .due ∧ request = resource.renewal key := by
  unfold renewalRequest?
  cases resource.renewalDecision now <;> simp [CertificateResource.renewal, eq_comm]

/-- A mock comes into its renewal window after six hours. -/
theorem Mock.dueFrom_of_make
    {subject reason : String}
    {second : Int}
    {mock : CertificateResource}
    (made : Mock.make subject reason second = .ok mock) :
    mock.DueFrom (second + CertificateResource.retryBackoff) := by
  obtain ⟨-, unmarked, validTill⟩ := Mock.fields_of_make made
  intro now
  have window : second + Mock.validity ≤ now + CertificateResource.renewalWindow ↔
      second + CertificateResource.retryBackoff ≤ now := by
    simp only [Mock.validity, CertificateResource.renewalWindow, CertificateResource.retryBackoff]
    omega
  rw [CertificateResource.renewalDecision_eq_due_iff, CertificateResource.IsClosing, validTill,
    window, unmarked]
  exact and_iff_left nofun

/-! ## What is renewed, and what a failure leaves -/

section Properties

variable (renews leaves : CertificateResource → Int → Prop)

/-- What may be renewed from some second on, and what an issuance leaves that fails at
some second. -/
structure Cooldown : Prop where
  lasts :
    ∀ {resource : CertificateResource} {now later : Int},
      renews resource now → now ≤ later → renews resource later
  due :
    ∀ {resource : CertificateResource} {now : Int},
      resource.IsClosing now → renews { resource with retryAfter := none } now
  marks :
    ∀ {resource : CertificateResource} {second : Int},
      renews resource second →
      resource.origin = .acme →
      leaves (resource.stamped second) second
  mocks :
    ∀ {subject reason : String} {second : Int} {mock : CertificateResource},
      Mock.make subject reason second = .ok mock → leaves mock second

/-- The certificate that an errand is to renew may be renewed. -/
def Errand.Renews (now : Int) : Errand → Prop
  | obtaining request => ∀ previous, request.previous = some previous → renews previous now
  | _ => True

/-- A resource is what an issuance leaves that has failed at a second that was told. -/
def LeftWhen
    (told : Option Int)
    (resource : CertificateResource) :
    Prop :=
  ∃ second, told = some second ∧ leaves resource second

/-- What an issuance is about to store since it has failed is left at the second that
was told last. -/
def IssuanceStage.Paced (told : Option Int) : IssuanceStage → Prop
  | marking previous second => LeftWhen leaves told (previous.stamped second)
  | storingMock _ mock => LeftWhen leaves told mock
  | _ => True

/-- What a handshake is about to store since nothing was obtained is left at the second
that it was told last, and what it is about to have renewed may be renewed. -/
def HandshakeStage.Paced
    (now : Int)
    (told : Option Int) :
    HandshakeStage → Prop
  | launching _ _ _ request => (Errand.obtaining request).Renews renews now
  | obtaining _ _ stage => stage.Paced leaves told
  | storingFallback _ _ _ mock => LeftWhen leaves told mock
  | _ => True

/-- What a task is about to store since an issuance has failed is left at the second
that it was told last, and what a handshake is about to have renewed may be renewed. -/
def TaskStage.Paced
    (now : Int)
    (told : Option Int) :
    TaskStage → Prop
  | handshake stage => stage.Paced renews leaves now told
  | issuance _ stage => stage.Paced leaves told
  | _ => True

end Properties

section Moves

variable {renews leaves : CertificateResource → Int → Prop}
variable {gateway : Gateway} {errand : Errand} {now : Int} {told : Option Int}

namespace Errand

theorem Renews.mono
    {later : Int}
    (cooldown : Cooldown renews leaves)
    (allowed : errand.Renews renews now)
    (since : now ≤ later) :
    errand.Renews renews later := by
  cases errand with
  | obtaining request => exact fun previous same => cooldown.lasts (allowed previous same) since
  | _ => trivial

/-- What a request is to renew is what the errand is to renew. -/
theorem Renews.of_request
    {request : ObtainRequest}
    {previous : CertificateResource}
    (allowed : errand.Renews renews now)
    (requests : errand.request? gateway = some request)
    (isPrevious : request.previous = some previous) :
    renews previous now := by
  cases errand with
  | resolving serverName protocols =>
      obtain ⟨name, -, rfl⟩ := Option.map_eq_some_iff.mp requests
      cases isPrevious
  | obtaining asked =>
      cases requests
      exact allowed previous isPrevious
  | ensuringPrimary =>
      cases requests
      cases isPrevious
  | sweeping interval withHandshakes => cases requests

/-- A renewal is asked for only within the renewal window. -/
theorem renews_of_renewalRequest?
    {key : String}
    {resource : CertificateResource}
    {request : ObtainRequest}
    (cooldown : Cooldown renews leaves)
    (launch : Gateway.renewalRequest? key resource now = some request) :
    (obtaining request).Renews renews now := by
  obtain ⟨isDue, rfl⟩ := Gateway.renewalRequest?_eq_some_iff.mp launch
  obtain ⟨closing, -⟩ := CertificateResource.renewalDecision_eq_due_iff.mp isDue
  intro previous isPrevious
  cases isPrevious
  exact cooldown.due closing

end Errand

namespace IssuanceStage

theorem paced_freshStage
    (job : IssuanceJob)
    (told : Option Int) :
    job.freshStage.Paced leaves told := by
  unfold IssuanceJob.freshStage
  cases job.request.user <;> trivial

theorem paced_firstStage
    (job : IssuanceJob)
    (told : Option Int) :
    job.firstStage.Paced leaves told := by
  unfold IssuanceJob.firstStage
  split
  · trivial
  · split
    · trivial
    · cases job.previous with
      | none => exact paced_freshStage job told
      | some previous => trivial

/-- When an issuance comes to store something since it has failed, it has just
asked for the time. -/
theorem paced_moves
    {scene : Scene}
    {job : IssuanceJob}
    {stage later : IssuanceStage}
    {call : GatewayCall}
    {answer : call.Answer}
    (cooldown : Cooldown renews leaves)
    (allowed : ∀ previous, job.previous = some previous → renews previous scene.second)
    (admitted : scene.Admits call answer)
    (moves : Moves job stage call answer (.on later))
    (number : Nat)
    (told : Option Int) :
    later.Paced leaves (((TrafficEvent.calls number call answer).told? number).or told) := by
  cases moves with
  | owner guardNumber => exact paced_firstStage job _
  | paidFailure => exact paced_freshStage job _
  | judged reason second =>
      obtain rfl : second = scene.second := admitted
      unfold IssuanceJob.verdict
      cases kept : job.previous.filter (fun resource => !resource.isExpired scene.second) with
      | none => trivial
      | some previous =>
          have isPrevious := (Option.filter_eq_some_iff.mp kept).1
          have isIssued := of_decide_eq_true (Option.filter_eq_some_iff.mp isPrevious).2
          refine ⟨scene.second, by rw [TrafficEvent.told?, if_pos rfl]; rfl, ?_⟩
          exact cooldown.marks (allowed previous isPrevious) isIssued
  | @mockMade cause second mock made =>
      exact ⟨second, by rw [TrafficEvent.told?, if_pos rfl]; rfl, cooldown.mocks made⟩
  | _ => trivial

end IssuanceStage

namespace HandshakeStage

variable {stage later : HandshakeStage}

theorem Paced.mono
    {after : Int}
    (cooldown : Cooldown renews leaves)
    (paced : stage.Paced renews leaves now told)
    (since : now ≤ after) :
    stage.Paced renews leaves after told := by
  cases stage with
  | launching target name resource request =>
      have allowed : (Errand.obtaining request).Renews renews now := paced
      exact allowed.mono cooldown since
  | _ => exact paced

theorem paced_serve
    (target : ServingTarget)
    (name : String)
    (resource : CertificateResource) :
    (serve target name resource).Paced renews leaves now told := by
  unfold serve
  cases resource.certifiedKey <;> trivial

/-- When a handshake comes to launch a renewal or to store a mock, it has just
asked for the time. -/
theorem paced_moves
    {scene : Scene}
    {call : GatewayCall}
    {answer : call.Answer}
    (cooldown : Cooldown renews leaves)
    (admitted : scene.Admits call answer)
    (moves : Moves gateway stage call answer later)
    (number : Nat)
    (told : Option Int) :
    later.Paced renews leaves scene.second
      (((TrafficEvent.calls number call answer).told? number).or told) := by
  cases moves with
  | validated name answer =>
      unfold validated
      cases answer with
      | none => trivial
      | some keyAuthorization =>
          simp only
          cases ValidationCertificate.make? name keyAuthorization <;> trivial
  | found target name resource =>
      unfold found
      split
      · exact paced_serve target name resource
      · trivial
  | missing target name =>
      unfold missing
      split
      · trivial
      · split <;> trivial
  | dated target name resource second =>
      obtain rfl : second = scene.second := admitted
      unfold dated
      cases due : Gateway.renewalRequest? target.key resource scene.second with
      | none => exact paced_serve target name resource
      | some request => exact Errand.renews_of_renewalRequest? cooldown due
  | launched target name resource request launchedNumber => exact paced_serve target name resource
  | @issuance target name stage call answer progress inside =>
      have noPrevious : ∀ previous,
          (gateway.clientJob target name).previous = some previous →
          renews previous scene.second := by
        intro previous kept
        cases kept
      match progress with
      | .on later => exact IssuanceStage.paced_moves cooldown noPrevious admitted inside number told
      | .ended (.ok resource) => exact paced_serve target name resource
      | .ended (.error reason) => trivial
  | @fallback target name reason second mock made =>
      exact ⟨second, by rw [TrafficEvent.told?, if_pos rfl]; rfl, cooldown.mocks made⟩
  | fallbackStored target name reason mock answer => exact paced_serve target name mock
  | _ => trivial

end HandshakeStage

namespace TaskStage

variable {stage later : TaskStage}

theorem Paced.mono
    {after : Int}
    (cooldown : Cooldown renews leaves)
    (paced : stage.Paced renews leaves now told)
    (since : now ≤ after) :
    stage.Paced renews leaves after told := by
  cases stage with
  | handshake stage => exact HandshakeStage.Paced.mono cooldown paced since
  | _ => exact paced

theorem paced_requesting (request : ObtainRequest) :
    (requesting gateway request).Paced renews leaves now told := by
  unfold requesting
  cases gateway.job? request <;> trivial

theorem paced_opening (errand : Errand) :
    (opening gateway errand).Paced renews leaves now told := by
  cases errand with
  | resolving serverName protocols =>
      simp only [opening, Paced, HandshakeStage.opening]
      split
      · trivial
      · split <;> trivial
  | obtaining request => exact paced_requesting request
  | ensuringPrimary => trivial
  | sweeping interval withHandshakes => trivial

theorem paced_moves
    {scene : Scene}
    {call : GatewayCall}
    {answer : call.Answer}
    (cooldown : Cooldown renews leaves)
    (fits : stage.Fits gateway errand)
    (allowed : errand.Renews renews scene.second)
    (admitted : scene.Admits call answer)
    (moves : Moves gateway stage call answer later)
    (number : Nat)
    (told : Option Int) :
    later.Paced renews leaves scene.second
      (((TrafficEvent.calls number call answer).told? number).or told) := by
  cases moves with
  | handshake inside => exact HandshakeStage.paced_moves cooldown admitted inside number told
  | @issuance job stage call answer progress inside =>
      cases progress with
      | on later =>
          refine IssuanceStage.paced_moves cooldown (fun previous kept => ?_) admitted inside number
            told
          exact allowed.of_request fits.1 (Option.filter_eq_some_iff.mp kept).1
      | ended result => trivial
  | primarySought answer =>
      match answer with
      | .error error => trivial
      | .ok (some resource) => trivial
      | .ok none => exact paced_requesting gateway.primaryRequest
  | upkeep only answer => trivial

theorem paced_of_standing
    {job : IssuanceJob}
    {inner : IssuanceStage}
    (paced : stage.Paced renews leaves now told)
    (stands : stage.standing gateway = .during job inner) :
    inner.Paced leaves told := by
  cases stage with
  | handshake stage =>
      cases stage with
      | obtaining target name stage =>
          cases stands
          exact paced
      | _ => cases stands
  | issuance job stage =>
      cases stands
      exact paced
  | _ => cases stands

end TaskStage

end Moves

/-! ## Runs -/

namespace Traffic

variable {renews leaves : CertificateResource → Int → Prop}
variable {gateway : Gateway} {scene : Scene} {events : List TrafficEvent}

/-- What comes from outside has nothing renewed that may not be renewed, and sends
cycles of maintenance on their way only if what they have renewed may be renewed. -/
structure RenewsOnly
    (renews : CertificateResource → Int → Prop)
    (events : List TrafficEvent) :
    Prop where
  handedIn :
    ∀ {request : ObtainRequest} {previous : CertificateResource} (now : Int),
      .arrives (.obtaining request) ∈ events →
      request.previous = some previous →
      renews previous now
  swept :
    ∀ {interval : Nat} {withHandshakes : Bool} {record : CertificateResource} {now : Int},
      .arrives (.sweeping interval withHandshakes) ∈ events →
      record.IsPrimaryClosing now →
      renews record now

theorem RenewsOnly.of_append
    {more : List TrafficEvent}
    (only : RenewsOnly renews (events ++ more)) :
    RenewsOnly renews events where
  handedIn := fun now arrived => only.handedIn now (List.mem_append_left more arrived)
  swept := fun arrived => only.swept (List.mem_append_left more arrived)

/-- Everything that is about to be renewed may be renewed, and everything that is about
to be stored since an issuance has failed is left at the second that its task was told
last. -/
structure Paced
    (renews leaves : CertificateResource → Int → Prop)
    (events : List TrafficEvent)
    (traffic : Traffic TaskStage) :
    Prop where
  errands :
    ∀ {number : Nat} {task : GatewayTask TaskStage},
      traffic.tasks[number]? = some task → task.errand.Renews renews traffic.scene.second
  stages :
    ∀ {number : Nat} {task : GatewayTask TaskStage} {stage : TaskStage},
      traffic.tasks[number]? = some task →
      task.rest = some stage →
      stage.Paced renews leaves traffic.scene.second (lastTold? events number)

namespace Paced

variable {traffic later : Traffic TaskStage} {event : TrafficEvent}

/-- What begins has come from outside, or a handshake or a cycle of maintenance has
launched it. -/
theorem of_begun
    {errand : Errand}
    (only : RenewsOnly renews (events ++ [event]))
    (run : Run gateway.stagedBehaviour (quiet scene) events traffic)
    (paced : Paced renews leaves events traffic)
    (step : Step gateway.stagedBehaviour traffic event later)
    (begun : errand ∈ event.begun) :
    errand.Renews renews traffic.scene.second := by
  rcases TrafficEvent.begun_cases begun with rfl | ⟨launcher, request, answer, rfl, rfl⟩
  · have arrived := List.mem_append_right events (List.mem_singleton_self (.arrives errand))
    cases errand with
    | obtaining request => exact fun previous same => only.handedIn _ arrived same
    | _ => trivial
  · obtain ⟨acting, stage, next, there, left, moves, -⟩ := step.called
    have pacedStage := paced.stages there left
    cases moves with
    | handshake inside =>
        cases inside with
        | launched => exact pacedStage
        | issuance inside => cases inside
    | issuance inside => cases inside
    | upkeep cycle =>
        obtain ⟨interval, withHandshakes, sweep, isSweep, upcoming, dated⟩ :=
          dated_of_run run there left
        obtain ⟨after, inside, -⟩ := SweepStage.moves_of_program upcoming.symm answer
        cases inside with
        | launched =>
            obtain ⟨record, closing, rfl⟩ := dated
            intro previous isPrevious
            cases isPrevious
            exact only.of_append.swept (run.arrives_of_sweeping there isSweep) closing

theorem errands_step
    (cooldown : Cooldown renews leaves)
    (only : RenewsOnly renews (events ++ [event]))
    (run : Run gateway.stagedBehaviour (quiet scene) events traffic)
    (paced : Paced renews leaves events traffic)
    (step : Step gateway.stagedBehaviour traffic event later)
    {number : Nat}
    {task : GatewayTask TaskStage}
    (present : later.tasks[number]? = some task) :
    task.errand.Renews renews later.scene.second := by
  refine Errand.Renews.mono cooldown ?_ step.second_le
  rcases step.errand_cases present with begins | ⟨before, there, sameErrand⟩
  · exact paced.of_begun only run step begins
  · rw [← sameErrand]
    exact paced.errands there

theorem stages_step
    (cooldown : Cooldown renews leaves)
    (run : Run gateway.stagedBehaviour (quiet scene) events traffic)
    (paced : Paced renews leaves events traffic)
    (step : Step gateway.stagedBehaviour traffic event later)
    {number : Nat}
    {task : GatewayTask TaskStage}
    {stage : TaskStage}
    (present : later.tasks[number]? = some task)
    (left : task.rest = some stage) :
    stage.Paced renews leaves later.scene.second (lastTold? (events ++ [event]) number) := by
  refine TaskStage.Paced.mono cooldown ?_ step.second_le
  rw [lastTold?_snoc]
  cases step.change present with
  | begins event errand =>
      cases left
      exact TaskStage.paced_opening errand
  | moves there leftBefore moves admitted =>
      cases left
      have fits := GuardsFit.fits_of_run run there leftBefore
      exact TaskStage.paced_moves cooldown fits (paced.errands there) admitted moves number _
  | panics there => cases left
  | stays there idle =>
      rw [TrafficEvent.told?_of_idle idle, Option.none_or]
      exact paced.stages there left

theorem of_run
    (cooldown : Cooldown renews leaves)
    (only : RenewsOnly renews events)
    (run : Run gateway.stagedBehaviour (quiet scene) events traffic) :
    Paced renews leaves events traffic := by
  induction run with
  | nil => exact ⟨(fun present => nomatch present), (fun present => nomatch present)⟩
  | snoc run step inductionHypothesis =>
      have paced := inductionHypothesis only.of_append
      exact ⟨paced.errands_step cooldown only run step, paced.stages_step cooldown run step⟩

end Paced

/-- What is stored though no authority gave it is what an issuance leaves that fails at
the second that its task was told last. -/
theorem leaves_of_put
    {traffic later : Traffic TaskStage}
    {number : Nat}
    {name : String}
    {record : CertificateResource}
    {answer : Except StoreError Unit}
    (cooldown : Cooldown renews leaves)
    (only : RenewsOnly renews events)
    (run : Run gateway.stagedBehaviour (quiet scene) events traffic)
    (step : Step gateway.stagedBehaviour traffic (.calls number (.putRecord name record) answer) later)
    (unissued : ¬ IssuedTo events number record) :
    LeftWhen leaves (lastTold? events number) record := by
  obtain ⟨task, stage, next, there, left, moves, -⟩ := step.called
  have paced := (Paced.of_run cooldown only run).stages there left
  have told := told_of_run run there left
  rcases TaskStage.put_cases moves with ⟨job, inner, progress, stands, inside, -⟩ |
    ⟨target, asked, reason, rfl, -⟩
  · have toldInside := TaskStage.told_of_standing told stands
    have pacedInside := TaskStage.paced_of_standing paced stands
    obtain ⟨-, rfl | ⟨previous, second, rfl, rfl⟩ | ⟨cause, rfl⟩⟩ := IssuanceStage.put_cases inside
    · exact (unissued toldInside).elim
    · exact pacedInside
    · exact pacedInside
  · exact paced

/-! ## Runs of handshakes -/

/-- Within the renewal window, a failure leaves what is due six hours later. -/
theorem cooldown_closing :
    Cooldown CertificateResource.IsClosing fun resource second =>
      resource.DueFrom (second + CertificateResource.retryBackoff) where
  lasts := CertificateResource.IsClosing.mono
  due := id
  marks := fun closing _ => CertificateResource.dueFrom_stamped closing
  mocks := Mock.dueFrom_of_make

theorem OnlyHandshakes.renewsOnly
    (onlyHandshakes : OnlyHandshakes events) :
    RenewsOnly renews events where
  handedIn := fun _ arrived => by
    obtain ⟨serverName, protocols, other⟩ := onlyHandshakes _ arrived
    cases other
  swept := fun arrived => by
    obtain ⟨serverName, protocols, other⟩ := onlyHandshakes _ arrived
    cases other

/-- What is stored though no authority gave it is due six hours after the second
that its task was told last, if only handshakes come. -/
theorem dueAfter_of_put
    {traffic later : Traffic TaskStage}
    {number : Nat}
    {name : String}
    {record : CertificateResource}
    {answer : Except StoreError Unit}
    (onlyHandshakes : OnlyHandshakes events)
    (run : Run gateway.stagedBehaviour (quiet scene) events traffic)
    (step : Step gateway.stagedBehaviour traffic (.calls number (.putRecord name record) answer) later)
    (unissued : ¬ IssuedTo events number record) :
    ∃ second,
      lastTold? events number = some second ∧
        record.DueFrom (second + CertificateResource.retryBackoff) :=
  leaves_of_put cooldown_closing onlyHandshakes.renewsOnly run step unissued

end Traffic

end OnDemandTls
