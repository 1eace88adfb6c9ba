import OnDemandTls.Proofs.Traffic.Persistence

namespace OnDemandTls

/-!
# What the events tell about a stage

A task is where it is because of the answers that it has had.  The events of a
run bear out what its stage holds: a certificate that is about to be stored was
issued to the task, a certificate that is about to be marked is the one that the
request is to renew, and a mock has its cause (`Traffic.told_of_run`).
-/

namespace Traffic

/-- An authority gave a certificate to a task. -/
def IssuedTo
    (events : List TrafficEvent)
    (number : Nat)
    (resource : CertificateResource) :
    Prop :=
  (∃ role previous, .calls number (.renew role previous) (.ok resource) ∈ events) ∨
    ∃ role domains, .calls number (.order role domains) (.ok resource) ∈ events

theorem IssuedTo.append
    {events : List TrafficEvent}
    {number : Nat}
    {resource : CertificateResource}
    (issued : IssuedTo events number resource)
    (more : List TrafficEvent) :
    IssuedTo (events ++ more) number resource := by
  rcases issued with ⟨role, previous, member⟩ | ⟨role, domains, member⟩
  · exact Or.inl ⟨role, previous, List.mem_append_left more member⟩
  · exact Or.inr ⟨role, domains, List.mem_append_left more member⟩

end Traffic

open Traffic

namespace MockCause

/-- The events bear out why a mock is made. -/
def Told
    (events : List TrafficEvent)
    (number : Nat)
    (job : IssuanceJob) :
    MockCause → Prop
  | noClient => job.client = none
  | noName => job.issuance.domains = []
  | refusal _ =>
      ∀ previous,
        job.previous = some previous →
        ∃ second, .calls number .clock second ∈ events ∧ previous.isExpired second = true
  | markLost error =>
      ∃ previous second,
        job.previous = some previous ∧
          .calls number (.putRecord job.key (previous.stamped second)) (.error error) ∈ events

theorem Told.append
    {events : List TrafficEvent}
    {number : Nat}
    {job : IssuanceJob}
    {cause : MockCause}
    (told : cause.Told events number job)
    (more : List TrafficEvent) :
    cause.Told (events ++ more) number job := by
  cases cause with
  | noClient => exact told
  | noName => exact told
  | refusal reason =>
      intro previous isPrevious
      obtain ⟨second, member, expired⟩ := told previous isPrevious
      exact ⟨second, List.mem_append_left more member, expired⟩
  | markLost error =>
      obtain ⟨previous, second, isPrevious, member⟩ := told
      exact ⟨previous, second, isPrevious, List.mem_append_left more member⟩

end MockCause

namespace IssuanceStage

/-- The events bear out what a stage of an issuance holds. -/
def Told
    (events : List TrafficEvent)
    (number : Nat)
    (job : IssuanceJob) :
    IssuanceStage → Prop
  | storing issued => IssuedTo events number issued
  | marking previous _ => job.previous = some previous
  | datingMock cause => cause.Told events number job
  | storingMock cause mock => cause.Told events number job ∧ mock.origin = .mock
  | _ => True

theorem Told.append
    {events : List TrafficEvent}
    {number : Nat}
    {job : IssuanceJob}
    {stage : IssuanceStage}
    (told : stage.Told events number job)
    (more : List TrafficEvent) :
    stage.Told (events ++ more) number job := by
  cases stage with
  | storing issued => exact IssuedTo.append told more
  | datingMock cause => exact MockCause.Told.append told more
  | storingMock cause mock => exact ⟨told.1.append more, told.2⟩
  | _ => exact told

end IssuanceStage

namespace Mock

/-- What every mock is made with. -/
theorem fields_of_make
    {subject message : String}
    {second : Int}
    {mock : CertificateResource}
    (made : Mock.make subject message second = .ok mock) :
    mock.origin = .mock ∧ mock.retryAfter = none ∧ mock.validTill = second + validity := by
  unfold Mock.make at made
  cases named : SubjectName.ofText? subject with
  | none =>
      rw [named] at made
      cases made
  | some name =>
      rw [named] at made
      cases made
      exact ⟨rfl, rfl, rfl⟩

theorem origin_of_make
    {subject message : String}
    {second : Int}
    {mock : CertificateResource}
    (made : Mock.make subject message second = .ok mock) :
    mock.origin = .mock :=
  (fields_of_make made).1

theorem validTill_of_make
    {subject message : String}
    {second : Int}
    {mock : CertificateResource}
    (made : Mock.make subject message second = .ok mock) :
    mock.validTill = second + validity :=
  (fields_of_make made).2.2

end Mock

namespace IssuanceJob

theorem told_freshStage
    (job : IssuanceJob)
    (events : List TrafficEvent)
    (number : Nat) :
    job.freshStage.Told events number job := by
  unfold freshStage
  cases job.request.user <;> trivial

theorem told_firstStage
    (job : IssuanceJob)
    (events : List TrafficEvent)
    (number : Nat) :
    job.firstStage.Told events number job := by
  unfold firstStage
  split
  · rename_i absent
    exact Option.isNone_iff_eq_none.mp absent
  · split
    · rename_i nameless
      exact List.isEmpty_iff.mp nameless
    · cases job.previous with
      | none => exact job.told_freshStage events number
      | some previous => trivial

theorem told_verdict
    {job : IssuanceJob}
    {events : List TrafficEvent}
    {number : Nat}
    {second : Int}
    (asked : .calls number .clock second ∈ events)
    (reason : AuthorityError) :
    (job.verdict reason second).Told events number job := by
  unfold verdict
  cases kept : job.previous.filter (fun resource => !resource.isExpired second) with
  | none =>
      intro previous isPrevious
      refine ⟨second, asked, ?_⟩
      rw [isPrevious] at kept
      simpa [Option.filter] using kept
  | some previous => exact (Option.filter_eq_some_iff.mp kept).1

end IssuanceJob

namespace IssuanceProgress

/-- The events bear out where an issuance has come. -/
def Told
    (events : List TrafficEvent)
    (number : Nat)
    (job : IssuanceJob) :
    IssuanceProgress → Prop
  | on stage => stage.Told events number job
  | ended _ => True

end IssuanceProgress

namespace IssuanceStage

/-- Every call of an issuance is told with the next stage. -/
theorem told_moves
    {events : List TrafficEvent}
    {number : Nat}
    {job : IssuanceJob}
    {stage : IssuanceStage}
    {call : GatewayCall}
    {answer : call.Answer}
    {later : IssuanceProgress}
    (told : stage.Told events number job)
    (moves : Moves job stage call answer later) :
    later.Told (events ++ [.calls number call answer]) number job := by
  have now : .calls number call answer ∈ events ++ [TrafficEvent.calls number call answer] :=
    List.mem_append_right _ (List.mem_singleton_self _)
  cases moves with
  | owner guardNumber => exact job.told_firstStage _ number
  | paidFailure => exact job.told_freshStage _ number
  | renewed previous issued => exact Or.inl ⟨_, _, now⟩
  | ordered issued => exact Or.inr ⟨_, _, now⟩
  | judged reason second => exact IssuanceJob.told_verdict now reason
  | notMarked previous second error => exact ⟨previous, second, told, now⟩
  | mockMade made => exact ⟨MockCause.Told.append told _, Mock.origin_of_make made⟩
  | _ => trivial

end IssuanceStage

namespace HandshakeStage

/-- The events bear out what a stage of a handshake holds. -/
def Told
    (gateway : Gateway)
    (events : List TrafficEvent)
    (number : Nat) :
    HandshakeStage → Prop
  | obtaining target name stage =>
      .calls number (.findRecord target.key) (.ok none) ∈ events ∧
        stage.Told events number (gateway.clientJob target name)
  | datingFallback target _ _ => .calls number (.findRecord target.key) (.ok none) ∈ events
  | storingFallback target _ _ mock =>
      .calls number (.findRecord target.key) (.ok none) ∈ events ∧ mock.origin = .mock
  | _ => True

theorem told_serve
    (gateway : Gateway)
    (events : List TrafficEvent)
    (number : Nat)
    (target : ServingTarget)
    (name : String)
    (resource : CertificateResource) :
    (serve target name resource).Told gateway events number := by
  unfold serve
  cases resource.certifiedKey <;> trivial

theorem Told.append
    {gateway : Gateway}
    {events : List TrafficEvent}
    {number : Nat}
    {stage : HandshakeStage}
    (told : stage.Told gateway events number)
    (more : List TrafficEvent) :
    stage.Told gateway (events ++ more) number := by
  cases stage with
  | obtaining target name stage => exact ⟨List.mem_append_left more told.1, told.2.append more⟩
  | datingFallback target name reason => exact List.mem_append_left more told
  | storingFallback target name reason mock => exact ⟨List.mem_append_left more told.1, told.2⟩
  | _ => trivial

/-- Every call of a handshake is told with the next stage. -/
theorem told_moves
    {gateway : Gateway}
    {events : List TrafficEvent}
    {number : Nat}
    {stage later : HandshakeStage}
    {call : GatewayCall}
    {answer : call.Answer}
    (told : stage.Told gateway events number)
    (moves : Moves gateway stage call answer later) :
    later.Told gateway (events ++ [.calls number call answer]) number := by
  cases moves with
  | validated name answer =>
      unfold validated
      cases answer with
      | none => trivial
      | some keyAuthorization =>
          simp only
          cases ValidationCertificate.make? name keyAuthorization <;> trivial
  | found target name resource =>
      unfold found
      split
      · exact told_serve gateway _ number target name resource
      · trivial
  | missing target name =>
      unfold missing
      split
      · trivial
      · split
        · exact ⟨List.mem_append_right _ (List.mem_singleton_self _), trivial⟩
        · trivial
  | dated target name resource second =>
      unfold dated
      cases Gateway.renewalRequest? target.key resource second with
      | none => exact told_serve gateway _ number target name resource
      | some request => trivial
  | launched target name resource request launchedNumber =>
      exact told_serve gateway _ number target name resource
  | @issuance target name stage call answer later inside =>
      have looked := List.mem_append_left [TrafficEvent.calls number call answer] told.1
      have toldInside := IssuanceStage.told_moves told.2 inside
      match later with
      | .on stage => exact ⟨looked, toldInside⟩
      | .ended (.ok resource) => exact told_serve gateway _ number target name resource
      | .ended (.error reason) => exact looked
  | fallback made => exact ⟨List.mem_append_left _ told, Mock.origin_of_make made⟩
  | fallbackStored target name reason mock answer =>
      exact told_serve gateway _ number target name mock
  | _ => trivial

end HandshakeStage

namespace TaskStage

/-- The events bear out what a stage of a task holds. -/
def Told
    (gateway : Gateway)
    (events : List TrafficEvent)
    (number : Nat) :
    TaskStage → Prop
  | handshake stage => stage.Told gateway events number
  | issuance job stage => stage.Told events number job
  | _ => True

theorem Told.append
    {gateway : Gateway}
    {events : List TrafficEvent}
    {number : Nat}
    {stage : TaskStage}
    (told : stage.Told gateway events number)
    (more : List TrafficEvent) :
    stage.Told gateway (events ++ more) number := by
  cases stage with
  | handshake stage => exact HandshakeStage.Told.append told more
  | issuance job stage => exact IssuanceStage.Told.append told more
  | _ => trivial

theorem told_requesting
    (gateway : Gateway)
    (request : ObtainRequest)
    (events : List TrafficEvent)
    (number : Nat) :
    (requesting gateway request).Told gateway events number := by
  unfold requesting
  cases gateway.job? request <;> trivial

theorem told_opening
    (gateway : Gateway)
    (errand : Errand)
    (events : List TrafficEvent)
    (number : Nat) :
    (opening gateway errand).Told gateway events number := by
  cases errand with
  | resolving serverName protocols =>
      simp only [opening, Told, HandshakeStage.opening]
      split
      · trivial
      · split <;> trivial
  | obtaining request => exact told_requesting gateway request events number
  | ensuringPrimary => trivial
  | sweeping interval withHandshakes => trivial

/-- Every call of a task is told with the next stage. -/
theorem told_moves
    {gateway : Gateway}
    {events : List TrafficEvent}
    {number : Nat}
    {stage later : TaskStage}
    {call : GatewayCall}
    {answer : call.Answer}
    (told : stage.Told gateway events number)
    (moves : Moves gateway stage call answer later) :
    later.Told gateway (events ++ [.calls number call answer]) number := by
  cases moves with
  | handshake inside => exact HandshakeStage.told_moves told inside
  | @issuance job stage call answer later inside =>
      have toldInside := IssuanceStage.told_moves told inside
      cases later with
      | on stage => exact toldInside
      | ended result => trivial
  | primarySought answer =>
      match answer with
      | .error error => trivial
      | .ok (some resource) => trivial
      | .ok none => exact told_requesting gateway gateway.primaryRequest _ number
  | upkeep only answer => trivial

end TaskStage

namespace Traffic

variable {gateway : Gateway} {scene : Scene} {events : List TrafficEvent}

/-- The events of a run bear out the stages of all tasks. -/
theorem told_of_run
    {traffic : Traffic TaskStage}
    (run : Run gateway.stagedBehaviour (quiet scene) events traffic)
    {number : Nat}
    {task : GatewayTask TaskStage}
    {stage : TaskStage}
    (present : traffic.tasks[number]? = some task)
    (left : task.rest = some stage) :
    stage.Told gateway events number := by
  induction run generalizing task stage with
  | nil => cases present
  | snoc _ step inductionHypothesis =>
      cases step.change present with
      | begins event errand =>
          cases left
          exact TaskStage.told_opening gateway errand _ number
      | moves there leftBefore moves =>
          cases left
          have told := inductionHypothesis there leftBefore
          exact TaskStage.told_moves told moves
      | panics there => cases left
      | stays there => exact (inductionHypothesis there left).append _

end Traffic

end OnDemandTls
