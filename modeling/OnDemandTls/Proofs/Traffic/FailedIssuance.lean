import OnDemandTls.Proofs.Traffic.Replay
import OnDemandTls.Proofs.Traffic.Testimony

namespace OnDemandTls

/-!
# Failed issuance and good certificates

What a task writes after its issuance has failed takes the place of what is
stored.  A certificate that is still good is kept, if it is the one that the
request is to renew and it can be stored with its mark; in all other cases it
can be lost, and under the lock only if it was stored before the name was
claimed.
-/

open Traffic

/-! ## Writes -/

namespace IssuanceStage

/-- What an issuance writes was issued, is marked, or is a mock. -/
theorem put_cases
    {job : IssuanceJob}
    {stage : IssuanceStage}
    {name : String}
    {written : CertificateResource}
    {answer : Except StoreError Unit}
    {later : IssuanceProgress}
    (moves : Moves job stage (.putRecord name written) answer later) :
    name = job.key ∧
      (stage = .storing written ∨
        (∃ previous second,
          stage = .marking previous second ∧ written = previous.stamped second) ∨
        ∃ cause, stage = .storingMock cause written) := by
  cases moves with
  | stored | notStored => exact ⟨rfl, Or.inl rfl⟩
  | marked previous second | notMarked previous second =>
      exact ⟨rfl, Or.inr (Or.inl ⟨previous, second, rfl, rfl⟩)⟩
  | mockStored cause => exact ⟨rfl, Or.inr (Or.inr ⟨cause, rfl⟩)⟩

theorem owns_of_put
    {job : IssuanceJob}
    {stage : IssuanceStage}
    {name : String}
    {written : CertificateResource}
    {answer : Except StoreError Unit}
    {later : IssuanceProgress}
    (moves : Moves job stage (.putRecord name written) answer later) :
    stage.owns = true := by
  cases moves <;> rfl

end IssuanceStage

namespace Standing

/-- Within its issuance a task has only the release of the name before it, or it
is past its issuance. -/
inductive Settled : Standing → Prop where
  | releasing (job : IssuanceJob) (result : Except ObtainError CertificateResource) :
      Settled (.during job (.releasing result))
  | past :
      Settled .past

/-- A task that is settled stays so. -/
theorem Settled.moves
    {standing later : Standing}
    {call : GatewayCall}
    {answer : call.Answer}
    (settled : standing.Settled)
    (moves : Moves standing call answer later) :
    later.Settled := by
  cases settled with
  | releasing job result =>
      cases moves with
      | inside inside =>
          cases inside
          exact .past
  | past =>
      cases moves
      exact .past

end Standing

namespace TaskStage

/-- A task writes within its issuance, or a handshake writes a mock for its
client after it. -/
theorem put_cases
    {gateway : Gateway}
    {stage later : TaskStage}
    {name : String}
    {written : CertificateResource}
    {answer : Except StoreError Unit}
    (moves : Moves gateway stage (.putRecord name written) answer later) :
    (∃ job inner progress,
      stage.standing gateway = .during job inner ∧
        IssuanceStage.Moves job inner (.putRecord name written) answer progress ∧
        later.standing gateway = progress.standing job) ∨
      ∃ target asked reason,
        stage = .handshake (.storingFallback target asked reason written) ∧ name = target.key := by
  cases moves with
  | @handshake stage later call answer inside =>
      cases inside with
      | @issuance target asked stage call answer progress inside =>
          exact Or.inl ⟨_, _, progress, rfl, inside, HandshakeStage.standing_proceed ..⟩
      | fallbackStored target asked reason mock answer =>
          exact Or.inr ⟨target, asked, reason, rfl, rfl⟩
  | @issuance job stage call answer progress inside =>
      exact Or.inl ⟨job, stage, progress, rfl, inside, standing_proceed ..⟩
  | upkeep only answer => exact only.allowed_next.elim

/-- Who has written is settled. -/
theorem settled_of_put
    {gateway : Gateway}
    {stage later : TaskStage}
    {name : String}
    {written : CertificateResource}
    (moves : Moves gateway stage (.putRecord name written) (.ok ()) later) :
    (later.standing gateway).Settled := by
  rcases put_cases moves with ⟨job, inner, progress, -, inside, leads⟩ |
    ⟨target, asked, reason, rfl, rfl⟩
  · rw [leads]
    cases inside <;> exact .releasing job _
  · cases moves with
    | handshake inside =>
        cases inside
        rw [standing, HandshakeStage.standing_serve]
        exact .past

theorem told_of_standing
    {gateway : Gateway}
    {events : List TrafficEvent}
    {number : Nat}
    {stage : TaskStage}
    {job : IssuanceJob}
    {inner : IssuanceStage}
    (told : stage.Told gateway events number)
    (stands : stage.standing gateway = .during job inner) :
    inner.Told events number job := by
  cases stage with
  | handshake stage =>
      cases stage with
      | obtaining target name stage =>
          cases stands
          exact told.2
      | _ => cases stands
  | issuance job stage =>
      cases stands
      exact told
  | _ => cases stands

end TaskStage

namespace Traffic

variable {gateway : Gateway} {scene : Scene} {events : List TrafficEvent}

/-- A task that has written something is settled. -/
theorem settled_of_written
    {traffic : Traffic TaskStage}
    (run : Run gateway.stagedBehaviour (quiet scene) events traffic)
    {number : Nat}
    {name : String}
    {written : CertificateResource}
    (writes : .calls number (.putRecord name written) (.ok ()) ∈ events) :
    ∃ task,
      traffic.tasks[number]? = some task ∧
        ∀ stage, task.rest = some stage → (stage.standing gateway).Settled := by
  induction run with
  | nil => cases writes
  | @snoc events traffic later event run step inductionHypothesis =>
      rcases List.mem_append.mp writes with earlier | now
      · obtain ⟨task, present, settled⟩ := inductionHypothesis earlier
        obtain ⟨now, presentLater, -, settledLater⟩ :=
          step.carry (fun stage _ => (stage.standing gateway).Settled) present
            (fun stage left _ => settled stage left)
            fun stage call answer next left _ moves _ =>
              (settled stage left).moves (TaskStage.standing_moves moves)
        exact ⟨now, presentLater, settledLater⟩
      · cases List.mem_singleton.mp now
        obtain ⟨task, stage, next, there, left, moves, -, -, presentLater⟩ := step.called
        refine ⟨_, presentLater, fun laterStage laterLeft => ?_⟩
        cases laterLeft
        exact TaskStage.settled_of_put moves

/-- While a task owns a name, nobody else writes what an authority issued under
that name. -/
theorem mock_of_other_put
    {traffic later : Traffic TaskStage}
    (free : scene.locks.isEmpty = true)
    (run : Run gateway.stagedBehaviour (quiet scene) events traffic)
    {number writer : Nat}
    {task : GatewayTask TaskStage}
    {stage : TaskStage}
    {key name : String}
    {written : CertificateResource}
    {answer : Except StoreError Unit}
    (present : traffic.tasks[number]? = some task)
    (left : task.rest = some stage)
    (owned : (stage.standing gateway).owned? = some key)
    (step : Step gateway.stagedBehaviour traffic
      (.calls writer (.putRecord name written) answer) later)
    (another : writer ≠ number)
    (sameKey : HostName.storeKey name = key) :
    written.origin = .mock := by
  obtain ⟨writing, writerStage, next, there, writerLeft, moves, -, -, -⟩ := step.called
  have told := told_of_run run there writerLeft
  rcases TaskStage.put_cases moves with ⟨job, inner, progress, stands, inside, -⟩ |
    ⟨target, asked, reason, rfl, -⟩
  · have fits := GuardsFit.fits_of_run run there writerLeft
    obtain ⟨-, isJob⟩ := TaskStage.request_of_standing fits stands
    obtain ⟨isKey, -⟩ := IssuanceStage.put_cases inside
    rw [isKey, Gateway.storeKey_key isJob] at sameKey
    have writerOwned : (writerStage.standing gateway).owned? = some key := by
      rw [stands, ← sameKey]
      exact if_pos (IssuanceStage.owns_of_put inside)
    exact (another ((GuardsFit.of_run free run).owner_unique there writerLeft writerOwned
      present left owned)).elim
  · exact told.2

/-- What an authority issued and is stored under the name that a task owns was
stored before the task claimed the name, or the task has written it. -/
theorem stored_at_claim
    {traffic : Traffic TaskStage}
    (free : scene.locks.isEmpty = true)
    (run : Run gateway.stagedBehaviour (quiet scene) events traffic)
    {number : Nat}
    {task : GatewayTask TaskStage}
    {stage : TaskStage}
    {key : String}
    (present : traffic.tasks[number]? = some task)
    (left : task.rest = some stage)
    (owned : (stage.standing gateway).owned? = some key) :
    ∃ ahead guardNumber behind before,
      events = ahead ++ .calls number (.claim key) (.owner guardNumber) :: behind ∧
        Run gateway.stagedBehaviour (quiet scene) ahead before ∧
        ∀ good,
          traffic.scene.records.get? key = some good →
          good.origin = .acme →
          before.scene.records.get? key = some good ∨
            ∃ name, .calls number (.putRecord name good) (.ok ()) ∈ events := by
  induction run generalizing task stage with
  | nil => cases present
  | @snoc events traffic later event run step inductionHypothesis =>
      cases step.change present with
      | begins event errand =>
          cases left
          cases (GuardsFit.owned?_opening gateway errand).symm.trans owned
      | panics there => cases left
      | stays there idle =>
          obtain ⟨ahead, guardNumber, behind, before, rfl, runAhead, since⟩ :=
            inductionHypothesis there left owned
          refine ⟨ahead, guardNumber, behind ++ [event], before, by simp, runAhead, ?_⟩
          intro good stored isAcme
          rcases step.stored_before stored with storedBefore | ⟨writer, name, member, sameKey⟩
          · exact (since good storedBefore isAcme).imp_right fun ⟨name, member⟩ =>
              ⟨name, List.mem_append_left _ member⟩
          · cases List.mem_singleton.mp member
            have another : writer ≠ number := fun same => idle (congrArg some same)
            rw [mock_of_other_put free run there left owned step another sameKey] at isAcme
            cases isAcme
      | @moves task stage next call answer there leftBefore moves admitted sceneIs =>
          cases left
          have ownership := (TaskStage.standing_moves moves).ownership
          rw [owned] at ownership
          generalize ownedBefore : (stage.standing gateway).owned? = earlier at ownership
          cases ownership with
          | keeps noClaim noRelease =>
              obtain ⟨ahead, guardNumber, behind, before, rfl, runAhead, since⟩ :=
                inductionHypothesis there leftBefore ownedBefore
              refine ⟨ahead, guardNumber, _, before,
                (List.append_assoc ..).trans rfl, runAhead, ?_⟩
              intro good stored isAcme
              rcases step.stored_before stored with storedBefore | ⟨writer, name, member, -⟩
              · exact (since good storedBefore isAcme).imp_right fun ⟨name, member⟩ =>
                  ⟨name, List.mem_append_left _ member⟩
              · cases List.mem_singleton.mp member
                exact Or.inr ⟨name, List.mem_append_right _ (List.mem_singleton_self _)⟩
          | takes name guardNumber =>
              refine ⟨events, guardNumber, [], traffic, rfl, run, ?_⟩
              intro good stored _
              rw [sceneIs] at stored
              exact Or.inl stored

end Traffic

/-! ## What is lost -/

namespace Scene

/-- A chain is kept by a record with the same one, whether it can be stored or
not. -/
theorem certificateChain_after_put
    {scene : Scene}
    {name : String}
    {written good : CertificateResource}
    (stored : scene.records.find? name = some good)
    (sameChain : written.certificateChain = good.certificateChain)
    (answer : Except StoreError Unit) :
    ((scene.after (.putRecord name written) answer).records.find? name).map
        CertificateResource.certificateChain =
      some good.certificateChain := by
  cases answer with
  | error error =>
      change (scene.records.find? name).map _ = _
      rw [stored]
      rfl
  | ok =>
      change (Catalog.get? (Catalog.insert _ (HostName.storeKey name) _)
        (HostName.storeKey name)).map _ = _
      rw [Catalog.get?_insert, if_pos rfl]
      exact congrArg some sameChain

end Scene

namespace CertificateResource

/-- The resource without the mark of a renewal that failed. -/
def unmarked (resource : CertificateResource) : CertificateResource :=
  { resource with retryAfter := none }

theorem validTill_of_unmarked
    {first second : CertificateResource}
    (same : first.unmarked = second.unmarked) :
    first.validTill = second.validTill := by
  have sameField : first.unmarked.validTill = second.unmarked.validTill := by rw [same]
  exact sameField

theorem certificateChain_of_unmarked
    {first second : CertificateResource}
    (same : first.unmarked = second.unmarked) :
    first.certificateChain = second.certificateChain := by
  have sameField : first.unmarked.certificateChain = second.unmarked.certificateChain := by
    rw [same]
  exact sameField

end CertificateResource

/-- Why a request does not keep a good certificate when its issuance fails. -/
inductive Forfeits
    (gateway : Gateway)
    (events : List TrafficEvent)
    (number : Nat)
    (request : ObtainRequest)
    (name : String)
    (good : CertificateResource) : Prop where
  | noClient :
      gateway.client? request.role = none →
      Forfeits gateway events number request name good
  /-- The only name is a wildcard that the client cannot prove. -/
  | noName (issuance : Issuance) :
      Issuance.ofRequest? (gateway.client? request.role) request = some issuance →
      issuance.domains = [] →
      Forfeits gateway events number request name good
  /-- The request is not to renew what an authority issued. -/
  | nothingToKeep :
      request.previous.filter (fun resource => resource.origin = .acme) = none →
      Forfeits gateway events number request name good
  /-- The request is to renew another certificate. -/
  | another (previous : CertificateResource) :
      request.previous = some previous →
      previous.unmarked ≠ good.unmarked →
      Forfeits gateway events number request name good
  /-- The certificate could not be stored with its mark. -/
  | markLost (previous : CertificateResource) (second : Int) (error : StoreError) :
      request.previous = some previous →
      .calls number (.putRecord name (previous.stamped second)) (.error error) ∈ events →
      Forfeits gateway events number request name good

/-- A record was stored when a task claimed its name. -/
def StoredAtClaim
    (gateway : Gateway)
    (scene : Scene)
    (events : List TrafficEvent)
    (number : Nat)
    (name : String)
    (record : CertificateResource) :
    Prop :=
  ∃ ahead guardNumber behind before,
    events = ahead ++ .calls number (.claim name) (.owner guardNumber) :: behind ∧
      Run gateway.behaviour (quiet scene) ahead before ∧
      before.scene.records.find? name = some record

namespace Gateway

/-- What a request says of the issuance that it asks for. -/
theorem job?_eq_some
    {gateway : Gateway}
    {request : ObtainRequest}
    {job : IssuanceJob}
    (isJob : gateway.job? request = some job) :
    job.request = request ∧
      job.client = gateway.client? request.role ∧
      Issuance.ofRequest? (gateway.client? request.role) request = some job.issuance := by
  obtain ⟨issuance, isIssuance, rfl⟩ := Option.map_eq_some_iff.mp isJob
  exact ⟨rfl, rfl, isIssuance⟩

end Gateway

namespace MockCause

/-- A mock for a cause takes the place of a good certificate only if the request
does not keep it. -/
theorem forfeits_of_told
    {gateway : Gateway}
    {events : List TrafficEvent}
    {number : Nat}
    {job : IssuanceJob}
    {cause : MockCause}
    {good : CertificateResource}
    {now : Int}
    (isJob : gateway.job? job.request = some job)
    (told : cause.Told events number job)
    (clock : ∀ second, .calls number .clock second ∈ events → second ≤ now)
    (isGood : good.isExpired now = false) :
    Forfeits gateway events number job.request job.key good := by
  obtain ⟨-, isClient, isIssuance⟩ := Gateway.job?_eq_some isJob
  cases cause with
  | noClient => exact .noClient (isClient.symm.trans told)
  | noName => exact .noName job.issuance isIssuance told
  | refusal reason =>
      cases kept : job.previous with
      | none => exact .nothingToKeep kept
      | some previous =>
          obtain ⟨second, asked, expired⟩ := told previous kept
          refine .another previous (Option.filter_eq_some_iff.mp kept).1 fun same => ?_
          have sameExpiry := CertificateResource.validTill_of_unmarked same
          have early := clock second asked
          simp only [CertificateResource.isExpired, decide_eq_true_eq] at expired
          simp only [CertificateResource.isExpired, decide_eq_false_iff_not] at isGood
          omega
  | markLost error =>
      obtain ⟨previous, second, kept, failed⟩ := told
      exact .markLost previous second error (Option.filter_eq_some_iff.mp kept).1 failed

end MockCause

namespace Traffic

variable {gateway : Gateway} {scene : Scene} {events : List TrafficEvent}

/-- What an authority issued, and is stored when a task is about to write under
its own name, was stored before the task claimed the name. -/
theorem storedAtClaim_of_put
    {traffic : Traffic TaskStage}
    (free : scene.locks.isEmpty = true)
    (run : Run gateway.stagedBehaviour (quiet scene) events traffic)
    {number : Nat}
    {task : GatewayTask TaskStage}
    {stage : TaskStage}
    {job : IssuanceJob}
    {inner : IssuanceStage}
    {written good : CertificateResource}
    {answer : Except StoreError Unit}
    {progress : IssuanceProgress}
    (there : traffic.tasks[number]? = some task)
    (left : task.rest = some stage)
    (stands : stage.standing gateway = .during job inner)
    (isJob : gateway.job? job.request = some job)
    (inside : IssuanceStage.Moves job inner (.putRecord job.key written) answer progress)
    (stored : traffic.scene.records.find? job.key = some good)
    (isAcme : good.origin = .acme) :
    StoredAtClaim gateway scene events number job.key good := by
  have owned : (stage.standing gateway).owned? = some job.key := by
    rw [stands]
    exact if_pos (IssuanceStage.owns_of_put inside)
  obtain ⟨ahead, guardNumber, behind, before, isEvents, runAhead, since⟩ :=
    stored_at_claim free run there left owned
  refine ⟨ahead, guardNumber, behind, before.programs gateway, isEvents,
    run_of_staged runAhead, ?_⟩
  rw [Records.find?, Gateway.storeKey_key isJob] at stored ⊢
  rcases since good stored isAcme with storedBefore | ⟨name, wrote⟩
  · exact storedBefore
  · -- Having written, the task would only have the release before it.
    obtain ⟨settling, alsoThere, settled⟩ := settled_of_written run wrote
    cases there.symm.trans alsoThere
    have settledNow := settled stage left
    rw [stands] at settledNow
    cases settledNow
    cases inside

/-- A failed issuance and a good certificate.  Whenever a record is stored that
an authority issued and that has not expired, a task that writes under its key
what no authority has given it leaves the chain as it is; or it holds the lock,
its request does not keep the certificate, which was stored before the task
claimed the name; or it is a handshake that found no record and writes a mock
for its client without the lock. -/
theorem failed_issuance_keeps_certificate
    {traffic later : Traffic (GatewayProgram TaskResult)}
    {number : Nat}
    {name : String}
    {written good : CertificateResource}
    {answer : Except StoreError Unit}
    (free : scene.locks.isEmpty = true)
    (run : Run gateway.behaviour (quiet scene) events traffic)
    (step : Step gateway.behaviour traffic (.calls number (.putRecord name written) answer) later)
    (failed : ¬ IssuedTo events number written)
    (stored : traffic.scene.records.find? name = some good)
    (isAcme : good.origin = .acme)
    (isGood : good.isExpired traffic.scene.second = false) :
    ∃ (task : GatewayTask (GatewayProgram TaskResult)) (request : ObtainRequest),
      traffic.tasks[number]? = some task ∧
        task.errand.request? gateway = some request ∧
        ((later.scene.records.find? name).map CertificateResource.certificateChain =
            some good.certificateChain ∨
          (task.guard.isSome = true ∧
            Forfeits gateway events number request name good ∧
            StoredAtClaim gateway scene events number name good) ∨
          (task.guard = none ∧
            (∃ serverName protocols, task.errand = .resolving serverName protocols) ∧
            .calls number (.findRecord name) (.ok none) ∈ events)) := by
  obtain ⟨staged, stagedRun, rfl⟩ := run_staged run
  obtain ⟨laterStaged, stagedStep, rfl⟩ := step_staged step
  obtain ⟨task, stage, next, there, left, moves, -, sceneIs, -⟩ := stagedStep.called
  have fits := GuardsFit.fits_of_run stagedRun there left
  have told := told_of_run stagedRun there left
  have guards := GuardsFit.of_run free stagedRun
  have present :
      (staged.programs gateway).tasks[number]? = some (task.map (TaskStage.program gateway)) := by
    simp only [programs, map, List.getElem?_map, there, Option.map_some]
  rcases TaskStage.put_cases moves with ⟨job, inner, progress, stands, inside, -⟩ |
    ⟨target, asked, reason, rfl, rfl⟩
  · obtain ⟨requests, isJob⟩ := TaskStage.request_of_standing fits stands
    obtain ⟨rfl, writes⟩ := IssuanceStage.put_cases inside
    have toldInside := TaskStage.told_of_standing told stands
    have owned : (stage.standing gateway).owned? = some job.key := by
      rw [stands]
      exact if_pos (IssuanceStage.owns_of_put inside)
    have hasGuard : task.guard.isSome = true := by
      obtain ⟨guardNumber, isGuard⟩ := guards.guard_of_owned there left owned
      rw [isGuard]
      rfl
    have clock : ∀ second, .calls number .clock second ∈ events → second ≤ staged.scene.second :=
      fun second => stagedRun.second_le_of_clock
    have atClaim : StoredAtClaim gateway scene events number job.key good :=
      storedAtClaim_of_put free stagedRun there left stands isJob inside stored isAcme
    refine ⟨_, job.request, present, requests, ?_⟩
    rcases writes with rfl | ⟨previous, second, rfl, rfl⟩ | ⟨cause, rfl⟩
    · exact (failed toldInside).elim
    · rcases Decidable.em (previous.unmarked = good.unmarked) with same | differs
      · refine Or.inl ?_
        change (laterStaged.scene.records.find? job.key).map _ = _
        rw [sceneIs]
        have sameChain :
            (previous.stamped second).certificateChain = good.certificateChain :=
          CertificateResource.certificateChain_of_unmarked same
        exact Scene.certificateChain_after_put stored sameChain answer
      · exact Or.inr (Or.inl ⟨hasGuard,
          .another previous (Option.filter_eq_some_iff.mp toldInside).1 differs, atClaim⟩)
    · exact Or.inr (Or.inl ⟨hasGuard,
        MockCause.forfeits_of_told isJob toldInside.1 clock isGood, atClaim⟩)
  · obtain ⟨serverName, protocols, isErrand, ⟨named, rfl⟩, -⟩ := fits
    refine ⟨_, { domains := [asked], user := (gateway.classify asked).user }, present, ?_, ?_⟩
    · simp only [GatewayTask.map_errand, isErrand, Errand.request?, named, Option.map_some]
    · have owner := guards.owners there
      rw [left, Option.bind_some] at owner
      exact Or.inr (Or.inr ⟨Option.map_eq_none_iff.mp owner,
        ⟨serverName, protocols, isErrand⟩, told.1⟩)

/-- A certificate that is due. -/
def dueCertificate : CertificateResource :=
  SmallGateway.certificate "due" 1700172800

/-- A certificate that is not due for a long time. -/
def freshCertificate : CertificateResource :=
  SmallGateway.certificate "fresh" 1707776000

/-- A refused renewal up to the point where the certificate is to be marked. -/
def refusedEvents
    (number guardNumber : Nat) :
    List TrafficEvent :=
  [ .calls number (.claim SmallGateway.blog) (.owner guardNumber)
  , .calls number (.spend .request) ()
  , .calls number (.renew .general dueCertificate) (.error (.generation "refused"))
  , .calls number (.spend .failure) ()
  , .calls number (.spend .order) ()
  , .calls number (.spend .request) ()
  , .calls number (.order .general [SmallGateway.blog]) (.error (.generation "refused"))
  , .calls number .clock 1700000000 ]

/-- The last call of a refused renewal that stores something. -/
def markEvent (number : Nat) : TrafficEvent :=
  .calls number (.putRecord SmallGateway.blog (dueCertificate.stamped 1700000000)) (.ok ())

/-- A handshake that finds a certificate which is due, and starts its renewal. -/
def renewingHandshake
    (number started : Nat) :
    List TrafficEvent :=
  [ .calls number (.findReady SmallGateway.blog) none
  , .calls number (.findRecord SmallGateway.blog) (.ok (some dueCertificate))
  , .calls number .clock 1700000000
  , .calls number
      (.startObtaining { domains := [SmallGateway.blog], previous := some dueCertificate })
      started ]

/-- The scene of a gateway that has one certificate, which is due. -/
def dueScene : Scene :=
  SmallGateway.scene (Catalog.empty.insert SmallGateway.blog dueCertificate)

/-- The renewal of the stored certificate is refused, and the theorem applies. -/
theorem refused_renewal_keeps_or_forfeits :
    let events : List TrafficEvent :=
      .arrives (.obtaining { domains := [SmallGateway.blog], previous := some dueCertificate }) ::
        refusedEvents 0 0
    ∃ traffic later task request,
      Run SmallGateway.gateway.behaviour (quiet dueScene) events traffic ∧
        Step SmallGateway.gateway.behaviour traffic (markEvent 0) later ∧
        traffic.tasks[0]? = some task ∧
        ((later.scene.records.find? SmallGateway.blog).map CertificateResource.certificateChain =
            some "due" ∨
          Forfeits SmallGateway.gateway events 0 request SmallGateway.blog dueCertificate ∨
          task.guard = none) := by
  intro events
  have replayed :
      ((replay SmallGateway.gateway (quiet dueScene) events).bind fun traffic =>
        (replayEvent SmallGateway.gateway traffic (markEvent 0)).map fun _ =>
          (traffic.scene.records.find? SmallGateway.blog, traffic.scene.second)) =
        some (some dueCertificate, 1700000000) := by
    decide +kernel
  obtain ⟨traffic, accepted, marked⟩ := Option.bind_eq_some_iff.mp replayed
  obtain ⟨later, acceptedMark, facts⟩ := Option.map_eq_some_iff.mp marked
  obtain ⟨stored, now⟩ := Prod.mk.inj facts
  have run := run_of_replay .nil accepted
  have step := step_of_replayEvent acceptedMark
  have unissued : ¬ IssuedTo events 0 (dueCertificate.stamped 1700000000) := by
    rintro (⟨role, previous, member⟩ | ⟨role, domains, member⟩) <;>
      simp [events, refusedEvents] at member
  obtain ⟨task, request, present, -, outcome⟩ :=
    failed_issuance_keeps_certificate rfl run step unissued stored rfl (by rw [now]; decide)
  refine ⟨traffic, later, task, request, run, step, present, ?_⟩
  rcases outcome with kept | ⟨-, forfeits, -⟩ | ⟨unlocked, -⟩
  · exact Or.inl kept
  · exact Or.inr (Or.inl forfeits)
  · exact Or.inr (Or.inr unlocked)

/-- Two handshakes find one certificate that is due.  The renewal that the first
one has started stores a fresh certificate; the renewal of the second one is
refused, and what it was to renew takes the place of the fresh certificate. -/
theorem stale_renewal_replaces_fresh_certificate :
    let events : List TrafficEvent :=
      [ .arrives (.resolving (some SmallGateway.blog) [])
      , .arrives (.resolving (some SmallGateway.blog) []) ] ++
      renewingHandshake 0 2 ++
      renewingHandshake 1 3 ++
      [ .calls 2 (.claim SmallGateway.blog) (.owner 0)
      , .calls 2 (.spend .request) ()
      , .calls 2 (.renew .general dueCertificate) (.ok freshCertificate)
      , .calls 2 (.putRecord SmallGateway.blog freshCertificate) (.ok ())
      , .calls 2 (.release SmallGateway.blog) () ] ++
      refusedEvents 3 1
    ∃ traffic later,
      Run SmallGateway.gateway.behaviour (quiet dueScene) events traffic ∧
        Step SmallGateway.gateway.behaviour traffic (markEvent 3) later ∧
        ¬ IssuedTo events 3 (dueCertificate.stamped 1700000000) ∧
        traffic.scene.records.find? SmallGateway.blog = some freshCertificate ∧
        freshCertificate.origin = .acme ∧
        freshCertificate.isExpired traffic.scene.second = false ∧
        later.scene.records.find? SmallGateway.blog =
          some (dueCertificate.stamped 1700000000) ∧
        (dueCertificate.stamped 1700000000).certificateChain ≠
          freshCertificate.certificateChain := by
  intro events
  have replayed :
      ((replay SmallGateway.gateway (quiet dueScene) events).bind fun traffic =>
        (replayEvent SmallGateway.gateway traffic (markEvent 3)).map fun later =>
          (traffic.scene.records.find? SmallGateway.blog, traffic.scene.second,
            later.scene.records.find? SmallGateway.blog)) =
        some (some freshCertificate, 1700000000,
          some (dueCertificate.stamped 1700000000)) := by
    decide +kernel
  obtain ⟨traffic, accepted, marked⟩ := Option.bind_eq_some_iff.mp replayed
  obtain ⟨later, acceptedMark, facts⟩ := Option.map_eq_some_iff.mp marked
  obtain ⟨stored, now, storedLater⟩ := by simpa only [Prod.mk.injEq] using facts
  have unissued : ¬ IssuedTo events 3 (dueCertificate.stamped 1700000000) := by
    rintro (⟨role, previous, member⟩ | ⟨role, domains, member⟩) <;>
      simp [events, refusedEvents, renewingHandshake] at member
  have run : Run SmallGateway.gateway.behaviour (quiet dueScene) ([] ++ events) traffic :=
    run_of_replay .nil accepted
  exact ⟨traffic, later, run, step_of_replayEvent acceptedMark, unissued, stored, rfl,
    by rw [now]; decide, storedLater, by decide⟩

end Traffic

end OnDemandTls
