import OnDemandTls.Proofs.Traffic.FailedIssuance
import OnDemandTls.Proofs.Traffic.Transcripts

namespace OnDemandTls

/-!
# What obtaining a certificate leaves

The owner of an issuance runs alone in a scene.  Up to its one write the records
are those of the beginning (`IssuanceStage.Effect`), and that write is the last
thing before the name is given back.  So a request touches one record at most,
an error leaves the store as it was, and the answer is what is stored now, or a
mock that could not be stored (`Scene.obtain_changes_one_record`).
-/

/-- The key of the record that a request is about: that of its first name. -/
def ObtainRequest.recordKey? (request : ObtainRequest) : Option String :=
  request.domains.head?.map fun first => HostName.storeKey (HostName.fold first)

/-- The issuance of a request is locked and filed under the key of its record. -/
theorem Gateway.recordKey?_eq
    (gateway : Gateway)
    (request : ObtainRequest) :
    request.recordKey? = (gateway.job? request).map IssuanceJob.key := by
  unfold ObtainRequest.recordKey? job? Issuance.ofRequest?
  cases request.domains with
  | nil => rfl
  | cons first rest => rfl

/-! ## What the authorities have issued -/

/-- The certificate that an authority answers with. -/
def Exchange.certificate? : Exchange → Option CertificateResource
  | ⟨.renew _ _, .ok issued⟩ => some issued
  | ⟨.order _ _, .ok issued⟩ => some issued
  | _ => none

/-- What the authorities have issued; nothing as long as all of them refuse. -/
def issuedIn (transcript : List Exchange) : List CertificateResource :=
  transcript.filterMap Exchange.certificate?

theorem issuedIn_snoc
    (transcript : List Exchange)
    (exchange : Exchange) :
    issuedIn (transcript ++ [exchange]) = issuedIn transcript ++ exchange.certificate?.toList := by
  cases isIssued : exchange.certificate? <;> simp [issuedIn, isIssued]

theorem issuedIn_snoc_of_none
    {transcript : List Exchange}
    {exchange : Exchange}
    (silent : exchange.certificate? = none) :
    issuedIn (transcript ++ [exchange]) = issuedIn transcript := by
  simp [issuedIn_snoc, silent]

/-! ## Answers to requests -/

namespace ObtainRequest

/-- What a request can be answered with by the owner of its issuance. -/
inductive Yields (request : ObtainRequest) (transcript : List Exchange) :
    CertificateResource → Prop where
  | issued
      {resource : CertificateResource} :
      resource ∈ issuedIn transcript →
      Yields request transcript resource
  /-- Every authority has refused; what was to be renewed is kept for six hours. -/
  | kept
      {previous : CertificateResource}
      {now : Int} :
      request.previous = some previous →
      previous.origin = .acme →
      previous.isExpired now = false →
      ⟨.clock, now⟩ ∈ transcript →
      issuedIn transcript = [] →
      Yields request transcript { previous with retryAfter := some (now + 21600) }
  /-- A mock that is made now. -/
  | mocked
      {mock : CertificateResource}
      {now : Int} :
      mock.origin = .mock →
      mock.validTill = now + 626400 →
      ⟨.clock, now⟩ ∈ transcript →
      Yields request transcript mock

/-- Further calls that have no certificate for an answer change nothing about
what a request yields. -/
theorem Yields.snoc
    {request : ObtainRequest}
    {transcript : List Exchange}
    {resource : CertificateResource}
    {exchange : Exchange}
    (yields : request.Yields transcript resource)
    (silent : exchange.certificate? = none) :
    request.Yields (transcript ++ [exchange]) resource := by
  cases yields with
  | issued member =>
      refine .issued ?_
      rw [issuedIn_snoc_of_none silent]
      exact member
  | kept isPrevious isAcme isGood told refused =>
      refine .kept isPrevious isAcme isGood (List.mem_append_left _ told) ?_
      rw [issuedIn_snoc_of_none silent]
      exact refused
  | mocked isMock expires told => exact .mocked isMock expires (List.mem_append_left _ told)

/-- What a request has left in the records when it is answered. -/
def Leaves
    (request : ObtainRequest)
    (key : String)
    (transcript : List Exchange)
    (before after : Records) :
    Except ObtainError CertificateResource → Prop
  | .error _ => after = before
  | .ok resource =>
      (after = before.insert key resource ∨ (resource.origin = .mock ∧ after = before)) ∧
        request.Yields transcript resource

theorem Leaves.snoc
    {request : ObtainRequest}
    {key : String}
    {transcript : List Exchange}
    {before after : Records}
    {result : Except ObtainError CertificateResource}
    {exchange : Exchange}
    (leaves : request.Leaves key transcript before after result)
    (silent : exchange.certificate? = none) :
    request.Leaves key (transcript ++ [exchange]) before after result := by
  cases result with
  | error error => exact leaves
  | ok resource => exact ⟨leaves.1, leaves.2.snoc silent⟩

end ObtainRequest

/-! ## Stages -/

/-- Taking away what has just been filed under a free key undoes it. -/
theorem Catalog.erase_insert
    {α : Type}
    {c : Catalog α}
    {key : String}
    {value : α}
    (free : c.get? key = none) :
    (c.insert key value).erase key = c := by
  refine ext_get? fun other => ?_
  rw [get?_erase, get?_insert]
  by_cases same : other = key
  · simp [same, free]
  · simp [same]

/-- Nothing has been written since the beginning, and a name is locked. -/
structure Scene.Reserves (start scene : Scene) (key : String) : Prop where
  records : scene.records = start.records
  held : ∃ guardNumber, scene.locks.held = start.locks.held.insert key guardNumber

namespace IssuanceStage

/-- What the owner of an issuance has done to a scene when it is in a stage. -/
def Effect
    (start : Scene)
    (job : IssuanceJob)
    (transcript : List Exchange)
    (scene : Scene) :
    IssuanceStage → Prop
  | claiming =>
      scene.records = start.records ∧ scene.locks.held = start.locks.held ∧
        issuedIn transcript = []
  | waiting _ | taking => False
  | storing issued => start.Reserves scene job.key ∧ issued ∈ issuedIn transcript
  | marking previous second =>
      start.Reserves scene job.key ∧
        job.request.Yields transcript (previous.stamped second) ∧
        issuedIn transcript = []
  | storingMock _ mock =>
      start.Reserves scene job.key ∧
        mock.origin = .mock ∧
        job.request.Yields transcript mock
  | releasing result =>
      (∃ guardNumber, scene.locks.held = start.locks.held.insert job.key guardNumber) ∧
        job.request.Leaves job.key transcript start.records scene.records result
  | _ => start.Reserves scene job.key ∧ issuedIn transcript = []

variable {start scene : Scene} {job : IssuanceJob} {transcript : List Exchange}

theorem effect_freshStage
    (reserves : start.Reserves scene job.key)
    (refused : issuedIn transcript = []) :
    job.freshStage.Effect start job transcript scene := by
  unfold IssuanceJob.freshStage
  cases job.request.user <;> exact ⟨reserves, refused⟩

theorem effect_firstStage
    (reserves : start.Reserves scene job.key)
    (refused : issuedIn transcript = []) :
    job.firstStage.Effect start job transcript scene := by
  unfold IssuanceJob.firstStage
  split
  · exact ⟨reserves, refused⟩
  · split
    · exact ⟨reserves, refused⟩
    · cases job.previous with
      | some previous => exact ⟨reserves, refused⟩
      | none => exact effect_freshStage reserves refused

theorem effect_verdict
    {second : Int}
    (reason : AuthorityError)
    (reserves : start.Reserves scene job.key)
    (refused : issuedIn transcript = [])
    (told : ⟨.clock, second⟩ ∈ transcript) :
    (job.verdict reason second).Effect start job transcript scene := by
  unfold IssuanceJob.verdict
  cases kept : job.previous.filter (fun resource => !resource.isExpired second) with
  | none => exact ⟨reserves, refused⟩
  | some previous =>
      obtain ⟨isPrevious, isGood⟩ := Option.filter_eq_some_iff.mp kept
      obtain ⟨requested, isAcme⟩ := Option.filter_eq_some_iff.mp isPrevious
      refine ⟨reserves, .kept requested (of_decide_eq_true isAcme) ?_ told refused, refused⟩
      simpa using isGood

/-- Storing under the key of an issuance changes that record alone. -/
theorem records_of_put
    {gateway : Gateway}
    (isJob : gateway.job? job.request = some job)
    (reserves : start.Reserves scene job.key)
    (resource : CertificateResource) :
    scene.records.put job.key resource = start.records.insert job.key resource := by
  rw [Records.put, Gateway.storeKey_key isJob, reserves.records]

/-- Every call of the owner of an issuance keeps to what the stages say. -/
theorem effect_moves
    {gateway : Gateway}
    {stage : IssuanceStage}
    {call : GatewayCall}
    {answer : call.Answer}
    {later : IssuanceStage}
    (isJob : gateway.job? job.request = some job)
    (unlocked : start.locks.held.get? job.key = none)
    (effect : stage.Effect start job transcript scene)
    (moves : Moves job stage call answer (.on later))
    (admitted : scene.Admits call answer) :
    later.Effect start job (transcript ++ [⟨call, answer⟩]) (scene.after call answer) := by
  -- Most calls are no writes and no answers of an authority: the scene stays as
  -- it is, and so does what has been issued.
  have silent : ∀ {exchange : Exchange},
      exchange.certificate? = none → issuedIn transcript = [] →
        issuedIn (transcript ++ [exchange]) = [] := by
    intro exchange none refused
    rw [issuedIn_snoc_of_none none, refused]
  cases moves with
  | busy guardNumber =>
      obtain ⟨-, sameHeld, -⟩ := effect
      have found := (IssuanceLocks.acquire_busy admitted.symm).1
      rw [sameHeld, unlocked] at found
      cases found
  | owner guardNumber =>
      obtain ⟨sameRecords, sameHeld, refused⟩ := effect
      have taken := (IssuanceLocks.acquire_owner admitted.symm).2.2
      refine effect_firstStage ⟨sameRecords, guardNumber, ?_⟩ (silent rfl refused)
      simp [Scene.after, taken, sameHeld]
  | awaited guardNumber => exact effect.elim
  | paidRenewal previous => exact ⟨effect.1, silent rfl effect.2⟩
  | renewed previous issued => exact ⟨effect.1, by simp [issuedIn_snoc, Exchange.certificate?]⟩
  | notRenewed previous reason => exact ⟨effect.1, silent rfl effect.2⟩
  | paidFailure => exact effect_freshStage effect.1 (silent rfl effect.2)
  | granted user => exact ⟨effect.1, silent rfl effect.2⟩
  | denied user => exact ⟨effect.1.held, effect.1.records⟩
  | paidOrder => exact ⟨effect.1, silent rfl effect.2⟩
  | paidRequest => exact ⟨effect.1, silent rfl effect.2⟩
  | ordered issued => exact ⟨effect.1, by simp [issuedIn_snoc, Exchange.certificate?]⟩
  | refused reason => exact ⟨effect.1, silent rfl effect.2⟩
  | stored issued =>
      obtain ⟨reserves, isIssued⟩ := effect
      have yields : job.request.Yields transcript issued := .issued isIssued
      exact ⟨reserves.held, Or.inl (records_of_put isJob reserves issued), yields.snoc rfl⟩
  | notStored issued error => exact ⟨effect.1.held, effect.1.records⟩
  | judged reason second =>
      exact effect_verdict reason effect.1 (silent rfl effect.2)
        (List.mem_append_right _ (List.mem_singleton_self _))
  | marked previous second =>
      obtain ⟨reserves, yields, -⟩ := effect
      exact ⟨reserves.held, Or.inl (records_of_put isJob reserves _), yields.snoc rfl⟩
  | notMarked previous second error => exact ⟨effect.1, silent rfl effect.2.2⟩
  | mockMade made =>
      have isMock := Mock.origin_of_make made
      exact ⟨effect.1, isMock, .mocked isMock (Mock.validTill_of_make made)
        (List.mem_append_right _ (List.mem_singleton_self _))⟩
  | noMock made => exact ⟨effect.1.held, effect.1.records⟩
  | mockStored cause mock answer =>
      obtain ⟨reserves, isMock, yields⟩ := effect
      cases answer with
      | ok => exact ⟨reserves.held, Or.inl (records_of_put isJob reserves mock), yields.snoc rfl⟩
      | error error => exact ⟨reserves.held, Or.inr ⟨isMock, reserves.records⟩, yields.snoc rfl⟩

end IssuanceStage

namespace IssuanceProgress

/-- What the owner of an issuance has done to a scene on its way and at its end. -/
def Effect
    (start : Scene)
    (job : IssuanceJob)
    (transcript : List Exchange)
    (scene : Scene) :
    IssuanceProgress → Prop
  | on stage => stage.Effect start job transcript scene
  | ended result =>
      scene.locks.held = start.locks.held ∧
        job.request.Leaves job.key transcript start.records scene.records result

/-- Time changes nothing about it. -/
theorem effect_passes
    {start scene : Scene}
    {job : IssuanceJob}
    {transcript : List Exchange}
    {progress : IssuanceProgress}
    (milliseconds : Nat)
    (effect : progress.Effect start job transcript scene) :
    progress.Effect start job transcript
      { scene with instant := scene.instant + milliseconds } := by
  cases progress with
  | on stage =>
      cases stage <;>
        first
        | exact effect
        | exact ⟨⟨effect.1.records, effect.1.held⟩, effect.2⟩
  | ended result => exact effect

/-- Every call up to the end keeps to what the stages say. -/
theorem effect_moves
    {gateway : Gateway}
    {start scene : Scene}
    {job : IssuanceJob}
    {transcript : List Exchange}
    {progress later : IssuanceProgress}
    {call : GatewayCall}
    {answer : call.Answer}
    (isJob : gateway.job? job.request = some job)
    (unlocked : start.locks.held.get? job.key = none)
    (effect : progress.Effect start job transcript scene)
    (moves : Moves job progress call answer later)
    (admitted : scene.Admits call answer) :
    later.Effect start job (transcript ++ [⟨call, answer⟩]) (scene.after call answer) := by
  cases progress with
  | ended result => exact moves.elim
  | on stage =>
      cases later with
      | on later => exact IssuanceStage.effect_moves isJob unlocked effect moves admitted
      | ended result =>
          cases moves with
          | unreadable | missing | taken => exact effect.elim
          | released =>
              obtain ⟨⟨guardNumber, held⟩, leaves⟩ := effect
              refine ⟨?_, leaves.snoc rfl⟩
              change scene.locks.held.erase job.key = start.locks.held
              rw [held, Catalog.erase_insert unlocked]

end IssuanceProgress

namespace Scene

variable {gateway : Gateway} {request : ObtainRequest} {start later : Scene}
variable {transcript : List Exchange} {result : Except ObtainError CertificateResource}

/-- The owner of an issuance that has come to its end has given the name back
and left what it should. -/
theorem Performs.leaves
    {job : IssuanceJob}
    (isJob : gateway.job? request = some job)
    (unlocked : start.locks.held.get? job.key = none)
    (performs : start.Performs (gateway.obtain request) transcript later (.done result)) :
    later.locks.held = start.locks.held ∧
      request.Leaves job.key transcript start.records later.records result := by
  obtain ⟨rfl, -, -⟩ := Gateway.job?_eq_some isJob
  have begins : gateway.obtain job.request = (IssuanceProgress.on .claiming).program job := by
    rw [Gateway.obtain_eq, isJob]
    rfl
  rw [begins] at performs
  obtain ⟨progress, isDone, effect⟩ :=
    performs.invariant (fun transcript scene progress => progress.Effect start job transcript scene)
      (IssuanceProgress.follows job)
      (fun effect moves admitted =>
        IssuanceProgress.effect_moves isJob unlocked effect moves admitted)
      (fun milliseconds effect => IssuanceProgress.effect_passes milliseconds effect)
      ⟨rfl, rfl, rfl⟩
  rw [IssuanceProgress.eq_ended_of_done isDone] at effect
  exact effect

/-- What obtaining a certificate leaves, for every request that is made while
nobody issues for its name, whatever is stored, whatever the authorities answer
and whichever writes fail.  Only the record of the request can change.  After an
error the records are as before.  A certificate that is returned is stored now,
or it is a mock and the records are as before; and it was issued in this call,
or it is the one to be renewed with a mark for the next six hours, after every
authority has refused, or a mock made now.  No name is locked that was not. -/
theorem obtain_changes_one_record
    (unlocked : ∀ key, request.recordKey? = some key → start.locks.isLocked key = false)
    (performs : start.Performs (gateway.obtain request) transcript later (.done result)) :
    (∀ key, request.recordKey? ≠ some key → later.records.get? key = start.records.get? key) ∧
      (∀ error, result = .error error → later.records = start.records) ∧
      (∀ resource,
        result = .ok resource →
        ((∃ key, request.recordKey? = some key ∧ later.records.get? key = some resource) ∨
            (resource.origin = .mock ∧ later.records = start.records)) ∧
          request.Yields transcript resource) ∧
      later.locks.held = start.locks.held := by
  have isKey := gateway.recordKey?_eq request
  cases isJob : gateway.job? request with
  | none =>
      rw [Gateway.obtain_eq, isJob] at performs
      obtain ⟨isEmpty, sameRecords, sameLocks⟩ := performs.of_done
      cases isEmpty
      exact ⟨fun key _ => by rw [sameRecords], fun _ _ => sameRecords, nofun, by rw [sameLocks]⟩
  | some job =>
      rw [isJob, Option.map_some] at isKey
      have free : start.locks.held.get? job.key = none := by
        simpa [IssuanceLocks.isLocked, Catalog.contains] using unlocked job.key isKey
      obtain ⟨sameHeld, leaves⟩ := performs.leaves isJob free
      refine ⟨fun key another => ?_, fun error isError => ?_, fun resource isOk => ?_, sameHeld⟩
      · have differs : key ≠ job.key := fun same => another (by rw [isKey, same])
        cases result with
        | error error => rw [show later.records = start.records from leaves]
        | ok resource =>
            rcases leaves.1 with stored | ⟨-, same⟩
            · simp [stored, differs]
            · rw [same]
      · subst isError
        exact leaves
      · subst isOk
        refine ⟨leaves.1.imp_left fun stored => ⟨job.key, isKey, ?_⟩, leaves.2⟩
        simp [stored]

/-- A request to renew a certificate that is still good. -/
def refusedRequest : ObtainRequest where
  domains := [SmallGateway.blog]
  previous := some (SmallGateway.certificate "good" 1700086400)

/-- The request is made alone and is refused twice; what was to be renewed is
kept. -/
def refusedEvents : List TrafficEvent :=
  [ .calls 0 (.claim SmallGateway.blog) (.owner 0)
  , .calls 0 (.spend .request) ()
  , .calls 0 (.renew .general (SmallGateway.certificate "good" 1700086400))
      (.error (.generation "refused"))
  , .calls 0 (.spend .failure) ()
  , .calls 0 (.spend .order) ()
  , .calls 0 (.spend .request) ()
  , .calls 0 (.order .general [SmallGateway.blog]) (.error (.generation "refused"))
  , .calls 0 .clock 1700000000
  , .calls 0
      (.putRecord SmallGateway.blog
        ((SmallGateway.certificate "good" 1700086400).stamped 1700000000))
      (.ok ())
  , .calls 0 (.release SmallGateway.blog) () ]

/-- The refused request leaves the certificate with its mark, and the theorem
applies. -/
theorem refused_request_keeps_previous :
    ∃ later transcript result key,
      (SmallGateway.scene Catalog.empty).Performs (SmallGateway.gateway.obtain refusedRequest)
          transcript later (.done result) ∧
        refusedRequest.recordKey? = some key ∧
        later.records.get? key =
          some ((SmallGateway.certificate "good" 1700086400).stamped 1700000000) := by
  have replayed :
      ((Traffic.replay SmallGateway.gateway
          { scene := SmallGateway.scene Catalog.empty
            tasks := [Traffic.newTask SmallGateway.gateway.behaviour (.obtaining refusedRequest)] }
          refusedEvents).bind fun traffic =>
        traffic.tasks[0]?.bind GatewayTask.obtained?) =
        some ((SmallGateway.certificate "good" 1700086400).stamped 1700000000) := by
    decide +kernel
  obtain ⟨traffic, accepted, obtained⟩ := Option.bind_eq_some_iff.mp replayed
  obtain ⟨task, present, isResult⟩ := Option.bind_eq_some_iff.mp obtained
  have run := Traffic.run_of_replay .nil accepted
  have alone : ∀ event ∈ refusedEvents, event.IsAlone 0 := by
    simp [refusedEvents, TrafficEvent.IsAlone]
  obtain ⟨result, isObtained, performs⟩ :=
    run.performs_of_result rfl alone present (GatewayTask.rest_of_obtained? isResult)
  cases isObtained
  obtain ⟨-, -, yielded, -⟩ := obtain_changes_one_record (fun _ _ => rfl) performs
  rcases (yielded _ rfl).1 with ⟨key, isKey, stored⟩ | ⟨isMock, -⟩
  · exact ⟨_, _, _, key, performs, isKey, stored⟩
  · cases isMock

end Scene

end OnDemandTls
