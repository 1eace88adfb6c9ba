import OnDemandTls.Proofs.Traffic.Backoff
import OnDemandTls.Proofs.Traffic.OneByOne

namespace OnDemandTls

/-!
# Keys that are left alone

While a record is not due, handshakes find it under its key and serve it, and do
nothing else there: no task comes to obtain, to store or to have renewed anything
under the key (`TaskStage.Rests`).  So the record stays as it is until a handshake
is told that it is due (`Traffic.Resting.of_run`).
-/

/-- Who has stored something only has the lock to release. -/
theorem IssuanceStage.releasing_of_put
    {job : IssuanceJob}
    {stage : IssuanceStage}
    {name : String}
    {written : CertificateResource}
    {progress : IssuanceProgress}
    (moves : Moves job stage (.putRecord name written) (.ok ()) progress) :
    ∃ resource, progress = .on (.releasing (.ok resource)) := by
  cases moves <;> exact ⟨_, rfl⟩

/-! ## Stages that leave a key alone -/

namespace HandshakeStage

/-- A handshake leaves a key alone: it has found there what is stored, if
anything, and is not about to obtain, to store or to have renewed anything. -/
def Rests
    (key : String)
    (record : CertificateResource) :
    HandshakeStage → Prop
  | dating target _ resource => target.key = key → resource = record
  | obtaining target _ stage =>
      (∃ resource, stage = .releasing (.ok resource)) ∨ target.key ≠ key
  | launching target _ _ _ => target.key ≠ key
  | datingFallback target _ _ | storingFallback target _ _ _ => target.key ≠ key
  | _ => True

variable {gateway : Gateway} {errand : Errand} {key : String} {record : CertificateResource}

theorem rests_serve
    (target : ServingTarget)
    (name : String)
    (resource : CertificateResource) :
    (serve target name resource).Rests key record := by
  unfold serve
  cases resource.certifiedKey <;> trivial

/-- The key of an entitled handshake is a store key. -/
theorem storeKey_of_isCustom
    {target : ServingTarget}
    {name : String}
    (custom : IsCustom gateway errand target name) :
    HostName.storeKey target.key = target.key := by
  obtain ⟨claim, -, rfl⟩ := custom
  exact HostName.storeKey_storeKey name

/-- What an entitled handshake obtains is for its key. -/
theorem key_of_isCustom
    {target : ServingTarget}
    {name : String}
    (custom : IsCustom gateway errand target name) :
    (gateway.clientJob target name).key = target.key := by
  obtain ⟨claim, -, rfl⟩ := custom
  exact HostName.storeKey_fold name

/-- A handshake goes on to leave a key alone, unless it is told that the record
that it has found there is due. -/
theorem rests_moves
    {scene : Scene}
    {deadline : Int}
    {stage later : HandshakeStage}
    {call : GatewayCall}
    {answer : call.Answer}
    (number : Nat)
    (due : record.DueFrom deadline)
    (stored : scene.records.get? key = some record)
    (sanctioned : stage.Sanctioned gateway errand)
    (rests : stage.Rests key record)
    (early :
      ∀ target name resource second,
        stage = .dating target name resource →
        target.key = key →
        TrafficEvent.calls number call answer = .calls number .clock second →
        second < deadline)
    (admitted : scene.Admits call answer)
    (moves : Moves gateway stage call answer later) :
    later.Rests key record := by
  -- Whoever reads what is stored under the key finds the record.
  have read : ∀ {target name found},
      IsCustom gateway errand target name →
      target.key = key →
      scene.records.find? target.key = found →
      found = some record := by
    rintro target name found custom rfl rfl
    rw [Records.find?, storeKey_of_isCustom custom, stored]
  cases moves with
  | validated name answer =>
      unfold validated
      cases answer with
      | none => trivial
      | some keyAuthorization =>
          simp only
          cases ValidationCertificate.make? name keyAuthorization <;> trivial
  | found target name resource =>
      unfold found
      rcases sanctioned with isPrimary | custom
      · rw [if_pos isPrimary]
        exact rests_serve target name resource
      · split
        · exact rests_serve target name resource
        · exact fun isKey => Option.some.inj (read custom isKey (Scene.find?_of_admits admitted))
  | missing target name =>
      unfold missing
      rcases sanctioned with isPrimary | custom
      · rw [if_pos isPrimary]
        trivial
      · split
        · trivial
        · split
          · refine Or.inr fun isKey => ?_
            cases read custom isKey (Scene.find?_of_admits admitted)
          · trivial
  | dated target name resource second =>
      unfold dated
      cases launch : Gateway.renewalRequest? target.key resource second with
      | none => exact rests_serve target name resource
      | some request =>
          intro isKey
          have isRecord : resource = record := rests isKey
          obtain ⟨isDue, -⟩ := Gateway.renewalRequest?_eq_some_iff.mp launch
          rw [isRecord, due second] at isDue
          exact Int.not_lt.mpr isDue (early target name resource second rfl isKey rfl)
  | launched target name resource request launchedNumber => exact rests_serve target name resource
  | @issuance target name stage call answer progress inside =>
      cases progress with
      | on later =>
          refine Or.inr ?_
          rcases rests with ⟨resource, rfl⟩ | another
          · cases inside
          · exact another
      | ended result =>
          cases result with
          | ok resource => exact rests_serve target name resource
          | error reason =>
              rcases rests with ⟨resource, rfl⟩ | another
              · cases inside
              · exact another
  | fallback made => exact rests
  | fallbackStored target name reason mock answer => exact rests_serve target name mock
  | _ => trivial

end HandshakeStage

namespace TaskStage

/-- A task leaves a key alone. -/
def Rests
    (key : String)
    (record : CertificateResource) :
    TaskStage → Prop
  | handshake stage => stage.Rests key record
  | issuance job stage => (∃ result, stage = .releasing result) ∨ job.key ≠ key
  | upkeep (.done _) _ | finished _ => True
  | upkeep (.call _ _) _ | seekingPrimary => False

variable {gateway : Gateway} {errand : Errand} {key : String} {record : CertificateResource}
variable {stage later : TaskStage} {call : GatewayCall} {answer : call.Answer}

theorem Served.rests (served : stage.Served) : stage.Rests key record := by
  cases stage with
  | handshake stage => cases stage <;> trivial
  | upkeep rest only => cases rest <;> trivial
  | finished result => trivial
  | _ => exact served.elim

/-- Who has stored something leaves all keys alone. -/
theorem rests_of_put
    {name : String}
    {written : CertificateResource}
    (moves : Moves gateway stage (.putRecord name written) (.ok ()) later) :
    later.Rests key record := by
  cases moves with
  | handshake inside =>
      cases inside with
      | issuance inside =>
          obtain ⟨resource, rfl⟩ := IssuanceStage.releasing_of_put inside
          exact Or.inl ⟨resource, rfl⟩
      | fallbackStored target name => exact HandshakeStage.rests_serve target name written
  | issuance inside =>
      obtain ⟨resource, rfl⟩ := IssuanceStage.releasing_of_put inside
      exact Or.inl ⟨.ok resource, rfl⟩
  | upkeep only answer => exact only.allowed_next.elim

/-- A request for another key leads to a task that leaves the key alone. -/
theorem rests_requesting
    {request : ObtainRequest}
    {other : String}
    (single : request.domains = [other])
    (another : HostName.storeKey other ≠ key) :
    (requesting gateway request).Rests key record := by
  unfold requesting
  cases isJob : gateway.job? request with
  | none => trivial
  | some job =>
      obtain ⟨sameRequest, -⟩ := Gateway.job?_eq_some isJob
      refine Or.inr ?_
      rw [(Gateway.job_of_single single isJob).1]
      exact another

theorem rests_moves
    {scene : Scene}
    {deadline : Int}
    (number : Nat)
    (due : record.DueFrom deadline)
    (stored : scene.records.get? key = some record)
    (sanctioned : stage.Sanctioned gateway errand)
    (rests : stage.Rests key record)
    (early :
      ∀ target name resource second,
        stage = .handshake (.dating target name resource) →
        target.key = key →
        TrafficEvent.calls number call answer = .calls number .clock second →
        second < deadline)
    (admitted : scene.Admits call answer)
    (moves : Moves gateway stage call answer later) :
    later.Rests key record := by
  cases moves with
  | handshake inside =>
      refine HandshakeStage.rests_moves number due stored sanctioned rests ?_ admitted inside
      rintro target name resource second rfl
      exact early target name resource second rfl
  | @issuance job stage call answer progress inside =>
      cases progress with
      | on later =>
          refine Or.inr ?_
          rcases rests with ⟨result, rfl⟩ | another
          · cases inside
          · exact another
      | ended result => trivial
  | primarySought answer => exact rests.elim
  | upkeep only answer => exact rests.elim

/-- The issuance of a task that leaves a key alone is for another key, or it is
over but for the release of its lock. -/
theorem another_of_rests
    {job : IssuanceJob}
    {inner : IssuanceStage}
    (sanctioned : stage.Sanctioned gateway errand)
    (rests : stage.Rests key record)
    (stands : stage.standing gateway = .during job inner) :
    (∃ result, inner = .releasing result) ∨ job.key ≠ key := by
  cases stage with
  | handshake stage =>
      cases stage with
      | obtaining target name stage =>
          cases stands
          rw [HandshakeStage.key_of_isCustom sanctioned.1]
          exact rests.imp_left fun ⟨resource, isStage⟩ => ⟨_, isStage⟩
      | _ => cases stands
  | issuance job stage =>
      cases stands
      exact rests
  | _ => cases stands

/-- Whatever an issuance does, it does for its key. -/
theorem key?_of_standing
    {job : IssuanceJob}
    {inner : IssuanceStage}
    {progress : IssuanceProgress}
    (fits : stage.Fits gateway errand)
    (stands : stage.standing gateway = .during job inner)
    (inside : IssuanceStage.Moves job inner call answer progress)
    (acts : call.Acts) :
    call.key? gateway errand = some job.key := by
  have certificate := certificateName?_of_standing fits stands
  have storedKey := Gateway.storeKey_key (request_of_standing fits stands).2
  cases inside with
  | busy | owner | awaited | released => rfl
  | stored | notStored | marked | notMarked | mockStored => exact congrArg some storedKey
  | unreadable | missing | taken | judged | mockMade | noMock => exact acts.elim
  | _ => exact certificate

/-- Whatever a task that leaves a key alone does, but for the release of a lock, it
does for another key. -/
theorem Rests.key?_ne
    (fits : stage.Fits gateway errand)
    (sanctioned : stage.Sanctioned gateway errand)
    (rests : stage.Rests key record)
    (moves : Moves gateway stage call answer later)
    (acts : call.Acts)
    (keepsLock : ∀ name, call ≠ .release name) :
    call.key? gateway errand ≠ some key := by
  have during : ∀ {job inner progress},
      stage.standing gateway = .during job inner →
      IssuanceStage.Moves job inner call answer progress →
      call.key? gateway errand ≠ some key := by
    intro job inner progress stands inside
    rw [key?_of_standing fits stands inside acts]
    rcases another_of_rests sanctioned rests stands with ⟨result, rfl⟩ | another
    · cases inside
      exact (keepsLock _ rfl).elim
    · exact fun same => another (Option.some.inj same)
  cases moves with
  | handshake inside =>
      cases inside with
      | launched target name resource request number =>
          obtain ⟨custom, single, -⟩ := sanctioned
          have isKey : (GatewayCall.startObtaining request).key? gateway errand =
              some (HostName.storeKey target.key) :=
            Gateway.certificateName?_of_single single
          rw [isKey, HandshakeStage.storeKey_of_isCustom custom]
          exact fun same => rests (Option.some.inj same)
      | issuance inside => exact during rfl inside
      | fallbackStored target name reason mock answer =>
          have isKey : (GatewayCall.putRecord target.key mock).key? gateway errand =
              some (HostName.storeKey target.key) :=
            rfl
          rw [isKey, HandshakeStage.storeKey_of_isCustom sanctioned]
          exact fun same => rests (Option.some.inj same)
      | _ => exact acts.elim
  | issuance inside => exact during rfl inside
  | primarySought answer => exact acts.elim
  | upkeep only answer => exact rests.elim

/-- A handshake for a server name begins by leaving all keys alone. -/
theorem rests_resolving
    (serverName : Option String)
    (protocols : List String) :
    (opening gateway (.resolving serverName protocols)).Rests key record := by
  simp only [opening, Rests, HandshakeStage.opening]
  split
  · trivial
  · split <;> trivial

/-- A task that leaves a key alone launches nothing for it. -/
theorem rests_of_launch
    {request : ObtainRequest}
    {number : Nat}
    (sanctioned : stage.Sanctioned gateway errand)
    (rests : stage.Rests key record)
    (moves : Moves gateway stage (.startObtaining request) number later) :
    (opening gateway (.obtaining request)).Rests key record := by
  cases moves with
  | handshake inside =>
      cases inside with
      | launched target name resource request number =>
          obtain ⟨custom, single, -⟩ := sanctioned
          refine rests_requesting single ?_
          rw [HandshakeStage.storeKey_of_isCustom custom]
          exact rests
      | issuance inside => cases inside
  | issuance inside => cases inside
  | upkeep only answer => exact rests.elim

end TaskStage

/-! ## Runs -/

namespace Traffic

variable {gateway : Gateway} {scene : Scene} {events : List TrafficEvent}
variable {key : String} {record : CertificateResource} {deadline : Int}

/-- In the course of some events, no handshake for a key is told that a second has
come. -/
def Asleep
    {ρ : Type}
    (gateway : Gateway)
    (key : String)
    (deadline : Int)
    (events : List TrafficEvent)
    (traffic : Traffic ρ) :
    Prop :=
  ∀ {number : Nat} {task : GatewayTask ρ} {name : String} {claim : DomainClaim} {second : Int},
    traffic.tasks[number]? = some task →
    task.errand.Entitled gateway name claim →
    HostName.storeKey name = key →
    .calls number .clock second ∈ events →
    second < deadline

theorem Asleep.before
    {ρ : Type}
    {behaviour : Behaviour ρ}
    {traffic later : Traffic ρ}
    {event : TrafficEvent}
    {fewer : List TrafficEvent}
    (asleep : Asleep gateway key deadline events later)
    (step : Step behaviour traffic event later)
    (within : fewer ⊆ events) :
    Asleep gateway key deadline fewer traffic := by
  intro number task name claim second present entitled isKey told
  obtain ⟨now, presentLater, sameErrand⟩ := step.persists present
  exact asleep presentLater (sameErrand ▸ entitled) isKey (within told)

/-- A record is stored under a key, and all tasks leave the key alone. -/
structure Resting
    (key : String)
    (record : CertificateResource)
    (traffic : Traffic TaskStage) :
    Prop where
  stored : traffic.scene.records.get? key = some record
  tasks :
    ∀ {number : Nat} {task : GatewayTask TaskStage} {stage : TaskStage},
      traffic.tasks[number]? = some task →
      task.rest = some stage →
      stage.Rests key record

namespace Resting

variable {traffic later : Traffic TaskStage} {event : TrafficEvent}

/-- Whoever does anything for the key, but release a lock, does not leave it
alone. -/
theorem key?_ne
    {number : Nat}
    {call : GatewayCall}
    {answer : call.Answer}
    (run : Run gateway.stagedBehaviour (quiet scene) events traffic)
    (resting : Resting key record traffic)
    (step : Step gateway.stagedBehaviour traffic (.calls number call answer) later)
    (acts : call.Acts)
    (keepsLock : ∀ name, call ≠ .release name) :
    ∃ task,
      traffic.tasks[number]? = some task ∧ call.key? gateway task.errand ≠ some key := by
  obtain ⟨task, stage, next, there, left, moves, -⟩ := step.called
  have fits := GuardsFit.fits_of_run run there left
  have sanctioned := sanctioned_stage_of_run run there left
  exact ⟨task, there, (resting.tasks there left).key?_ne fits sanctioned moves acts keepsLock⟩

/-- What is stored under the key stays. -/
theorem stored_step
    (run : Run gateway.stagedBehaviour (quiet scene) events traffic)
    (resting : Resting key record traffic)
    (step : Step gateway.stagedBehaviour traffic event later) :
    later.scene.records.get? key = some record := by
  have kept : NeverDeletedIn [event] key := by
    intro eraser name member isKey
    cases List.mem_singleton.mp member
    obtain ⟨task, -, another⟩ := resting.key?_ne run step trivial nofun
    exact another (congrArg some isKey)
  obtain ⟨next, storedLater, rfl | ⟨writer, name, member, isKey⟩⟩ := step.stored resting.stored kept
  · exact storedLater
  · cases List.mem_singleton.mp member
    obtain ⟨task, -, another⟩ := resting.key?_ne run step trivial nofun
    exact (another (congrArg some isKey)).elim

theorem step
    (due : record.DueFrom deadline)
    (onlyHandshakes : OnlyHandshakes [event])
    (run : Run gateway.stagedBehaviour (quiet scene) events traffic)
    (asleep : Asleep gateway key deadline [event] traffic)
    (resting : Resting key record traffic)
    (step : Step gateway.stagedBehaviour traffic event later) :
    Resting key record later where
  stored := resting.stored_step run step
  tasks := by
    intro number task stage present left
    cases step.change present with
    | begins event errand absent idle begun =>
        cases left
        rcases TrafficEvent.begun_cases begun with rfl | ⟨launcher, request, answer, rfl, rfl⟩
        · obtain ⟨serverName, protocols, rfl⟩ := onlyHandshakes _ (List.mem_singleton_self _)
          exact TaskStage.rests_resolving serverName protocols
        · obtain ⟨acting, before, next, there, leftBefore, moves, -⟩ := step.called
          have sanctioned := sanctioned_stage_of_run run there leftBefore
          exact TaskStage.rests_of_launch sanctioned (resting.tasks there leftBefore) moves
    | @moves task before next call answer there leftBefore moves admitted =>
        cases left
        have sanctioned := sanctioned_stage_of_run run there leftBefore
        refine TaskStage.rests_moves number due resting.stored sanctioned
          (resting.tasks there leftBefore) ?_ admitted moves
        rintro target name resource second rfl isKey told
        obtain ⟨claim, entitled, rfl⟩ := sanctioned
        exact asleep there entitled isKey (List.mem_singleton.mpr told.symm)
    | panics there => cases left
    | stays there => exact resting.tasks there left

/-- As long as no handshake for the key is told that the record is due, it stays,
and all tasks leave the key alone. -/
theorem of_run
    {front back : List TrafficEvent}
    {middle : Traffic TaskStage}
    (due : record.DueFrom deadline)
    (first : Run gateway.stagedBehaviour (quiet scene) front middle)
    (resting : Resting key record middle)
    (onlyHandshakes : OnlyHandshakes back)
    (second : Run gateway.stagedBehaviour middle back traffic)
    (asleep : Asleep gateway key deadline back traffic) :
    Resting key record traffic := by
  induction second with
  | nil => exact resting
  | @snoc back traffic later event run step inductionHypothesis =>
      have before := inductionHypothesis onlyHandshakes.of_append
        (asleep.before step (List.subset_append_left back [event]))
      have now : Asleep gateway key deadline [event] traffic :=
        asleep.before step (List.subset_append_right back [event])
      refine before.step due (fun errand arrived => ?_) (first.append run) now step
      exact onlyHandshakes errand (List.mem_append_right _ arrived)

end Resting

end Traffic

end OnDemandTls
