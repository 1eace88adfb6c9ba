import OnDemandTls.Proofs.PrimaryNames
import OnDemandTls.Proofs.TimedCatalog
import OnDemandTls.Proofs.Traffic.Entitlement
import OnDemandTls.Proofs.Traffic.IssuingOnce
import OnDemandTls.Proofs.Traffic.Persistence
import OnDemandTls.Proofs.Traffic.SweepStages
import OnDemandTls.Proofs.Traffic.Turns

namespace OnDemandTls

/-!
# How old a served certificate is

A certificate that is ready for handshakes was made from a record, and is given
out for a quarter of an hour.  When tasks run in turn, the record that a
handshake has found or obtained is still stored when the handshake keeps its
certificate ready (`HandshakeStage.Current`), and a cycle of maintenance drops
what is ready right after it has deleted a record (`Traffic.DropsNext`).  So for
everything that is ready there is a moment at which its record was stored and
since which no record was deleted under its key (`Traffic.Vouched`).
-/

/-- What is ready after a call is kept ready by it, or was ready before and is
not dropped by it. -/
theorem Scene.ready_before
    {scene : Scene}
    {call : GatewayCall}
    {answer : call.Answer}
    {key : String}
    {certified : CertifiedKey}
    {expiry : Nat}
    (ready :
      (scene.after call answer).readyCertificates.entries.get? key = some (certified, expiry)) :
    (call = .keepReady key certified ∧ expiry = scene.instant + Gateway.readyLifetime) ∨
      (scene.readyCertificates.entries.get? key = some (certified, expiry) ∧
        call ≠ .dropReady key) := by
  cases call with
  | keepReady other kept =>
      change (scene.readyCertificates.entries.insert other _).get? key = _ at ready
      rw [Catalog.get?_insert] at ready
      split at ready
      · rename_i same
        cases ready
        exact Or.inl ⟨by rw [same], rfl⟩
      · exact Or.inr ⟨ready, nofun⟩
  | dropReady other =>
      obtain ⟨another, before⟩ := TimedCatalog.entry_of_remove ready
      exact Or.inr ⟨before, fun same => another (GatewayCall.dropReady.inj same).symm⟩
  | findReady other => exact Or.inr ⟨TimedCatalog.entry_of_drop ready, nofun⟩
  | purgeReady => exact Or.inr ⟨Catalog.get?_of_filter ready, nofun⟩
  | putRecord name resource => cases answer <;> exact Or.inr ⟨ready, nofun⟩
  | deleteRecord name => cases answer <;> exact Or.inr ⟨ready, nofun⟩
  | _ => exact Or.inr ⟨ready, nofun⟩

/-! ## What a handshake serves -/

namespace HandshakeStage

variable {gateway : Gateway} {serverName : Option String}

/-- The record that a handshake is about to serve is stored under its key. -/
def Current
    (records : Records) :
    HandshakeStage → Prop
  | dating target _ resource | launching target _ resource _ =>
      records.find? target.key = some resource
  | obtaining target _ stage =>
      ∀ resource, stage = .releasing (.ok resource) → records.find? target.key = some resource
  | keeping key certified =>
      ∃ record, records.find? key = some record ∧ record.certifiedKey = .ok certified
  | _ => True

theorem current_serve
    {records : Records}
    {target : ServingTarget}
    {resource : CertificateResource}
    (stored : records.find? target.key = some resource)
    (name : String) :
    (serve target name resource).Current records := by
  unfold serve
  cases isKey : resource.certifiedKey with
  | error reason => trivial
  | ok certified => exact ⟨resource, stored, isKey⟩

/-- What is obtained for a client is filed under the key of its target. -/
theorem key_of_site
    {target : ServingTarget}
    {name : String}
    (site : IsSite gateway serverName target name)
    (custom : target.primary = false) :
    (gateway.clientJob target name).key = target.key := by
  obtain ⟨-, rfl⟩ := site
  rw [(Gateway.of_classify_not_primary custom).2]
  exact HostName.storeKey_fold name

/-- The calls of a handshake keep it current, if its writes work. -/
theorem current_moves
    {scene : Scene}
    {number : Nat}
    {stage later : HandshakeStage}
    {call : GatewayCall}
    {answer : call.Answer}
    (fits : stage.Fits gateway serverName)
    (works : Traffic.WritesWork [.calls number call answer])
    (current : stage.Current scene.records)
    (admitted : scene.Admits call answer)
    (moves : Moves gateway stage call answer later) :
    later.Current (scene.after call answer).records := by
  cases moves with
  | validated name answer =>
      unfold validated
      cases answer with
      | none => trivial
      | some keyAuthorization =>
          simp only
          cases ValidationCertificate.make? name keyAuthorization <;> trivial
  | found target name resource =>
      have stored := Scene.find?_of_admits admitted
      unfold found
      split
      · exact current_serve stored name
      · exact stored
  | missing target name =>
      unfold missing
      split
      · trivial
      · split
        · exact nofun
        · trivial
  | dated target name resource second =>
      unfold dated
      cases Gateway.renewalRequest? target.key resource second with
      | none => exact current_serve current name
      | some request => exact current
  | launched target name resource request number => exact current_serve current name
  | @issuance target name stage call answer progress inside =>
      have isKey := key_of_site fits.1 fits.2
      match progress with
      | .on later =>
          intro resource releases
          rw [← isKey]
          exact IssuanceStage.stored_of_releasing works inside releases
      | .ended (.error reason) => trivial
      | .ended (.ok resource) =>
          refine current_serve ?_ name
          cases inside with
          | taken =>
              rw [← isKey]
              exact Scene.find?_of_admits admitted
          | released => exact current resource rfl
  | fallbackStored target name reason mock answer =>
      refine current_serve ?_ name
      rw [works number target.key mock answer (List.mem_singleton_self _)]
      simp [Scene.after, Records.put, Records.find?]
  | _ => trivial

/-- A handshake that is over, or has not begun, is about to serve nothing. -/
theorem current_of_resting
    {errand : Errand}
    {stage : HandshakeStage}
    (records : Records)
    (rests :
      (∃ result, (TaskStage.handshake stage).program gateway = .done result) ∨
        TaskStage.handshake stage = TaskStage.opening gateway errand) :
    stage.Current records := by
  rcases rests with ⟨result, ended⟩ | begins
  · rcases TaskStage.over_cases ended with ⟨resolved, same, -⟩ | ⟨swept, only, same, -⟩ | same
    · cases same
      trivial
    · cases same
    · cases same
  · cases errand with
    | resolving serverName protocols =>
        obtain rfl := TaskStage.handshake.inj begins
        unfold opening
        split
        · trivial
        · split <;> trivial
    | obtaining request =>
        rw [TaskStage.opening, TaskStage.requesting] at begins
        cases job : gateway.job? request <;> rw [job] at begins <;> cases begins
    | ensuringPrimary => cases begins
    | sweeping interval withHandshakes => cases begins

/-- A handshake that offers no validation is not answered with a staged answer. -/
def Ordinary : HandshakeStage → Prop
  | validating _ => False
  | _ => True

theorem ordinary_serve
    (target : ServingTarget)
    (name : String)
    (resource : CertificateResource) :
    (serve target name resource).Ordinary := by
  unfold serve
  cases resource.certifiedKey <;> trivial

theorem ordinary_opening
    {protocols : List String}
    (ordinary : protocols.contains validationProtocol = false)
    (serverName : Option String) :
    (opening gateway serverName protocols).Ordinary := by
  unfold opening
  split
  · trivial
  · rw [ordinary]
    trivial

theorem ordinary_moves
    {stage later : HandshakeStage}
    {call : GatewayCall}
    {answer : call.Answer}
    (moves : Moves gateway stage call answer later) :
    later.Ordinary := by
  cases moves with
  | validated name answer =>
      unfold validated
      cases answer with
      | none => trivial
      | some keyAuthorization =>
          simp only
          cases ValidationCertificate.make? name keyAuthorization <;> trivial
  | found target name resource =>
      unfold found
      split
      · exact ordinary_serve target name resource
      · trivial
  | missing target name =>
      unfold missing
      split
      · trivial
      · split <;> trivial
  | dated target name resource second =>
      unfold dated
      cases Gateway.renewalRequest? target.key resource second with
      | none => exact ordinary_serve target name resource
      | some request => trivial
  | launched target name resource request number => exact ordinary_serve target name resource
  | @issuance target name stage call answer progress inside =>
      match progress with
      | .on later => trivial
      | .ended (.ok resource) => exact ordinary_serve target name resource
      | .ended (.error reason) => trivial
  | fallbackStored target name reason mock answer => exact ordinary_serve target name mock
  | _ => trivial

end HandshakeStage

namespace TaskStage

variable {gateway : Gateway} {errand : Errand} {key : String}

/-- A task is about to drop what is ready under a key. -/
def Drops
    (key : String) :
    TaskStage → Prop
  | upkeep (.call call _) _ => call = .dropReady key
  | _ => False

theorem Drops.call_of_moves
    {stage later : TaskStage}
    {call : GatewayCall}
    {answer : call.Answer}
    (drops : stage.Drops key)
    (moves : Moves gateway stage call answer later) :
    call = .dropReady key := by
  cases moves with
  | upkeep only answer => exact drops
  | _ => exact drops.elim

theorem Drops.not_done
    {stage : TaskStage}
    {result : TaskResult}
    (drops : stage.Drops key)
    (ended : stage.program gateway = .done result) :
    False := by
  rcases over_cases ended with ⟨resolved, rfl, -⟩ | ⟨swept, only, rfl, -⟩ | rfl <;> exact drops

/-- Only a handshake goes on as a handshake. -/
theorem handshake_before
    {stage : TaskStage}
    {later : HandshakeStage}
    {call : GatewayCall}
    {answer : call.Answer}
    (moves : Moves gateway stage call answer (.handshake later)) :
    ∃ before, stage = .handshake before ∧ HandshakeStage.Moves gateway before call answer later := by
  generalize isLater : TaskStage.handshake later = after at moves
  cases moves with
  | handshake inside =>
      cases isLater
      exact ⟨_, rfl, inside⟩
  | @issuance job stage call answer progress inside => cases progress <;> cases isLater
  | primarySought answer =>
      match answer with
      | .error error => cases isLater
      | .ok (some resource) => cases isLater
      | .ok none =>
          rw [primarySought, requesting] at isLater
          cases job : gateway.job? gateway.primaryRequest <;> rw [job] at isLater <;> cases isLater
  | upkeep only answer => cases isLater

theorem not_drops_opening : ¬ (opening gateway errand).Drops key := by
  cases errand with
  | obtaining request =>
      simp only [opening, requesting]
      cases gateway.job? request <;> exact id
  | sweeping interval withHandshakes => intro drops; cases drops
  | _ => exact id

end TaskStage

namespace Traffic

variable {gateway : Gateway} {scene : Scene} {events : List TrafficEvent}

/-- A certificate is that of a record that was stored under a key at a moment
since which no record was deleted there; it is ready no longer than for its
lifetime after that moment. -/
def Vouched
    (gateway : Gateway)
    (scene : Scene)
    (events : List TrafficEvent)
    (key : String)
    (certified : CertifiedKey)
    (expiry : Nat) :
    Prop :=
  ∃ front back middle record,
    events = front ++ back ∧
      RunInTurn gateway scene front middle ∧
      middle.scene.records.find? key = some record ∧
      record.certifiedKey = .ok certified ∧
      expiry ≤ middle.scene.instant + Gateway.readyLifetime ∧
      NeverDeletedIn back key

theorem Vouched.snoc
    {key : String}
    {certified : CertifiedKey}
    {expiry : Nat}
    {event : TrafficEvent}
    (vouched : Vouched gateway scene events key certified expiry)
    (kept : NeverDeletedIn [event] key) :
    Vouched gateway scene (events ++ [event]) key certified expiry := by
  obtain ⟨front, back, middle, record, rfl, run, stored, isKey, lives, keptBefore⟩ := vouched
  refine ⟨front, back ++ [event], middle, record, List.append_assoc _ _ _, run, stored, isKey,
    lives, ?_⟩
  intro eraser name member
  rcases List.mem_append.mp member with earlier | now
  · exact keptBefore eraser name earlier
  · exact kept eraser name now

/-- Some task is about to drop what is ready under a key. -/
def DropsNext
    (traffic : Traffic TaskStage)
    (key : String) :
    Prop :=
  ∃ (number : Nat) (task : GatewayTask TaskStage) (rest : TaskStage),
    traffic.tasks[number]? = some task ∧ task.rest = some rest ∧ rest.Drops key

/-- While a task is about to drop something, it is its turn. -/
theorem DropsNext.turn
    {traffic : Traffic TaskStage}
    {key : String}
    {number : Nat}
    {call : GatewayCall}
    {answer : call.Answer}
    (drops : DropsNext traffic key)
    (run : Run gateway.stagedBehaviour (quiet scene) events traffic)
    (inTurn : InTurn events (traffic.programs gateway) (.calls number call answer))
    {later : Traffic TaskStage}
    (step : Step gateway.stagedBehaviour traffic (.calls number call answer) later) :
    call = .dropReady key := by
  obtain ⟨other, task, stage, present, left, stageDrops⟩ := drops
  by_cases same : other = number
  · subst same
    obtain ⟨acting, actingStage, next, there, actingLeft, moves, -⟩ := step.called
    cases present.symm.trans there
    cases left.symm.trans actingLeft
    exact stageDrops.call_of_moves moves
  · rcases inTurn.resting run present left same with ⟨result, ended⟩ | rfl
    · exact (stageDrops.not_done ended).elim
    · exact (TaskStage.not_drops_opening stageDrops).elim

theorem neverDeleted_or_deletes
    (event : TrafficEvent)
    (key : String) :
    NeverDeletedIn [event] key ∨
      ∃ eraser name,
        event = .calls eraser (.deleteRecord name) (.ok ()) ∧ HostName.storeKey name = key := by
  by_cases deletes : ∃ eraser name,
      event = .calls eraser (.deleteRecord name) (.ok ()) ∧ HostName.storeKey name = key
  · exact Or.inr deletes
  · refine Or.inl fun eraser name member same => deletes ⟨eraser, name, ?_, same⟩
    exact (List.mem_singleton.mp member).symm

/-- All cycles of maintenance that come see to what is ready for handshakes. -/
def SweepsReady (events : List TrafficEvent) : Prop :=
  ∀ interval withHandshakes,
    .arrives (.sweeping interval withHandshakes) ∈ events → withHandshakes = true

/-- What is about to be served is stored, and for what is ready there is a moment
at which it was stored, unless it is about to be dropped. -/
structure Fresh
    (gateway : Gateway)
    (scene : Scene)
    (events : List TrafficEvent)
    (traffic : Traffic TaskStage) :
    Prop where
  current :
    ∀ {number : Nat} {task : GatewayTask TaskStage} {stage : HandshakeStage},
      traffic.tasks[number]? = some task →
      task.rest = some (.handshake stage) →
      stage.Current traffic.scene.records
  vouched :
    ∀ {key : String} {certified : CertifiedKey} {expiry : Nat},
      traffic.scene.readyCertificates.entries.get? key = some (certified, expiry) →
      Vouched gateway scene events key certified expiry ∨ DropsNext traffic key

namespace Fresh

variable {traffic later : Traffic TaskStage} {number : Nat}
variable {call : GatewayCall} {answer : call.Answer}

/-- What a handshake keeps ready is vouched for by this very moment. -/
theorem vouched_of_kept
    {key : String}
    {certified : CertifiedKey}
    (fresh : Fresh gateway scene events traffic)
    (inTurn : RunInTurn gateway scene events (traffic.programs gateway))
    (step :
      Step gateway.stagedBehaviour traffic (.calls number (.keepReady key certified) ()) later) :
    Vouched gateway scene (events ++ [.calls number (.keepReady key certified) ()]) key certified
      (traffic.scene.instant + Gateway.readyLifetime) := by
  obtain ⟨task, stage, next, there, left, moves, -⟩ := step.called
  have current : ∃ record,
      traffic.scene.records.find? key = some record ∧ record.certifiedKey = .ok certified := by
    cases moves with
    | handshake inside =>
        cases inside with
        | kept key certified => exact fresh.current there left
        | issuance inside => cases inside
    | issuance inside => cases inside
    | upkeep only answer => exact only.allowed_next.elim
  obtain ⟨record, stored, isKey⟩ := current
  refine ⟨events, _, _, record, rfl, inTurn, stored, isKey, Nat.le_refl _, ?_⟩
  intro eraser name member
  cases List.mem_singleton.mp member

/-- When a record is deleted, what is ready under its key is dropped next. -/
theorem dropsNext_of_deleted
    {name : String}
    (run : Run gateway.stagedBehaviour (quiet scene) events traffic)
    (sweepsReady : SweepsReady events)
    (step : Step gateway.stagedBehaviour traffic (.calls number (.deleteRecord name) (.ok ())) later) :
    DropsNext later (HostName.storeKey name) := by
  obtain ⟨task, stage, next, there, left, moves, -, -, presentLater⟩ := step.called
  have sweeps : stage.SweepsAt gateway task.errand fun _ => True :=
    Run.stages (fun errand stage => stage.SweepsAt gateway errand fun _ => True)
      (fun errand => TaskStage.sweepsAt_opening trivial)
      (fun _ _ _ _ _ sweeps moves => sweeps.moves moves fun _ _ _ _ _ _ _ => trivial)
      run there left
  obtain ⟨interval, withHandshakes, before, after, only, isSweep, -, inside, rfl⟩ :=
    sweeps.deletes moves
  have given : withHandshakes = true := by
    rcases run.errand_cases there with arrived | ⟨request, isRequest⟩
    · exact sweepsReady interval withHandshakes (isSweep ▸ arrived)
    · cases isSweep.symm.trans isRequest
  subst given
  refine ⟨number, _, _, presentLater, rfl, ?_⟩
  cases inside with
  | deleted now report key others => rfl

theorem calls
    (fresh : Fresh gateway scene events traffic)
    (run : Run gateway.stagedBehaviour (quiet scene) events traffic)
    (runInTurn : RunInTurn gateway scene events (traffic.programs gateway))
    (works : WritesWork [.calls number call answer])
    (sweepsReady : SweepsReady events)
    (step : Step gateway.stagedBehaviour traffic (.calls number call answer) later)
    (inTurn : InTurn events (traffic.programs gateway) (.calls number call answer)) :
    Fresh gateway scene (events ++ [.calls number call answer]) later := by
  obtain ⟨-, -, -, -, -, -, -, sceneIs, -⟩ := step.called
  refine ⟨fun {other task stage} present left => ?current,
    fun {key certified expiry} ready => ?vouched⟩
  case current =>
    rw [sceneIs]
    cases step.change present with
    | begins _ errand =>
        exact HandshakeStage.current_of_resting _ (Or.inr (Option.some.inj left).symm)
    | moves there leftBefore moves admitted =>
        cases left
        obtain ⟨before, rfl, inside⟩ := TaskStage.handshake_before moves
        obtain ⟨serverName, protocols, -, fits⟩ := GuardsFit.fits_of_run run there leftBefore
        exact HandshakeStage.current_moves fits works (fresh.current there leftBefore) admitted
          inside
    | stays there idle =>
        have another : other ≠ number := fun same => idle (congrArg some same.symm)
        exact HandshakeStage.current_of_resting _ (inTurn.resting run there left another)
  case vouched =>
    rw [sceneIs] at ready
    rcases Scene.ready_before ready with ⟨rfl, rfl⟩ | ⟨before, notDropped⟩
    · exact Or.inl (fresh.vouched_of_kept runInTurn step)
    · rcases fresh.vouched before with vouched | drops
      · rcases neverDeleted_or_deletes (.calls number call answer) key with
          kept | ⟨eraser, name, deletes, rfl⟩
        · exact Or.inl (vouched.snoc kept)
        · cases deletes
          exact Or.inr (dropsNext_of_deleted run sweepsReady step)
      · exact (notDropped (drops.turn run inTurn step)).elim

/-- What happens without a call leaves everything fresh. -/
theorem idles
    {event : TrafficEvent}
    (fresh : Fresh gateway scene events traffic)
    (idle : event.task? = none)
    (step : Step gateway.stagedBehaviour traffic event later) :
    Fresh gateway scene (events ++ [event]) later := by
  have sameRecords : later.scene.records = traffic.scene.records ∧
      later.scene.readyCertificates = traffic.scene.readyCertificates := by
    cases step with
    | arrives errand => exact ⟨rfl, rfl⟩
    | passes milliseconds => exact ⟨rfl, rfl⟩
    | calls => cases idle
    | panics => cases idle
  refine ⟨fun {number task stage} present left => ?current,
    fun {key certified expiry} ready => ?vouched⟩
  case current =>
    rw [sameRecords.1]
    cases step.change present with
    | begins event errand =>
        exact HandshakeStage.current_of_resting _ (Or.inr (Option.some.inj left).symm)
    | moves => cases idle
    | panics => cases idle
    | stays there => exact fresh.current there left
  case vouched =>
    rw [sameRecords.2] at ready
    rcases fresh.vouched ready with vouched | ⟨number, task, rest, there, left, drops⟩
    · refine Or.inl (vouched.snoc ?_)
      intro eraser name member
      cases List.mem_singleton.mp member
      cases idle
    · have another : event.task? ≠ some number := by rw [idle]; exact nofun
      exact Or.inr ⟨number, task, rest, step.bystander there another, left, drops⟩

theorem of_run
    {traffic : Traffic (GatewayProgram TaskResult)}
    (empty : scene.readyCertificates = TimedCatalog.empty)
    (inTurn : RunInTurn gateway scene events traffic)
    (works : WritesWork events)
    (sweepsReady : SweepsReady events) :
    ∃ staged,
      Run gateway.stagedBehaviour (quiet scene) events staged ∧
        staged.programs gateway = traffic ∧
        Fresh gateway scene events staged := by
  induction inTurn with
  | nil =>
      refine ⟨quiet scene, .nil, rfl, ⟨(fun present => nomatch present),
        fun {key certified expiry} ready => ?_⟩⟩
      change scene.readyCertificates.entries.get? key = _ at ready
      rw [empty] at ready
      cases ready
  | @snoc events traffic later event before step turn inductionHypothesis =>
      obtain ⟨staged, run, rfl, fresh⟩ := inductionHypothesis works.of_append.1
        fun interval withHandshakes arrived =>
          sweepsReady interval withHandshakes (List.mem_append_left _ arrived)
      obtain ⟨laterStaged, stagedStep, rfl⟩ := step_staged step
      refine ⟨laterStaged, .snoc run stagedStep, rfl, ?_⟩
      cases event with
      | calls number call answer =>
          refine fresh.calls run before works.of_append.2 ?_ stagedStep turn
          intro interval withHandshakes arrived
          exact sweepsReady interval withHandshakes (List.mem_append_left _ arrived)
      | panics number => exact turn.elim
      | arrives errand => exact fresh.idles rfl stagedStep
      | passes milliseconds => exact fresh.idles rfl stagedStep

/-- What a handshake is served with is vouched for. -/
theorem vouched_of_served
    {stage : HandshakeStage}
    {serverName : String}
    {certified : CertifiedKey}
    (fresh : Fresh gateway scene events traffic)
    (run : Run gateway.stagedBehaviour (quiet scene) events traffic)
    (runInTurn : RunInTurn gateway scene events (traffic.programs gateway))
    (inTurn : InTurn events (traffic.programs gateway) (.calls number call answer))
    (step : Step gateway.stagedBehaviour traffic (.calls number call answer) later)
    (fits : stage.Fits gateway (some serverName))
    (ordinary : stage.Ordinary)
    (admitted : traffic.scene.Admits call answer)
    (served : HandshakeStage.Moves gateway stage call answer (.finished (.ok certified))) :
    ∃ expiry,
      traffic.scene.instant < expiry ∧
        Vouched gateway scene (events ++ [.calls number call answer])
          (gateway.classify (HostName.asked serverName)).key certified expiry := by
  have target_of_site : ∀ {target name},
      HandshakeStage.IsSite gateway (some serverName) target name →
      target = gateway.classify (HostName.asked serverName) := by
    rintro target name ⟨named, rfl⟩
    obtain ⟨asked, -⟩ := Option.filter_eq_some_iff.mp named
    rw [Option.some.inj asked]
  generalize isLater : HandshakeStage.finished (.ok certified) = after at served
  cases served with
  | ready target name found =>
      cases isLater
      cases target_of_site fits
      obtain ⟨expiry, filed, unexpired⟩ :=
        TimedCatalog.entry_of_find? (show TimedCatalog.find? _ _ _ = _ from admitted.symm)
      refine ⟨expiry, unexpired, ?_⟩
      rcases fresh.vouched filed with vouched | drops
      · refine vouched.snoc fun eraser name member => ?_
        cases List.mem_singleton.mp member
      · cases drops.turn run inTurn step
  | kept key found =>
      cases isLater
      obtain ⟨target, name, site, rfl⟩ := fits
      cases target_of_site site
      exact ⟨_, Nat.lt_add_of_pos_right (by decide), fresh.vouched_of_kept runInTurn step⟩
  | validated => exact ordinary.elim
  | found =>
      obtain ⟨_, -, isResult⟩ := HandshakeStage.of_found_eq_finished isLater.symm
      cases isResult
  | missing =>
      rcases HandshakeStage.of_missing_eq_finished isLater.symm with ⟨-, isResult⟩ | ⟨-, isResult⟩ <;>
        cases isResult
  | dated =>
      obtain ⟨_, -, isResult⟩ := HandshakeStage.of_dated_eq_finished isLater.symm
      cases isResult
  | launched | fallbackStored =>
      obtain ⟨_, -, isResult⟩ := HandshakeStage.of_serve_eq_finished isLater.symm
      cases isResult
  | issuance =>
      obtain ⟨_, _, -, -, isResult⟩ := HandshakeStage.of_proceed_eq_finished isLater.symm
      cases isResult
  | _ => cases isLater

end Fresh

/-- The stage of a handshake that offers no validation. -/
theorem ordinary_of_run
    {traffic : Traffic TaskStage}
    {number : Nat}
    {task : GatewayTask TaskStage}
    {stage : HandshakeStage}
    {serverName : Option String}
    {protocols : List String}
    (run : Run gateway.stagedBehaviour (quiet scene) events traffic)
    (present : traffic.tasks[number]? = some task)
    (left : task.rest = some (.handshake stage))
    (isHandshake : task.errand = .resolving serverName protocols)
    (ordinary : protocols.contains validationProtocol = false) :
    stage.Ordinary := by
  induction run generalizing task stage with
  | nil => cases present
  | snoc _ step inductionHypothesis =>
      cases step.change present with
      | begins event errand =>
          cases isHandshake
          cases left
          exact HandshakeStage.ordinary_opening ordinary serverName
      | moves there leftBefore moves =>
          cases left
          obtain ⟨before, -, inside⟩ := TaskStage.handshake_before moves
          exact HandshakeStage.ordinary_moves inside
      | panics there => cases left
      | stays there => exact inductionHypothesis there left isHandshake

/-- Where the certificate for a name is filed, is filed under a store key. -/
theorem storeKey_classify
    {suffix : String}
    (isPrimary : gateway.primaryDomain = .ofSuffix suffix)
    (name : String) :
    HostName.storeKey (gateway.classify name).key = (gateway.classify name).key := by
  rcases gateway.classify_cases name with same | ⟨custom, claim, claimed, authorized⟩
  · rw [same, Gateway.primaryTarget, isPrimary]
    exact PrimaryDomain.storeKey_key_ofSuffix suffix
  · rw [Gateway.classify_of_claimed custom claimed authorized]
    exact HostName.storeKey_storeKey name

/-- What a handshake has just ended with is vouched for. -/
theorem Fresh.vouched_of_ended
    {traffic later : Traffic TaskStage}
    {event : TrafficEvent}
    {number : Nat}
    {task : GatewayTask TaskStage}
    {serverName : String}
    {protocols : List String}
    {stage : TaskStage}
    {certified : CertifiedKey}
    (fresh : Fresh gateway scene events traffic)
    (run : Run gateway.stagedBehaviour (quiet scene) events traffic)
    (runInTurn : RunInTurn gateway scene events (traffic.programs gateway))
    (inTurn : InTurn events (traffic.programs gateway) event)
    (step : Step gateway.stagedBehaviour traffic event later)
    (acts : event.task? = some number)
    (present : later.tasks[number]? = some task)
    (isHandshake : task.errand = .resolving (some serverName) protocols)
    (ordinary : protocols.contains validationProtocol = false)
    (left : task.rest = some stage)
    (ended : stage.program gateway = .done (.resolved (.ok certified))) :
    ∃ expiry,
      later.scene.instant < expiry ∧
        Vouched gateway scene (events ++ [event])
          (gateway.classify (HostName.asked serverName)).key certified expiry := by
  obtain ⟨inner, rfl, -⟩ :=
    (calls_add_callsLeft_le (.snoc run step) present isHandshake).2 stage left
  cases event with
  | arrives errand => cases acts
  | passes milliseconds => cases acts
  | panics actor => exact inTurn.elim
  | calls actor call answer =>
      cases acts
      obtain ⟨acting, before, next, there, leftBefore, moves, admitted, sceneIs, presentLater⟩ :=
        step.called
      cases present.symm.trans presentLater
      cases left
      obtain ⟨before, rfl, inside⟩ := TaskStage.handshake_before moves
      obtain ⟨asked, offered, sameErrand, fits⟩ := GuardsFit.fits_of_run run there leftBefore
      cases isHandshake.symm.trans sameErrand
      rw [sceneIs, Scene.instant_after]
      rcases TaskStage.over_cases ended with ⟨resolved, done, same⟩ | ⟨swept, only, done, -⟩ | done
      · cases done
        cases same
        exact fresh.vouched_of_served run runInTurn inTurn step fits
          (ordinary_of_run run there leftBefore isHandshake ordinary) admitted inside
      · cases done
      · cases done

/-- A handshake is served with nothing that is older than a quarter of an hour.
When tasks run in turn, whatever errands come, as long as writes to the store
work and all cycles of maintenance see to what is ready, a handshake that does
not validate a name and is served with a certificate gets that of a record which
was stored under the key of its name less than a quarter of an hour before; and
since that moment nothing was deleted there.  So the moment comes after every
other one that is at least a quarter of an hour ago, and with it after every
replacement of the record by then. -/
theorem served_certificate_is_fresh
    {suffix serverName : String}
    {event : TrafficEvent}
    {later : Traffic (GatewayProgram TaskResult)}
    {number : Nat}
    {task : GatewayTask (GatewayProgram TaskResult)}
    {protocols : List String}
    {certified : CertifiedKey}
    (isPrimary : gateway.primaryDomain = .ofSuffix suffix)
    (empty : scene.readyCertificates = TimedCatalog.empty)
    (run : RunInTurn gateway scene (events ++ [event]) later)
    (works : WritesWork (events ++ [event]))
    (sweepsReady : SweepsReady (events ++ [event]))
    (acts : event.task? = some number)
    (present : later.tasks[number]? = some task)
    (isHandshake : task.errand = .resolving (some serverName) protocols)
    (ordinary : protocols.contains validationProtocol = false)
    (served : task.rest = some (.done (.resolved (.ok certified)))) :
    let key := (gateway.classify (HostName.asked serverName)).key
    ∃ front back middle record,
      events ++ [event] = front ++ back ∧
        RunInTurn gateway scene front middle ∧
        middle.scene.records.find? key = some record ∧
        record.certifiedKey = .ok certified ∧
        middle.scene.instant ≤ later.scene.instant ∧
        later.scene.instant < middle.scene.instant + Gateway.readyLifetime ∧
        NeverDeletedIn back (HostName.storeKey key) ∧
        ∀ earlier rest before,
          events ++ [event] = earlier ++ rest →
          RunInTurn gateway scene earlier before →
          before.scene.instant + Gateway.readyLifetime ≤ later.scene.instant →
          earlier <+: front := by
  intro key
  obtain ⟨traffic, runBefore, step, turn⟩ := run.last
  obtain ⟨staged, stagedRun, rfl, fresh⟩ := Fresh.of_run empty runBefore works.of_append.1
    fun interval withHandshakes arrived =>
      sweepsReady interval withHandshakes (List.mem_append_left _ arrived)
  obtain ⟨laterStaged, stagedStep, rfl⟩ := step_staged step
  obtain ⟨original, there, rfl⟩ := getElem?_map present
  obtain ⟨stage, left, ended⟩ := Option.map_eq_some_iff.mp served
  obtain ⟨expiry, unexpired, front, back, middle, record, isSplit, frontRun, stored, isKey, lives,
    kept⟩ := fresh.vouched_of_ended stagedRun runBefore turn stagedStep acts there isHandshake ordinary
      left ended
  have young : laterStaged.scene.instant < middle.scene.instant + Gateway.readyLifetime :=
    Nat.lt_of_lt_of_le unexpired lives
  refine ⟨front, back, middle, record, isSplit, frontRun, stored, isKey, ?_, young, ?_, ?_⟩
  · have laterInstant := run.run.instant_eq
    have middleInstant := frontRun.run.instant_eq
    rw [isSplit, elapsed_append] at laterInstant
    omega
  · rw [storeKey_classify isPrimary]
    exact kept
  · intro earlier rest before isOther beforeRun old
    have isEarlier : before.scene.instant < middle.scene.instant :=
      Nat.lt_of_add_lt_add_right (Nat.lt_of_le_of_lt old young)
    exact frontRun.run.prefix_of_earlier beforeRun.run (isSplit.symm.trans isOther) isEarlier

/-- A handshake obtains a certificate, and ten minutes later another one comes. -/
def tenMinutes : List TrafficEvent :=
  [arrivalEvent] ++ missEvents 0 ++ ownerEvents 0 0 lastingCertificate ++
    [keepEvent 0, .passes 600000, arrivalEvent]

/-- The second handshake finds the certificate ready, and the theorem applies. -/
theorem ready_certificate_is_fresh :
    let ready : TrafficEvent := .calls 1 (.findReady SmallGateway.blog) (some sharedKey)
    ∃ later front back middle record,
      RunInTurn SmallGateway.gateway (SmallGateway.scene Catalog.empty) (tenMinutes ++ [ready])
          later ∧
        tenMinutes ++ [ready] = front ++ back ∧
        RunInTurn SmallGateway.gateway (SmallGateway.scene Catalog.empty) front middle ∧
        middle.scene.records.find? SmallGateway.blog = some record ∧
        record.certifiedKey = .ok sharedKey ∧
        later.scene.instant < middle.scene.instant + Gateway.readyLifetime := by
  intro ready
  have replayed :
      ((replayInTurn SmallGateway.gateway [] (quiet (SmallGateway.scene Catalog.empty))
          (tenMinutes ++ [ready])).bind fun later =>
        later.tasks[1]?.bind fun task =>
          task.asked?.bind fun asked =>
            task.resolved?.map fun resolved => (asked, resolved.toOption)) =
        some (SmallGateway.blog, some sharedKey) := by
    decide +kernel
  obtain ⟨later, accepted, onwards⟩ := Option.bind_eq_some_iff.mp replayed
  obtain ⟨task, present, onwards⟩ := Option.bind_eq_some_iff.mp onwards
  obtain ⟨asked, isAsked, onwards⟩ := Option.bind_eq_some_iff.mp onwards
  obtain ⟨resolved, isResolved, same⟩ := Option.map_eq_some_iff.mp onwards
  obtain ⟨rfl, isServed⟩ := Prod.mk.inj same
  have run := runInTurn_of_replayInTurn .nil accepted
  have isHandshake := GatewayTask.errand_of_asked? isAsked
  obtain rfl : resolved = .ok sharedKey := by
    cases resolved with
    | error reason => cases isServed
    | ok certified => rw [Option.some.inj isServed]
  have served := GatewayTask.rest_of_resolved? isResolved
  have isPrimary : SmallGateway.gateway.primaryDomain = .ofSuffix "pages.example.org" := by
    decide +kernel
  have works : WritesWork (tenMinutes ++ [ready]) := by
    intro writer name record answer member
    simp only [tenMinutes, missEvents, ownerEvents, keepEvent, arrivalEvent, ready,
      List.cons_append, List.nil_append, List.mem_cons, TrafficEvent.calls.injEq, reduceCtorEq,
      false_and, and_false, GatewayCall.putRecord.injEq, List.not_mem_nil, or_false,
      false_or] at member
    obtain ⟨-, ⟨rfl, rfl⟩, same⟩ := member
    exact eq_of_heq same
  have sweepsReady : SweepsReady (tenMinutes ++ [ready]) := by
    intro interval withHandshakes arrived
    simp [tenMinutes, missEvents, ownerEvents, keepEvent, arrivalEvent, ready] at arrived
  obtain ⟨front, back, middle, record, isSplit, runFront, stored, isKey, -, young, -⟩ :=
    served_certificate_is_fresh isPrimary rfl run works sweepsReady rfl present isHandshake rfl
      served
  have target : (SmallGateway.gateway.classify (HostName.asked SmallGateway.blog)).key =
      SmallGateway.blog := by
    decide +kernel
  rw [target] at stored
  exact ⟨later, front, back, middle, record, run, isSplit, runFront, stored, isKey, young⟩

end Traffic

end OnDemandTls
