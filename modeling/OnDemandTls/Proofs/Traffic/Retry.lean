import OnDemandTls.Proofs.Traffic.IssuingOnce
import OnDemandTls.Proofs.Traffic.Progress
import OnDemandTls.Proofs.Traffic.Resting

namespace OnDemandTls

/-!
# When a failed issuance is tried again

When an issuance fails while handshakes come one by one, all tasks leave its key
alone from then on (`Traffic.Resting.of_put`), and they do so until a handshake is
told that six hours have gone by.  The first handshake that finds the record after
that begins its renewal once (`HandshakeStage.Retries`).
-/

namespace TrafficEvent

/-- Whether a task has a certificate obtained beside it in an event. -/
def isStartOf
    (number : Nat) :
    TrafficEvent → Bool
  | calls task (.startObtaining _) _ => task == number
  | _ => false

theorem isStartOf_of_idle
    {event : TrafficEvent}
    {number : Nat}
    (idle : event.task? ≠ some number) :
    event.isStartOf number = false := by
  cases event with
  | calls task call answer =>
      cases call with
      | startObtaining request => exact beq_false_of_ne fun same => idle (congrArg some same)
      | _ => rfl
  | _ => rfl

theorem isCallOf_of_isStartOf
    {event : TrafficEvent}
    {number : Nat}
    (starts : event.isStartOf number = true) :
    event.isCallOf number = true := by
  cases event with
  | calls task call answer =>
      cases call with
      | startObtaining request => exact starts
      | _ => cases starts
  | _ => cases starts

end TrafficEvent

namespace Traffic

variable {gateway : Gateway} {scene : Scene} {events : List TrafficEvent}

/-! ## Renewals that are begun -/

/-- A task has begun to obtain something once, and it was what a request asks for. -/
def StartsOnce
    (events : List TrafficEvent)
    (number : Nat)
    (request : ObtainRequest) :
    Prop :=
  events.countP (TrafficEvent.isStartOf number) = 1 ∧
    ∃ started, .calls number (.startObtaining request) started ∈ events

/-- A task with more to do than to keep a certificate ready has begun nothing. -/
theorem unstarted_of_run
    {traffic : Traffic TaskStage}
    (onlyHandshakes : OnlyHandshakes events)
    (run : Run gateway.stagedBehaviour (quiet scene) events traffic)
    {number : Nat}
    {task : GatewayTask TaskStage}
    {stage : TaskStage}
    (present : traffic.tasks[number]? = some task)
    (left : task.rest = some stage)
    (unserved : ¬ stage.Served) :
    events.countP (TrafficEvent.isStartOf number) = 0 := by
  induction run generalizing task stage with
  | nil => rfl
  | @snoc events middle later event earlier step inductionHypothesis =>
      have onlyBefore := onlyHandshakes.of_append
      cases step.change present with
      | begins event errand absent idle =>
          rw [countP_snoc, TrafficEvent.isStartOf_of_idle idle]
          have silent := List.countP_eq_zero.mp (calls_of_absent earlier absent)
          refine List.countP_eq_zero.mpr fun event member starts => ?_
          exact silent event member (TrafficEvent.isCallOf_of_isStartOf starts)
      | @moves task stageBefore next call answer there leftBefore moves =>
          cases left
          have unservedBefore : ¬ stageBefore.Served := fun served => unserved (served.moves moves).1
          rw [countP_snoc, inductionHypothesis onlyBefore there leftBefore unservedBefore]
          cases call with
          | startObtaining request =>
              exact (unserved (TaskStage.served_of_launch
                (sanctioned_stage_of_run earlier there leftBefore)
                (ne_sweeping_of_run onlyBefore earlier there) moves)).elim
          | _ => rfl
      | panics there => cases left
      | stays there idle =>
          rw [countP_snoc, TrafficEvent.isStartOf_of_idle idle]
          exact inductionHypothesis onlyBefore there left unserved

end Traffic

open Traffic

namespace HandshakeStage

/-- A handshake has found a record that is due: it is about to begin the renewal, or
has begun it once. -/
def Retries
    (events : List TrafficEvent)
    (number : Nat)
    (key : String)
    (record : CertificateResource) :
    HandshakeStage → Prop
  | dating target _ resource =>
      target.key = key ∧ resource = record ∧ events.countP (TrafficEvent.isStartOf number) = 0
  | launching _ _ _ request =>
      request = record.renewal key ∧ events.countP (TrafficEvent.isStartOf number) = 0
  | keeping _ _ | finished _ => StartsOnce events number (record.renewal key)
  | _ => False

variable {gateway : Gateway} {events : List TrafficEvent} {number : Nat} {key : String}
variable {record : CertificateResource} {stage later : HandshakeStage}

/-- Until a handshake has begun a renewal or after, others may act. -/
theorem Retries.idle
    {event : TrafficEvent}
    (retries : stage.Retries events number key record)
    (noStart : event.isStartOf number = false) :
    stage.Retries (events ++ [event]) number key record := by
  have same : (events ++ [event]).countP (TrafficEvent.isStartOf number) =
      events.countP (TrafficEvent.isStartOf number) := by
    rw [countP_snoc, noStart]
    rfl
  have once (begun : StartsOnce events number (record.renewal key)) :
      StartsOnce (events ++ [event]) number (record.renewal key) := by
    obtain ⟨count, started, member⟩ := begun
    exact ⟨same.trans count, started, List.mem_append_left _ member⟩
  cases stage with
  | dating target name resource => exact ⟨retries.1, retries.2.1, same.trans retries.2.2⟩
  | launching target name resource request => exact ⟨retries.1, same.trans retries.2⟩
  | keeping kept certified => exact once retries
  | finished result => exact once retries
  | _ => exact retries.elim

theorem retries_serve
    (begun : StartsOnce events number (record.renewal key))
    (target : ServingTarget)
    (name : String)
    (resource : CertificateResource) :
    (serve target name resource).Retries events number key record := by
  unfold serve
  cases resource.certifiedKey <;> exact begun

/-- A handshake that has found a record when it is due goes on to begin its renewal
once. -/
theorem retries_moves
    {scene : Scene}
    {deadline : Int}
    {call : GatewayCall}
    {answer : call.Answer}
    (due : record.DueFrom deadline)
    (since : deadline ≤ scene.second)
    (retries : stage.Retries events number key record)
    (admitted : scene.Admits call answer)
    (moves : Moves gateway stage call answer later) :
    later.Retries (events ++ [.calls number call answer]) number key record := by
  cases moves with
  | dated target name resource second =>
      obtain ⟨rfl, rfl, unstarted⟩ := retries
      obtain rfl : second = scene.second := admitted
      have isDue := (due scene.second).mpr since
      rw [dated, Gateway.renewalRequest?_eq_some_iff.mpr ⟨isDue, rfl⟩]
      refine ⟨rfl, ?_⟩
      rw [countP_snoc, unstarted]
      rfl
  | launched target name resource request started =>
      obtain ⟨rfl, unstarted⟩ := retries
      refine retries_serve ⟨?_, started, ?_⟩ target name resource
      · rw [countP_snoc, unstarted, Nat.zero_add]
        exact if_pos (beq_self_eq_true number)
      · exact List.mem_append_right _ (List.mem_singleton_self _)
  | kept kept certified =>
      have begun : (keeping kept certified).Retries events number key record := retries
      exact begun.idle rfl
  | _ => exact retries.elim

end HandshakeStage

namespace TaskStage

/-- Nothing keeps a handshake that has found a record which is due from its next
call. -/
theorem admitted_of_retries
    {gateway : Gateway}
    {events : List TrafficEvent}
    {number : Nat}
    {key : String}
    {record : CertificateResource}
    {stage : HandshakeStage}
    {call : GatewayCall}
    {next : call.Answer → GatewayProgram TaskResult}
    (retries : stage.Retries events number key record)
    (upcoming : (handshake stage).program gateway = .call call next)
    (scene : Scene) :
    ∃ answer, scene.Admits call answer := by
  obtain ⟨later, moves, -⟩ := moves_of_program upcoming call.someAnswer
  refine scene.exists_admitted ?_
  rintro name guardNumber rfl
  cases moves with
  | handshake inside =>
      cases inside with
      | issuance inside => exact retries.elim

end TaskStage

namespace Traffic

variable {gateway : Gateway} {scene : Scene} {events : List TrafficEvent}

/-- In all that follows a handshake that has found a record when it is due begins
its renewal once. -/
theorem retries_of_run
    {middle traffic : Traffic TaskStage}
    {front back : List TrafficEvent}
    {number : Nat}
    {task : GatewayTask TaskStage}
    {key : String}
    {record : CertificateResource}
    {deadline : Int}
    (due : record.DueFrom deadline)
    (since : deadline ≤ middle.scene.second)
    (present : middle.tasks[number]? = some task)
    (retries :
      ∀ stage,
        task.rest = some stage →
        ∃ inner, stage = .handshake inner ∧ inner.Retries front number key record)
    (run : Run gateway.stagedBehaviour middle back traffic) :
    ∃ now,
      traffic.tasks[number]? = some now ∧
        ∀ stage,
          now.rest = some stage →
          ∃ inner, stage = .handshake inner ∧ inner.Retries (front ++ back) number key record := by
  induction run with
  | nil =>
      rw [List.append_nil]
      exact ⟨task, present, retries⟩
  | @snoc back traffic later event earlier step inductionHypothesis =>
      obtain ⟨now, presentNow, retriesNow⟩ := inductionHypothesis
      have sinceNow := Int.le_trans since earlier.second_le
      obtain ⟨after, presentLater, -, retriesLater⟩ :=
        step.carry
          (fun stage _ =>
            ∃ inner, stage = TaskStage.handshake inner ∧
              inner.Retries (front ++ back ++ [event]) number key record)
          presentNow
          (fun stage left idle => by
            obtain ⟨inner, rfl, before⟩ := retriesNow stage left
            exact ⟨inner, rfl, before.idle (TrafficEvent.isStartOf_of_idle idle)⟩)
          fun stage call answer next left isEvent moves admitted => by
            obtain ⟨inner, rfl, before⟩ := retriesNow stage left
            subst isEvent
            obtain ⟨laterInner, rfl, inside⟩ := TaskStage.handshake_moves moves
            exact ⟨laterInner, rfl, HandshakeStage.retries_moves due sinceNow before admitted inside⟩
      rw [← List.append_assoc]
      exact ⟨after, presentLater, retriesLater⟩

/-! ## Failed issuances -/

/-- When a task has stored something while handshakes come one by one, all tasks
leave its key alone. -/
theorem Resting.of_put
    {traffic later : Traffic TaskStage}
    {writer : Nat}
    {name key : String}
    {record : CertificateResource}
    (served : ServedButNewest traffic)
    (step :
      Step gateway.stagedBehaviour traffic (.calls writer (.putRecord name record) (.ok ())) later)
    (isKey : HostName.storeKey name = key) :
    Resting key record later := by
  obtain ⟨writing, stage, next, writerThere, writerLeft, moves, -, sceneIs, -⟩ := step.called
  have newest := served.newest_of_moves writerThere writerLeft moves nofun
  refine ⟨?_, fun {number task rest} present left => ?_⟩
  · rw [sceneIs, ← isKey]
    change Catalog.get? (Catalog.insert _ _ _) _ = _
    rw [Catalog.get?_insert, if_pos rfl]
  · cases step.change present with
    | begins event errand absent idle begun => cases begun
    | moves there leftBefore moves =>
        cases left
        exact TaskStage.rests_of_put moves
    | stays there idle =>
        -- All tasks but the writer have at most a certificate left to keep ready.
        have within := (List.getElem?_eq_some_iff.mp there).1
        have another : number ≠ writer := fun same => idle (congrArg some same.symm)
        exact (served there left (by omega)).rests

/-- An entitled handshake that leaves its key alone finds what is stored there, and
goes on to ask for the time. -/
theorem dating_of_found
    {errand : Errand}
    {stage later : TaskStage}
    {name looked key : String}
    {claim : DomainClaim}
    {record : CertificateResource}
    {found : Option CertificateResource}
    {records : Records}
    (entitled : errand.Entitled gateway name claim)
    (isKey : HostName.storeKey name = key)
    (fits : stage.Fits gateway errand)
    (sanctioned : stage.Sanctioned gateway errand)
    (rests : stage.Rests key record)
    (stored : records.get? key = some record)
    (read : records.find? looked = found)
    (moves : TaskStage.Moves gateway stage (.findRecord looked) (.ok found) later) :
    found = some record ∧
      ¬ stage.Served ∧
      later = .handshake (.dating (Gateway.customTarget name claim) name record) := by
  obtain ⟨serverName, protocols, rfl, asks, -⟩ := entitled.asks
  have site : ∀ {target other},
      HandshakeStage.IsSite gateway (some serverName) target other →
      other = name ∧ target = Gateway.customTarget name claim := by
    rintro target other ⟨named, rfl⟩
    obtain ⟨same, -⟩ := Option.filter_eq_some_iff.mp named
    obtain rfl : name = other := asks.symm.trans (Option.some.inj same)
    exact ⟨rfl, Gateway.classify_of_claimed entitled.custom entitled.claimed entitled.authorized⟩
  have readKey : records.find? (HostName.storeKey name) = some record := by
    rw [Records.find?, HostName.storeKey_storeKey, isKey, stored]
  cases moves with
  | handshake inside =>
      obtain ⟨otherName, otherProtocols, same, fitsInside⟩ := fits
      cases same
      cases inside with
      | found target other resource =>
          obtain ⟨rfl, rfl⟩ := site fitsInside
          cases readKey.symm.trans read
          exact ⟨rfl, id, rfl⟩
      | missing target other =>
          obtain ⟨rfl, rfl⟩ := site fitsInside
          cases readKey.symm.trans read
      | @issuance target other stage _ _ progress inside =>
          obtain ⟨rfl, rfl⟩ := site fitsInside.1
          rcases rests with ⟨resource, rfl⟩ | another
          · cases inside
          · exact (another isKey).elim
  | issuance inside => exact (sanctioned.1 serverName protocols rfl).elim
  | primarySought answer => cases fits
  | upkeep only answer => exact rests.elim

/-- In all that follows nothing keeps a task from its next call, and once it has
come to its end it has begun, and begun once, what a request asks for. -/
def RetriesOnce
    (gateway : Gateway)
    (events : List TrafficEvent)
    (traffic : Traffic (GatewayProgram TaskResult))
    (number : Nat)
    (request : ObtainRequest) :
    Prop :=
  ∀ rest final,
    Run gateway.behaviour traffic rest final →
    ∃ now,
      final.tasks[number]? = some now ∧
        (∀ call next,
          now.rest = some (.call call next) → ∃ answer, final.scene.Admits call answer) ∧
        ∀ result, now.rest = some (.done result) → StartsOnce (events ++ rest) number request

/-- An entitled handshake that finds the record when it is due begins its renewal
once. -/
theorem Resting.retriesOnce
    {traffic later : Traffic TaskStage}
    {number : Nat}
    {task : GatewayTask TaskStage}
    {name looked key : String}
    {claim : DomainClaim}
    {record : CertificateResource}
    {found : Option CertificateResource}
    {deadline : Int}
    (due : record.DueFrom deadline)
    (onlyHandshakes : OnlyHandshakes events)
    (run : Run gateway.stagedBehaviour (quiet scene) events traffic)
    (resting : Resting key record traffic)
    (present : traffic.tasks[number]? = some task)
    (entitled : task.errand.Entitled gateway name claim)
    (isKey : HostName.storeKey name = key)
    (since : deadline ≤ traffic.scene.second)
    (step :
      Step gateway.stagedBehaviour traffic (.calls number (.findRecord looked) (.ok found)) later) :
    found = some record ∧
      RetriesOnce gateway (events ++ [.calls number (.findRecord looked) (.ok found)])
        (later.programs gateway) number (record.renewal key) := by
  obtain ⟨acting, stage, next, there, left, moves, admitted, -, presentLater⟩ := step.called
  cases present.symm.trans there
  obtain ⟨isFound, unserved, rfl⟩ :=
    dating_of_found entitled isKey (GuardsFit.fits_of_run run present left)
      (sanctioned_stage_of_run run present left) (resting.tasks present left) resting.stored
      (Scene.find?_of_admits admitted) moves
  refine ⟨isFound, fun rest final finalRun => ?_⟩
  have unstarted :
      (events ++ [TrafficEvent.calls number (.findRecord looked) (.ok found)]).countP
        (TrafficEvent.isStartOf number) = 0 := by
    rw [countP_snoc, unstarted_of_run onlyHandshakes run present left unserved]
    rfl
  obtain ⟨staged, stagedRun, rfl⟩ := run_staged_from later finalRun
  obtain ⟨now, presentNow, retries⟩ :=
    retries_of_run due (Int.le_trans since step.second_le) presentLater
      (fun rest isRest => by
        cases isRest
        exact ⟨_, rfl, isKey, rfl, unstarted⟩)
      stagedRun
  refine ⟨now.map (TaskStage.program gateway), getElem?_programs presentNow,
    fun call after isNext => ?_, fun result isOver => ?_⟩
  · obtain ⟨stage, stageLeft, upcoming⟩ := Option.map_eq_some_iff.mp isNext
    obtain ⟨inner, rfl, retriesNow⟩ := retries stage stageLeft
    exact TaskStage.admitted_of_retries retriesNow upcoming _
  · obtain ⟨stage, stageLeft, ended⟩ := Option.map_eq_some_iff.mp isOver
    obtain ⟨inner, rfl, retriesNow⟩ := retries stage stageLeft
    rcases TaskStage.over_cases ended with ⟨resolved, same, -⟩ | ⟨swept, only, same, -⟩ | same
    · cases same
      exact retriesNow
    · cases same
    · cases same

theorem Asleep.staged
    {traffic : Traffic TaskStage}
    {key : String}
    {deadline : Int}
    (asleep : Asleep gateway key deadline events (traffic.programs gateway)) :
    Asleep gateway key deadline events traffic := by
  intro number task name claim second present entitled isKey told
  exact asleep (getElem?_programs present) entitled isKey told

/-- A failed issuance is left alone for six hours, and then tried again.  Handshakes
come one by one, with any store, any authorities and budgets, until a handshake or a
renewal that one has launched stores under a key what no authority has given it; the
second that it was told last is when its issuance failed.  Whatever handshakes come
after that, also side by side, nobody does anything for the key before six hours have
gone by, but that the lock is released: nobody claims it or waits for it, takes a
token, asks an authority, stores or deletes anything or launches a renewal.  A
handshake for a name with that key that looks for a record after that finds the one
that was stored, and if no such handshake was told before that the six hours have
gone by, it begins the renewal of the record, and begins it once. -/
theorem failed_issuance_rests_until_retry
    {front : List TrafficEvent}
    {middle : Traffic (GatewayProgram TaskResult)}
    {writer : Nat}
    {written : String}
    {record : CertificateResource}
    (oneByOne :
      RunOneByOne gateway scene (front ++ [.calls writer (.putRecord written record) (.ok ())])
        middle)
    (unissued : ¬ IssuedTo front writer record) :
    ∃ failed,
      lastTold? front writer = some failed ∧
        ∀ back before,
          OnlyHandshakes back →
          Run gateway.behaviour middle back before →
          (∀ number task call answer after,
            before.tasks[number]? = some task →
            Step gateway.behaviour before (.calls number call answer) after →
            call.Acts →
            (∀ name, call ≠ .release name) →
            call.key? gateway task.errand = some (HostName.storeKey written) →
            failed + CertificateResource.retryBackoff ≤ before.scene.second) ∧
          (Asleep gateway (HostName.storeKey written) (failed + CertificateResource.retryBackoff)
              back before →
            ∀ number task name claim looked found after,
              before.tasks[number]? = some task →
              task.errand.Entitled gateway name claim →
              HostName.storeKey name = HostName.storeKey written →
              failed + CertificateResource.retryBackoff ≤ before.scene.second →
              Step gateway.behaviour before (.calls number (.findRecord looked) (.ok found)) after →
              found = some record ∧
                RetriesOnce gateway
                  (front ++ [.calls writer (.putRecord written record) (.ok ())] ++ back ++
                    [TrafficEvent.calls number (.findRecord looked) (.ok found)])
                  after number (record.renewal (HostName.storeKey written))) := by
  generalize isKey : HostName.storeKey written = key
  obtain ⟨traffic, earlier, step⟩ := oneByOne.last
  obtain ⟨staged, stagedRun, rfl, served⟩ := earlier.served
  obtain ⟨stagedMiddle, stagedStep, rfl⟩ := step_staged step
  obtain ⟨failed, told, due⟩ :=
    dueAfter_of_put earlier.onlyHandshakes stagedRun stagedStep unissued
  have resting : Resting key record stagedMiddle := .of_put served stagedStep isKey
  refine ⟨failed, told, fun back before onlyHandshakes run => ?_⟩
  obtain ⟨stagedBefore, stagedBack, rfl⟩ := run_staged_from stagedMiddle run
  have whole := (Run.snoc stagedRun stagedStep).append stagedBack
  have asleepRests (asleep : Asleep gateway key (failed + CertificateResource.retryBackoff) back
      stagedBefore) : Resting key record stagedBefore :=
    .of_run due (.snoc stagedRun stagedStep) resting onlyHandshakes stagedBack asleep
  refine ⟨?alone, fun asleep => ?retried⟩
  case alone =>
    intro number task call answer after present stepNow acts keepsLock sameKey
    refine Int.not_lt.mp fun early => ?_
    have asleep : Asleep gateway key (failed + CertificateResource.retryBackoff) back stagedBefore :=
      fun _ _ _ told => Int.lt_of_le_of_lt (stagedBack.second_le_of_clock told) early
    obtain ⟨stagedAfter, stagedNow, rfl⟩ := step_staged stepNow
    obtain ⟨original, there, another⟩ :=
      (asleepRests asleep).key?_ne whole stagedNow acts keepsLock
    obtain ⟨same, thereToo, rfl⟩ := getElem?_map present
    cases there.symm.trans thereToo
    exact another sameKey
  case retried =>
    intro number task name claim looked found after present entitled sameKey since stepNow
    obtain ⟨stagedAfter, stagedNow, rfl⟩ := step_staged stepNow
    obtain ⟨original, there, rfl⟩ := getElem?_map present
    have allHandshakes := oneByOne.onlyHandshakes.append onlyHandshakes
    exact (asleepRests asleep.staged).retriesOnce due allHandshakes whole there entitled sameKey
      since stagedNow

/-- A custom domain that is a wildcard name. -/
def shopWildcard : String := "*.shop.example.com"

/-- The store key of the wildcard name, which is a custom domain itself. -/
def shopKey : String := ".shop.example.com"

/-- The claim to both names. -/
def shopClaim : DomainClaim where
  owner := "alice"
  repo := "pages"
  branch := "pages"
  authorized := true

/-- A gateway for two custom domains that share a store key. -/
def shopGateway : Gateway :=
  { SmallGateway.gateway with
    authority := fun name =>
      if name = shopWildcard || name = shopKey then some shopClaim else none }

/-- A scene with one certificate, which is due. -/
def shopScene : Scene :=
  SmallGateway.scene (Catalog.empty.insert shopKey shortCertificate)

/-- A handshake that misses what is ready. -/
def shopArrival
    (number : Nat)
    (name : String) :
    List TrafficEvent :=
  [ .arrives (.resolving (some name) [])
  , .calls number (.findReady shopKey) (none : Option CertifiedKey) ]

/-- What a handshake finds, and when. -/
def shopFinds
    (number : Nat)
    (found : CertificateResource)
    (second : Int) :
    List TrafficEvent :=
  [ .calls number (.findRecord shopKey) (.ok (some found))
  , .calls number .clock second ]

/-- A handshake launches the renewal of what it has found, and serves it. -/
def shopLaunches
    (number : Nat)
    (found : CertificateResource) :
    List TrafficEvent :=
  [ .calls number (.startObtaining (found.renewal shopKey)) (number + 1)
  , .calls number (.keepReady shopKey sharedKey) () ]

/-- A renewal is refused. -/
def shopRefusal
    (number guardNumber : Nat)
    (second : Int) :
    List TrafficEvent :=
  [ .calls number (.claim shopKey) (.owner guardNumber)
  , .calls number (.spend .request) ()
  , .calls number (.renew .general shortCertificate) (.error (.generation "refused"))
  , .calls number (.spend .failure) ()
  , .calls number (.spend .order) ()
  , .calls number (.spend .request) ()
  , .calls number (.order .general [shopKey]) (.error (.generation "refused"))
  , .calls number .clock second ]

/-- The certificate is stored with its mark. -/
def shopMark
    (number : Nat)
    (second : Int) :
    TrafficEvent :=
  .calls number (.putRecord shopKey (shortCertificate.stamped second)) (.ok ())

/-- A handshake for the wildcard name launches a renewal, which is refused. -/
def shopFailure : List TrafficEvent :=
  shopArrival 0 shopWildcard ++ shopFinds 0 shortCertificate 1700000000 ++
    shopLaunches 0 shortCertificate ++ shopRefusal 1 0 1700000000

/-- Six hours go by after a renewal that was refused. -/
def shopPause (number : Nat) : List TrafficEvent :=
  [.calls number (.release shopKey) (), .passes 21600000]

theorem shopFailure_fails :
    ¬ IssuedTo shopFailure 1 (shortCertificate.stamped 1700000000) ∧
      lastTold? shopFailure 1 = some 1700000000 := by
  refine ⟨?_, by decide +kernel⟩
  rintro (⟨role, previous, member⟩ | ⟨role, domains, member⟩) <;>
    simp [shopFailure, shopArrival, shopFinds, shopLaunches, shopRefusal] at member

theorem entitled_shopWildcard :
    (Errand.resolving (some shopWildcard) []).Entitled shopGateway shopWildcard shopClaim :=
  ⟨⟨shopWildcard, [], rfl, by decide +kernel, rfl⟩, by decide, by decide +kernel, by decide +kernel,
    rfl⟩

/-- Six hours after a refused renewal a handshake finds the marked certificate and
begins its renewal once, and the theorem applies. -/
theorem marked_certificate_is_retried_once :
    let marked := shortCertificate.stamped 1700000000
    let failure := shopFailure ++ [shopMark 1 1700000000]
    let back := shopPause 1 ++ shopArrival 2 shopWildcard
    let lookup : TrafficEvent := .calls 2 (.findRecord shopKey) (.ok (some marked))
    let rest := .calls 2 .clock 1700021600 :: shopLaunches 2 marked
    ∃ middle before after final now result,
      RunOneByOne shopGateway shopScene failure middle ∧
        Run shopGateway.behaviour middle back before ∧
        Step shopGateway.behaviour before lookup after ∧
        Run shopGateway.behaviour after rest final ∧
        final.tasks[2]? = some now ∧
        now.rest = some (.done result) ∧
        StartsOnce (failure ++ back ++ [lookup] ++ rest) 2 (marked.renewal shopKey) := by
  intro marked failure back lookup rest
  have replayed :
      ((replayOneByOne shopGateway (quiet shopScene) failure).bind fun middle =>
        (replay shopGateway middle back).bind fun before =>
          (replayEvent shopGateway before lookup).bind fun after =>
            (replay shopGateway after rest).bind fun final =>
              before.tasks[2]?.bind fun task =>
                task.asked?.bind fun asked =>
                  final.tasks[2]?.bind fun now =>
                    now.resolved?.map fun _ => (asked, before.scene.second)) =
        some (shopWildcard, (1700021600 : Int)) := by
    decide +kernel
  obtain ⟨middle, accepted, onwards⟩ := Option.bind_eq_some_iff.mp replayed
  obtain ⟨before, acceptedBack, onwards⟩ := Option.bind_eq_some_iff.mp onwards
  obtain ⟨after, acceptedLookup, onwards⟩ := Option.bind_eq_some_iff.mp onwards
  obtain ⟨final, acceptedRest, onwards⟩ := Option.bind_eq_some_iff.mp onwards
  obtain ⟨task, present, onwards⟩ := Option.bind_eq_some_iff.mp onwards
  obtain ⟨asked, isAsked, onwards⟩ := Option.bind_eq_some_iff.mp onwards
  obtain ⟨now, presentNow, onwards⟩ := Option.bind_eq_some_iff.mp onwards
  obtain ⟨resolved, isResolved, same⟩ := Option.map_eq_some_iff.mp onwards
  obtain ⟨rfl, atSecond⟩ := Prod.mk.inj same
  have isOver := GatewayTask.rest_of_resolved? isResolved
  have oneByOne : RunOneByOne shopGateway shopScene ([] ++ failure) middle :=
    runOneByOne_of_replayOneByOne .nil accepted
  have backRun : Run shopGateway.behaviour middle ([] ++ back) before :=
    run_of_replay .nil acceptedBack
  have step := step_of_replayEvent acceptedLookup
  have restRun : Run shopGateway.behaviour after ([] ++ rest) final :=
    run_of_replay .nil acceptedRest
  have entitled : task.errand.Entitled shopGateway shopWildcard shopClaim := by
    rw [GatewayTask.errand_of_asked? isAsked]
    exact entitled_shopWildcard
  have sameKey : HostName.storeKey shopWildcard = HostName.storeKey shopKey := by decide +kernel
  have isKey : HostName.storeKey shopKey = shopKey := by decide +kernel
  have onlyHandshakes : OnlyHandshakes back := by
    intro errand arrived
    exact ⟨some shopWildcard, [], by simpa [back, shopPause, shopArrival] using arrived⟩
  obtain ⟨unissued, isTold⟩ := shopFailure_fails
  obtain ⟨failed, told, afterwards⟩ := failed_issuance_rests_until_retry oneByOne unissued
  obtain rfl : failed = 1700000000 := Option.some.inj (told.symm.trans isTold)
  have asleep : Asleep shopGateway (HostName.storeKey shopKey)
      (1700000000 + CertificateResource.retryBackoff) back before := by
    intro number other name claim second _ _ _ asked
    simp [back, shopPause, shopArrival] at asked
  have since : 1700000000 + CertificateResource.retryBackoff ≤ before.scene.second := by
    rw [atSecond]
    decide
  obtain ⟨-, retries⟩ := (afterwards back before onlyHandshakes backRun).2 asleep 2 task
    shopWildcard shopClaim shopKey (some marked) after present entitled sameKey since step
  obtain ⟨alsoNow, presentToo, -, once⟩ := retries rest final restRun
  cases presentNow.symm.trans presentToo
  rw [isKey] at once
  exact ⟨middle, before, after, final, now, _, oneByOne, backRun, step, restRun, presentNow,
    isOver, once _ isOver⟩

/-- Whether events are those of a run to which handshakes for the shop come one by
one, in which all tasks have ended at some second. -/
def endsShop
    (events : List TrafficEvent)
    (second : Int) :
    Bool :=
  (replayOneByOne shopGateway (quiet shopScene) events).any fun traffic =>
    traffic.tasks.all GatewayTask.hasEnded && traffic.scene.second == second

theorem runOneByOne_of_endsShop
    {events : List TrafficEvent}
    {second : Int}
    (accepted : endsShop events second = true) :
    ∃ traffic,
      RunOneByOne shopGateway shopScene events traffic ∧
        (∀ task ∈ traffic.tasks, task.Ended) ∧
        traffic.scene.second = second := by
  obtain ⟨traffic, replayed, ends⟩ := (Option.any_eq_true _ _).mp accepted
  obtain ⟨ended, atSecond⟩ := Bool.and_eq_true_iff.mp ends
  have run : RunOneByOne shopGateway shopScene ([] ++ events) traffic :=
    runOneByOne_of_replayOneByOne .nil replayed
  refine ⟨traffic, run, fun task member => ?_, eq_of_beq atSecond⟩
  exact GatewayTask.ended_of_hasEnded (List.all_eq_true.mp ended task member)

/-- Six hours after a refused renewal a handshake for the name misses what is ready
and begins no renewal: if it cannot read the store, or if a handshake for another
name with the same key has come before it, whose renewal was refused as well. -/
theorem retry_is_not_begun :
    let failure := shopFailure ++ [shopMark 1 1700000000]
    let unreadable :=
      failure ++ shopPause 1 ++ shopArrival 2 shopWildcard ++
        [.calls 2 (.findRecord shopKey) (.error .closed)]
    let shared :=
      failure ++ shopPause 1 ++
        shopArrival 2 shopKey ++ shopFinds 2 (shortCertificate.stamped 1700000000) 1700021600 ++
        shopLaunches 2 (shortCertificate.stamped 1700000000) ++ shopRefusal 3 1 1700021600 ++
        [shopMark 3 1700021600, .calls 3 (.release shopKey) (), .passes 900000] ++
        shopArrival 4 shopWildcard ++
        shopFinds 4 (shortCertificate.stamped 1700021600) 1700022500 ++
        [.calls 4 (.keepReady shopKey sharedKey) ()]
    (Errand.resolving (some shopWildcard) []).Entitled shopGateway shopWildcard shopClaim ∧
      ¬ IssuedTo shopFailure 1 (shortCertificate.stamped 1700000000) ∧
      lastTold? shopFailure 1 = some 1700000000 ∧
      (∃ traffic,
        RunOneByOne shopGateway shopScene unreadable traffic ∧
          (∀ task ∈ traffic.tasks, task.Ended) ∧
          traffic.scene.second = 1700000000 + CertificateResource.retryBackoff ∧
          unreadable.countP (TrafficEvent.isStartOf 2) = 0) ∧
      ∃ traffic,
        RunOneByOne shopGateway shopScene shared traffic ∧
          (∀ task ∈ traffic.tasks, task.Ended) ∧
          traffic.scene.second = 1700000000 + CertificateResource.retryBackoff + 900 ∧
          shared.countP (TrafficEvent.isStartOf 4) = 0 := by
  intro failure unreadable shared
  obtain ⟨unissued, told⟩ := shopFailure_fails
  have unreadableAccepted : endsShop unreadable 1700021600 = true := by decide +kernel
  have sharedAccepted : endsShop shared 1700022500 = true := by decide +kernel
  obtain ⟨missed, missedRun, missedEnded, missedSecond⟩ :=
    runOneByOne_of_endsShop unreadableAccepted
  obtain ⟨traffic, run, ended, atSecond⟩ := runOneByOne_of_endsShop sharedAccepted
  exact ⟨entitled_shopWildcard, unissued, told,
    ⟨missed, missedRun, missedEnded, missedSecond, by decide +kernel⟩,
    traffic, run, ended, atSecond, by decide +kernel⟩

end Traffic

end OnDemandTls
