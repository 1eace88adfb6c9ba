import OnDemandTls.Proofs.Traffic.Progress
import OnDemandTls.Proofs.Traffic.Replay
import OnDemandTls.Proofs.Traffic.SmoothHandshakes

namespace OnDemandTls

/-!
# Issuing once

However many handshakes for one custom domain come at the same time, the first
of them to become the owner of the name has the certificate issued, and the
others wait for it, find it stored or find it ready.  Who has waited for an owner
looks for a record again, but who becomes the owner does not: a handshake that
looked before the first record was stored and becomes the owner afterwards has
another certificate issued.  There are no other reasons to ask an authority again.
-/

namespace GatewayTask

/-- A handshake has ended with the key of a certificate. -/
def ServedWith
    (task : GatewayTask (GatewayProgram TaskResult))
    (issued : CertificateResource) :
    Prop :=
  ∃ certified,
    issued.certifiedKey = .ok certified ∧
      task.rest = some (.done (.resolved (.ok certified)))

/-- Whether a task has become the owner of its name for a handshake and has yet
to ask the authority. -/
def owes (task : GatewayTask TaskStage) : Bool :=
  match task.rest with
  | some (.handshake stage) => stage.owes
  | _ => false

theorem owes_of_handshake
    {task : GatewayTask TaskStage}
    {stage : HandshakeStage}
    (left : task.rest = some (.handshake stage)) :
    task.owes = stage.owes := by
  rw [owes, left]

end GatewayTask

namespace TrafficEvent

theorem isCallOf_of_claims
    {event : TrafficEvent}
    {number : Nat}
    (claims : event.claims number = true) :
    event.isCallOf number = true := by
  unfold TrafficEvent.claims at claims
  split at claims
  · exact claims
  · cases claims

end TrafficEvent

namespace Traffic

/-- Tasks that are not there have claimed nothing. -/
theorem unclaimed_of_absent
    {gateway : Gateway}
    {scene : Scene}
    {events : List TrafficEvent}
    {traffic : Traffic TaskStage}
    {number : Nat}
    (run : Run gateway.stagedBehaviour (quiet scene) events traffic)
    (absent : traffic.tasks.length ≤ number) :
    hasClaimed events number = false := by
  have silent := List.countP_eq_zero.mp (calls_of_absent run (List.getElem?_eq_none absent))
  refine List.any_eq_false.mpr fun event member claims => ?_
  exact silent event member (TrafficEvent.isCallOf_of_claims claims)

/-- How many tasks have a property after a call. -/
theorem Step.countP_calls
    {ρ : Type}
    {behaviour : Behaviour ρ}
    {traffic later : Traffic ρ}
    {number : Nat}
    {call : GatewayCall}
    {answer : call.Answer}
    {task now : GatewayTask ρ}
    (has : GatewayTask ρ → Bool)
    (step : Step behaviour traffic (.calls number call answer) later)
    (alone : launched call = [])
    (there : traffic.tasks[number]? = some task)
    (present : later.tasks[number]? = some now) :
    later.tasks.countP has + (if has task then 1 else 0) =
      traffic.tasks.countP has + (if has now then 1 else 0) := by
  cases step with
  | calls _ left moves admitted =>
      obtain ⟨inside, isTask⟩ := List.getElem?_eq_some_iff.mp there
      rw [alone, List.map_nil, List.append_nil] at present ⊢
      rw [List.getElem?_set_self inside] at present
      cases present
      have counted := List.boole_getElem_le_countP (p := has) inside
      rw [List.countP_set inside]
      rw [isTask] at counted ⊢
      omega

/-- How far a smooth run has come: its tasks are on course, and the owners of the
name are those who have asked the authority and those who are about to. -/
structure Underway
    (gateway : Gateway)
    (name : String)
    (firstGuard : Nat)
    (events : List TrafficEvent)
    (traffic : Traffic TaskStage) :
    Prop where
  ledger : Ledger (HostName.storeKey name) firstGuard events traffic.scene
  course :
    ∀ {number : Nat} {task : GatewayTask TaskStage},
      traffic.tasks[number]? = some task →
      ∃ stage,
        task.rest = some (.handshake stage) ∧ stage.OnCourse gateway name firstGuard events number
  balance :
    events.countP TrafficEvent.asks + traffic.tasks.countP GatewayTask.owes =
      events.countP TrafficEvent.grants

namespace Underway

variable {gateway : Gateway} {name : String} {firstGuard number : Nat}
variable {events : List TrafficEvent} {traffic later : Traffic TaskStage}
variable {call : GatewayCall} {answer : call.Answer}

/-- A call of a task is the call of a smooth handshake. -/
theorem advances
    {task : GatewayTask TaskStage}
    {stage next : TaskStage}
    (issues : gateway.IssuesFor name)
    (canAsk : gateway.CanAskFor name)
    (underway : Underway gateway name firstGuard events traffic)
    (fits : GuardsFit gateway traffic)
    (smooth : Smooth name (events ++ [.calls number call answer]))
    (lasting : Lasting (events ++ [.calls number call answer]))
    (there : traffic.tasks[number]? = some task)
    (left : task.rest = some stage)
    (moves : TaskStage.Moves gateway stage call answer next)
    (admitted : traffic.scene.Admits call answer) :
    ∃ inner laterInner,
      stage = .handshake inner ∧
        next = .handshake laterInner ∧
        Advances gateway name firstGuard events traffic.scene inner number call answer
          laterInner := by
  obtain ⟨inner, isHandshake, course⟩ := underway.course there
  cases left.symm.trans isHandshake
  obtain ⟨laterInner, rfl, inside⟩ := TaskStage.handshake_moves moves
  refine ⟨inner, laterInner, rfl, rfl, ?_⟩
  exact .of_moves issues canAsk smooth lasting underway.ledger course
    (fits.held_of_owned there left) inside admitted

/-- A smooth run stays on course with every call. -/
theorem calls
    (issues : gateway.IssuesFor name)
    (canAsk : gateway.CanAskFor name)
    (underway : Underway gateway name firstGuard events traffic)
    (fits : GuardsFit gateway traffic)
    (smooth : Smooth name (events ++ [.calls number call answer]))
    (lasting : Lasting (events ++ [.calls number call answer]))
    (step : Step gateway.stagedBehaviour traffic (.calls number call answer) later) :
    Underway gateway name firstGuard (events ++ [.calls number call answer]) later := by
  obtain ⟨task, stage, next, there, left, moves, admitted, sceneIs, present⟩ := step.called
  obtain ⟨inner, laterInner, rfl, rfl, advances⟩ :=
    underway.advances issues canAsk fits smooth lasting there left moves admitted
  refine ⟨?ledger, ?course, ?balance⟩
  case ledger =>
    rw [sceneIs]
    exact advances.ledger
  case course =>
    intro other otherTask otherPresent
    cases acts : decide (other = number) with
    | true =>
        cases of_decide_eq_true acts
        cases present.symm.trans otherPresent
        exact ⟨laterInner, rfl, advances.course⟩
    | false =>
        cases step.change otherPresent with
        | begins event errand absent idle begun =>
            rw [TrafficEvent.begun, advances.alone] at begun
            cases begun
        | moves => exact (of_decide_eq_false acts rfl).elim
        | stays before idle =>
            obtain ⟨otherStage, isHandshake, course⟩ := underway.course before
            exact ⟨otherStage, isHandshake, course.snoc idle⟩
  case balance =>
    have owing := step.countP_calls GatewayTask.owes advances.alone there present
    have paid := advances.balance
    have before := underway.balance
    rw [GatewayTask.owes_of_handshake left, GatewayTask.owes_of_handshake rfl] at owing
    rw [countP_snoc, countP_snoc]
    omega

/-- A smooth run stays on course when another handshake comes. -/
theorem arrives
    {scene : Scene}
    {errand : Errand}
    (issues : gateway.IssuesFor name)
    (underway : Underway gateway name firstGuard events traffic)
    (run : Run gateway.stagedBehaviour (quiet scene) events traffic)
    (isHandshake : errand.IsHandshakeFor name)
    (step : Step gateway.stagedBehaviour traffic (.arrives errand) later) :
    Underway gateway name firstGuard (events ++ [.arrives errand]) later := by
  obtain ⟨serverName, protocols, rfl⟩ :
      ∃ serverName protocols, errand = .resolving serverName protocols := by
    cases errand with
    | resolving serverName protocols => exact ⟨serverName, protocols, rfl⟩
    | _ => exact isHandshake.elim
  cases step with
  | arrives errand =>
      refine ⟨underway.ledger.idle rfl rfl, ?course, ?balance⟩
      case course =>
        intro other otherTask otherPresent
        change (traffic.tasks ++ [Errand.resolving serverName protocols].map
          (newTask gateway.stagedBehaviour))[other]? = some otherTask at otherPresent
        rcases getElem?_append_newTasks otherPresent with old | ⟨new, begun, member, rfl⟩
        · obtain ⟨stage, isStage, course⟩ := underway.course old
          exact ⟨stage, isStage, course.snoc nofun⟩
        · cases List.mem_singleton.mp member
          have unclaimed :
              hasClaimed (events ++ [.arrives (.resolving serverName protocols)]) other = false :=
            (any_snoc rfl).trans (unclaimed_of_absent run new)
          exact ⟨_, rfl, (HandshakeStage.onCourse_opening issues isHandshake _ unclaimed).1⟩
      case balance =>
        have unclaimed : hasClaimed [] 0 = false := rfl
        have opens := (HandshakeStage.onCourse_opening issues isHandshake firstGuard unclaimed).2
        have settled :
            GatewayTask.owes
              (newTask gateway.stagedBehaviour (.resolving serverName protocols)) = false :=
          opens
        rw [countP_snoc, countP_snoc, List.countP_append, List.countP_singleton, settled]
        exact underway.balance

/-- A smooth run is on course all the time. -/
theorem of_run
    {scene : Scene}
    (issues : gateway.IssuesFor name)
    (canAsk : gateway.CanAskFor name)
    (free : scene.locks.isEmpty = true)
    (nothingStored : scene.records.find? name = none)
    (nothingReady :
      scene.readyCertificates.find? (HostName.storeKey name) scene.instant = none)
    (run : Run gateway.stagedBehaviour (quiet scene) events traffic)
    (smooth : Smooth name events)
    (lasting : Lasting events) :
    Underway gateway name scene.locks.nextGuard events traffic := by
  induction run with
  | nil => exact ⟨.opening free nothingStored nothingReady, nofun, rfl⟩
  | @snoc events traffic later event run step inductionHypothesis =>
      have underway := inductionHypothesis smooth.front lasting.front
      have now : event ∈ events ++ [event] :=
        List.mem_append_right _ (List.mem_singleton_self event)
      cases event with
      | arrives errand => exact underway.arrives issues run (smooth.arrivals errand now) step
      | calls number call answer =>
          exact underway.calls issues canAsk (.of_run free run) smooth lasting step
      | panics number => exact (smooth.unbroken number now).elim
      | passes milliseconds =>
          cases step with
          | passes milliseconds =>
              refine ⟨underway.ledger.passed milliseconds, ?_, ?_⟩
              · intro number task present
                obtain ⟨stage, isStage, course⟩ := underway.course present
                exact ⟨stage, isStage, course.snoc nofun⟩
              · rw [countP_snoc, countP_snoc]
                exact underway.balance

end Underway

namespace Underway

variable {gateway : Gateway} {name : String} {firstGuard : Nat}
variable {events : List TrafficEvent} {traffic : Traffic TaskStage}

/-- The tasks of a smooth run that have ended are over, with the key of a
certificate that was issued. -/
theorem over_of_ended
    (underway : Underway gateway name firstGuard events traffic)
    (ended : ∀ task ∈ (traffic.programs gateway).tasks, task.Ended)
    {number : Nat}
    {task : GatewayTask TaskStage}
    (present : traffic.tasks[number]? = some task) :
    ∃ certified,
      task.rest = some (.handshake (.finished (.ok certified))) ∧ Certifies events certified := by
  obtain ⟨stage, left, course⟩ := underway.course present
  have member : task.map (TaskStage.program gateway) ∈ (traffic.programs gateway).tasks :=
    List.mem_map_of_mem (List.mem_of_getElem? present)
  obtain ⟨result, isDone⟩ :=
    ended _ member ((TaskStage.handshake stage).program gateway) (by simp [left])
  rw [TaskStage.program] at isDone
  cases inside : stage.program gateway with
  | call call next =>
      rw [inside] at isDone
      cases isDone
  | done value =>
      cases HandshakeStage.over_of_done inside
      obtain ⟨certified, rfl, certifies⟩ := course
      exact ⟨certified, left, certifies⟩

/-- When all tasks of a smooth run have ended, every owner has asked. -/
theorem asks_of_ended
    (underway : Underway gateway name firstGuard events traffic)
    (ended : ∀ task ∈ (traffic.programs gateway).tasks, task.Ended) :
    events.countP TrafficEvent.asks = events.countP TrafficEvent.grants := by
  have settled : traffic.tasks.countP GatewayTask.owes = 0 := by
    refine List.countP_eq_zero.mpr fun task member => ?_
    obtain ⟨number, present⟩ := List.mem_iff_getElem?.mp member
    obtain ⟨certified, left, -⟩ := underway.over_of_ended ended present
    rw [GatewayTask.owes_of_handshake left]
    exact Bool.false_ne_true
  have balance := underway.balance
  rw [settled] at balance
  exact balance

/-- There are as many owners as late ones and the first one, or fewer. -/
theorem grants_le
    (underway : Underway gateway name firstGuard events traffic) :
    events.countP TrafficEvent.grants ≤ 1 + lateGrants events := by
  cases written : hasWritten events with
  | true => exact Nat.le_of_eq (underway.ledger.written written).1
  | false =>
      rcases (underway.ledger.unwritten written).2 with ⟨none, -⟩ | ⟨one, -⟩
      · omega
      · omega

/-- When all tasks of a smooth run have ended, a record has been written. -/
theorem hasWritten_of_ended
    (underway : Underway gateway name firstGuard events traffic)
    (fits : GuardsFit gateway traffic)
    (smooth : Smooth name events)
    (ended : ∀ task ∈ (traffic.programs gateway).tasks, task.Ended)
    (nonempty : traffic.tasks ≠ []) :
    hasWritten events = true := by
  cases written : hasWritten events with
  | true => rfl
  | false =>
      rcases (underway.ledger.unwritten written).2 with ⟨none, -⟩ | ⟨-, held⟩
      · -- Some task is over with what was issued, so somebody asked and owned the name.
        obtain ⟨task, rest, tasksAre⟩ := List.exists_cons_of_ne_nil nonempty
        obtain ⟨certified, -, issued, member, -⟩ :=
          underway.over_of_ended ended (show traffic.tasks[0]? = some task by rw [tasksAre]; rfl)
        have some := List.length_pos_of_mem member
        rw [smooth.length_issuedIn, underway.asks_of_ended ended, none] at some
        cases some
      · -- The guard that is left belongs to a task that is not over.
        obtain ⟨number, guard⟩ := fits.registers.held_iff.mp held
        obtain ⟨task, present, isGuard⟩ := Option.bind_eq_some_iff.mp guard
        have owner := fits.owners present
        obtain ⟨certified, left, -⟩ := underway.over_of_ended ended present
        rw [isGuard, left] at owner
        cases owner

end Underway

/-- Handshakes for one custom domain at the same time.  The authority is asked
once, and once more for every handshake that becomes the owner of the name after
a certificate has been stored, for which it had looked before that and not again,
and without having waited for another owner.  The handshakes never stop one another,
each of them ends after a bounded number of calls, and all of them end with a
certificate that was issued: the only one, if no owner came late. -/
theorem handshakes_issue_once
    {gateway : Gateway}
    {name : String}
    {scene : Scene}
    {events : List TrafficEvent}
    {traffic : Traffic (GatewayProgram TaskResult)}
    (issues : gateway.IssuesFor name)
    (canAsk : gateway.CanAskFor name)
    (free : scene.locks.isEmpty = true)
    (nothingStored : scene.records.find? name = none)
    (nothingReady :
      scene.readyCertificates.find? (HostName.storeKey name) scene.instant = none)
    (run : Run gateway.behaviour (quiet scene) events traffic)
    (smooth : Smooth name events)
    (lasting : Lasting events) :
    events.countP TrafficEvent.asks ≤ 1 + lateGrants events ∧
    ((¬ ∀ task ∈ traffic.tasks, task.Ended) → traffic.GoesOn gateway) ∧
    (∀ number < traffic.tasks.length, events.countP (TrafficEvent.isCallOf number) ≤ 18) ∧
    (traffic.tasks ≠ [] →
      (∀ task ∈ traffic.tasks, task.Ended) →
      events.countP TrafficEvent.asks = 1 + lateGrants events ∧
        (∀ task ∈ traffic.tasks, ∃ issued ∈ issuedIn events, task.ServedWith issued) ∧
        (lateGrants events = 0 →
          ∃ issued,
            issuedIn events = [issued] ∧ ∀ task ∈ traffic.tasks, task.ServedWith issued)) := by
  obtain ⟨staged, stagedRun, rfl⟩ := run_staged run
  have underway := Underway.of_run issues canAsk free nothingStored nothingReady stagedRun smooth
    lasting
  have fits := GuardsFit.of_run free stagedRun
  refine ⟨?most, goesOn_of_unfinished free run, ?bounded, fun nonempty ended => ?exact⟩
  case most =>
    have balance := underway.balance
    have grants := underway.grants_le
    omega
  case bounded =>
    intro number inside
    have present := List.getElem?_eq_getElem inside
    obtain ⟨original, there, same⟩ := getElem?_map present
    obtain ⟨stage, left, -⟩ := underway.course there
    obtain ⟨serverName, protocols, isHandshake, -⟩ := GuardsFit.fits_of_run stagedRun there left
    have sameErrand : original.errand = (staged.programs gateway).tasks[number].errand := by
      rw [← same, GatewayTask.map_errand]
    exact calls_le run present (sameErrand ▸ isHandshake)
  case exact =>
    have begun : staged.tasks ≠ [] := by simpa [programs, map] using nonempty
    have written := underway.hasWritten_of_ended fits smooth ended begun
    have asked : events.countP TrafficEvent.asks = 1 + lateGrants events :=
      (underway.asks_of_ended ended).trans (underway.ledger.written written).1
    have served :
        ∀ task ∈ (staged.programs gateway).tasks,
          ∃ issued ∈ issuedIn events, task.ServedWith issued := by
      intro task member
      obtain ⟨number, present⟩ := List.mem_iff_getElem?.mp member
      obtain ⟨original, there, rfl⟩ := getElem?_map present
      obtain ⟨certified, left, issued, isIssued, isKey⟩ := underway.over_of_ended ended there
      refine ⟨issued, isIssued, certified, isKey, ?_⟩
      rw [GatewayTask.map_rest, left]
      rfl
    refine ⟨asked, served, fun noLate => ?_⟩
    obtain ⟨issued, isOnly⟩ : ∃ issued, issuedIn events = [issued] := by
      refine List.length_eq_one_iff.mp ?_
      rw [smooth.length_issuedIn, asked, noLate]
    refine ⟨issued, isOnly, fun task member => ?_⟩
    obtain ⟨other, isIssued, servedWith⟩ := served task member
    rw [isOnly, List.mem_singleton] at isIssued
    exact isIssued ▸ servedWith

/-! ## Small runs -/

/-- A certificate with half a year to go. -/
def lastingCertificate : CertificateResource :=
  SmallGateway.servable "AAAA" 1715552000

/-- A certificate that is due as soon as it is issued. -/
def shortCertificate : CertificateResource :=
  SmallGateway.servable "AAAA" 1700259200

/-- The key of both certificates. -/
def sharedKey : CertifiedKey where
  certificates := [[0, 0, 0]]
  algorithm := .ed25519

/-- A handshake for the custom domain comes. -/
def arrivalEvent : TrafficEvent :=
  .arrives (.resolving (some SmallGateway.blog) [])

/-- A handshake finds no certificate. -/
def missEvents (number : Nat) : List TrafficEvent :=
  [ .calls number (.findReady SmallGateway.blog) (none : Option CertifiedKey)
  , .calls number (.findRecord SmallGateway.blog) (.ok none) ]

/-- A handshake owns the name until a certificate is issued and stored. -/
def ownerEvents
    (number guardNumber : Nat)
    (issued : CertificateResource) :
    List TrafficEvent :=
  [ .calls number (.claim SmallGateway.blog) (.owner guardNumber)
  , .calls number (.askUser "alice") true
  , .calls number (.spend .order) ()
  , .calls number (.spend .request) ()
  , .calls number (.order .general [SmallGateway.blog]) (.ok issued)
  , .calls number (.putRecord SmallGateway.blog issued) (.ok ())
  , .calls number (.release SmallGateway.blog) () ]

/-- A handshake keeps the key ready that it returns. -/
def keepEvent (number : Nat) : TrafficEvent :=
  .calls number (.keepReady SmallGateway.blog sharedKey) ()

/-- Of two handshakes one waits for the other. -/
def waitingEvents : List TrafficEvent :=
  [arrivalEvent, arrivalEvent] ++ missEvents 0 ++ missEvents 1 ++
    (ownerEvents 0 0 lastingCertificate).take 1 ++
    [.calls 1 (.claim SmallGateway.blog) (.busy 0)] ++
    (ownerEvents 0 0 lastingCertificate).drop 1 ++
    [ .calls 1 (.awaitRelease SmallGateway.blog 0) ()
    , .calls 1 (.findRecord SmallGateway.blog) (.ok (some lastingCertificate))
    , keepEvent 0
    , keepEvent 1 ]

/-- Two handshakes look for a certificate before one after the other owns the
name. -/
def lateOwnerEvents : List TrafficEvent :=
  [arrivalEvent, arrivalEvent] ++ missEvents 0 ++ missEvents 1 ++
    ownerEvents 0 0 lastingCertificate ++ [keepEvent 0] ++
    ownerEvents 1 1 lastingCertificate ++ [keepEvent 1]

/-- A handshake finds a certificate that is due and has it renewed. -/
def renewalEvents : List TrafficEvent :=
  [arrivalEvent, arrivalEvent] ++ missEvents 0 ++ ownerEvents 0 0 shortCertificate ++
    [ .calls 1 (.findReady SmallGateway.blog) (none : Option CertifiedKey)
    , .calls 1 (.findRecord SmallGateway.blog) (.ok (some shortCertificate))
    , .calls 1 .clock (1700000000 : Int)
    , .calls 1
        (.startObtaining { domains := [SmallGateway.blog], previous := some shortCertificate })
        (2 : Nat)
    , .calls 2 (.claim SmallGateway.blog) (.owner 1)
    , .calls 2 (.spend .request) ()
    , .calls 2 (.renew .general shortCertificate) (.ok lastingCertificate)
    , .calls 2 (.putRecord SmallGateway.blog lastingCertificate) (.ok ())
    , .calls 2 (.release SmallGateway.blog) ()
    , keepEvent 0
    , keepEvent 1 ]

/-- Whether events are those of a run of the small gateway, without records at
first, in which all tasks have ended. -/
def endsAll (events : List TrafficEvent) : Bool :=
  (replay SmallGateway.gateway (quiet (SmallGateway.scene Catalog.empty)) events).any fun traffic =>
    !traffic.tasks.isEmpty && traffic.tasks.all GatewayTask.hasEnded

theorem run_of_endsAll
    {events : List TrafficEvent}
    (accepted : endsAll events = true) :
    ∃ traffic,
      Run SmallGateway.gateway.behaviour (quiet (SmallGateway.scene Catalog.empty)) events
          traffic ∧
        traffic.tasks ≠ [] ∧ ∀ task ∈ traffic.tasks, task.Ended := by
  obtain ⟨traffic, replayed, ends⟩ := (Option.any_eq_true _ _).mp accepted
  obtain ⟨nonempty, ended⟩ := Bool.and_eq_true_iff.mp ends
  refine ⟨traffic, run_of_replay .nil replayed, by simpa using nonempty, fun task member => ?_⟩
  exact GatewayTask.ended_of_hasEnded (List.all_eq_true.mp ended task member)

theorem issuesFor_blog : SmallGateway.gateway.IssuesFor SmallGateway.blog where
  named := by decide
  custom := by decide +kernel
  claimed := ⟨_, rfl, rfl⟩

theorem isHandshakeFor_blog :
    (Errand.resolving (some SmallGateway.blog) []).IsHandshakeFor SmallGateway.blog :=
  ⟨by decide +kernel, rfl⟩

theorem smooth_waitingEvents : Smooth SmallGateway.blog waitingEvents := by
  constructor <;>
    simp [waitingEvents, missEvents, ownerEvents, keepEvent, arrivalEvent, isHandshakeFor_blog,
      TrafficEvent.asks, TrafficEvent.issued?]

theorem smooth_lateOwnerEvents : Smooth SmallGateway.blog lateOwnerEvents := by
  constructor <;>
    simp [lateOwnerEvents, missEvents, ownerEvents, keepEvent, arrivalEvent, isHandshakeFor_blog,
      TrafficEvent.asks, TrafficEvent.issued?]

theorem smooth_renewalEvents : Smooth SmallGateway.blog renewalEvents := by
  constructor <;>
    simp [renewalEvents, missEvents, ownerEvents, keepEvent, arrivalEvent, isHandshakeFor_blog,
      TrafficEvent.asks, TrafficEvent.issued?]

/-- The certificate with half a year to go can be served, and it lasts as long as
nobody asks for the time. -/
theorem lasting_of_untimed
    {events : List TrafficEvent}
    (same : ∀ issued ∈ issuedIn events, issued = lastingCertificate)
    (untimed : ∀ number second, .calls number .clock second ∉ events) :
    Lasting events := by
  refine ⟨fun issued member => ?_, fun _ _ number second asked => ?_⟩
  · cases same issued member
    have served : lastingCertificate.certifiedKey.toOption = some sharedKey := by decide +kernel
    cases isKey : lastingCertificate.certifiedKey with
    | error reason =>
        rw [isKey] at served
        cases served
    | ok certified => exact ⟨certified, rfl⟩
  · exact (untimed number second asked).elim

theorem lasting_waitingEvents : Lasting waitingEvents := by
  have issuedIs : issuedIn waitingEvents = [lastingCertificate] := rfl
  refine lasting_of_untimed (by simp [issuedIs]) fun number second => ?_
  simp [waitingEvents, missEvents, ownerEvents, keepEvent, arrivalEvent]

theorem lasting_lateOwnerEvents : Lasting lateOwnerEvents := by
  have issuedIs : issuedIn lateOwnerEvents = [lastingCertificate, lastingCertificate] := rfl
  refine lasting_of_untimed (by simp [issuedIs]) fun number second => ?_
  simp [lateOwnerEvents, missEvents, ownerEvents, keepEvent, arrivalEvent]

/-- Of two handshakes the second waits for the first and shares its certificate. -/
theorem waiting_handshakes_share_certificate :
    ∃ traffic,
      Run SmallGateway.gateway.behaviour (quiet (SmallGateway.scene Catalog.empty)) waitingEvents
          traffic ∧
        waitingEvents.countP TrafficEvent.asks = 1 ∧
        ∀ task ∈ traffic.tasks, task.ServedWith lastingCertificate := by
  have accepted : endsAll waitingEvents = true := by decide +kernel
  obtain ⟨traffic, run, nonempty, ended⟩ := run_of_endsAll accepted
  have canAsk : SmallGateway.gateway.CanAskFor SmallGateway.blog :=
    ⟨_, rfl, by decide +kernel⟩
  obtain ⟨-, -, -, whenEnded⟩ :=
    handshakes_issue_once issuesFor_blog canAsk rfl (by decide +kernel) rfl run
      smooth_waitingEvents lasting_waitingEvents
  obtain ⟨asked, -, share⟩ := whenEnded nonempty ended
  obtain ⟨issued, isOnly, served⟩ := share rfl
  cases isOnly
  exact ⟨traffic, run, asked, served⟩

/-- Nothing fails, and still an authority is asked twice: for a handshake that
becomes the owner late and does not look for the record that has been stored, and
for the renewal of a certificate that does not last. -/
theorem authority_is_asked_twice :
    SmallGateway.gateway.IssuesFor SmallGateway.blog ∧
    (∃ traffic,
      Run SmallGateway.gateway.behaviour (quiet (SmallGateway.scene Catalog.empty))
          lateOwnerEvents traffic ∧
        Smooth SmallGateway.blog lateOwnerEvents ∧
        Lasting lateOwnerEvents ∧
        (∀ task ∈ traffic.tasks, task.Ended) ∧
        lateGrants lateOwnerEvents = 1 ∧
        lateOwnerEvents.countP TrafficEvent.asks = 2) ∧
    ∃ traffic,
      Run SmallGateway.gateway.behaviour (quiet (SmallGateway.scene Catalog.empty))
          renewalEvents traffic ∧
        Smooth SmallGateway.blog renewalEvents ∧
        (∀ task ∈ traffic.tasks, task.Ended) ∧
        renewalEvents.countP TrafficEvent.asks = 2 := by
  have lateAccepted : endsAll lateOwnerEvents = true := by decide +kernel
  have renewalAccepted : endsAll renewalEvents = true := by decide +kernel
  obtain ⟨lateTraffic, lateRun, -, lateEnded⟩ := run_of_endsAll lateAccepted
  obtain ⟨renewalTraffic, renewalRun, -, renewalEnded⟩ := run_of_endsAll renewalAccepted
  exact
    ⟨issuesFor_blog,
      ⟨lateTraffic, lateRun, smooth_lateOwnerEvents, lasting_lateOwnerEvents, lateEnded, rfl,
        rfl⟩,
      renewalTraffic, renewalRun, smooth_renewalEvents, renewalEnded, rfl⟩

end Traffic

end OnDemandTls
