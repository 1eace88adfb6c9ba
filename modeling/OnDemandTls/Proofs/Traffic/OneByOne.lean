import OnDemandTls.Proofs.Traffic.Entitlement

namespace OnDemandTls

/-!
# One handshake after another

Handshakes run one by one if each of them comes when all tasks have ended, the
renewals that were launched by earlier ones included.  A handshake launches a
renewal right before it serves what it has found, so at any moment all tasks but
the newest have at most a certificate left to keep ready
(`Traffic.RunOneByOne.served`).
-/

namespace TaskStage

variable {gateway : Gateway} {errand : Errand} {stage later : TaskStage}
variable {call : GatewayCall} {answer : call.Answer}

/-- A task has at most a certificate left to keep ready. -/
def Served : TaskStage → Prop
  | handshake (.keeping _ _) | handshake (.finished _) => True
  | upkeep (.done _) _ | finished _ => True
  | _ => False

theorem served_of_done
    {result : TaskResult}
    (ended : stage.program gateway = .done result) :
    stage.Served := by
  rcases over_cases ended with ⟨resolved, rfl, -⟩ | ⟨swept, only, rfl, -⟩ | rfl <;> trivial

theorem served_serve
    (target : ServingTarget)
    (name : String)
    (resource : CertificateResource) :
    (handshake (HandshakeStage.serve target name resource)).Served := by
  unfold HandshakeStage.serve
  cases resource.certifiedKey <;> trivial

theorem Served.moves
    (served : stage.Served)
    (moves : Moves gateway stage call answer later) :
    later.Served ∧ ∃ key certified, call = .keepReady key certified := by
  cases moves with
  | handshake inside =>
      cases inside with
      | kept key certified => exact ⟨trivial, key, certified, rfl⟩
      | _ => exact served.elim
  | _ => exact served.elim

/-- What is launched, unless by a cycle of maintenance, is launched right before
a certificate is served. -/
theorem served_of_launch
    {request : ObtainRequest}
    {number : Nat}
    (sanctioned : stage.Sanctioned gateway errand)
    (noSweep : ∀ interval withHandshakes, errand ≠ .sweeping interval withHandshakes)
    (moves : Moves gateway stage (.startObtaining request) number later) :
    later.Served := by
  cases moves with
  | handshake inside =>
      cases inside with
      | launched target name resource => exact served_serve target name resource
      | issuance inside => cases inside
  | issuance inside => cases inside
  | upkeep only =>
      obtain ⟨interval, withHandshakes, isSweep⟩ := sanctioned
      exact (noSweep interval withHandshakes isSweep).elim

end TaskStage

/-- At most one errand begins in an event. -/
theorem TrafficEvent.length_begun_le (event : TrafficEvent) : event.begun.length ≤ 1 := by
  cases event with
  | calls task call answer => cases call <;> simp [begun, launched]
  | _ => simp [begun]

namespace Traffic

/-- An event does not break the sequence of handshakes: only handshakes come, and
when one comes, all tasks have ended. -/
def OneByOne (traffic : Traffic (GatewayProgram TaskResult)) : TrafficEvent → Prop
  | .arrives errand =>
      (∃ serverName protocols, errand = .resolving serverName protocols) ∧
        ∀ task ∈ traffic.tasks, task.Ended
  | _ => True

/-- The runs of a gateway to which handshakes come one by one. -/
inductive RunOneByOne (gateway : Gateway) (scene : Scene) :
    List TrafficEvent → Traffic (GatewayProgram TaskResult) → Prop where
  | nil :
      RunOneByOne gateway scene [] (quiet scene)
  | snoc
      {events : List TrafficEvent}
      {traffic later : Traffic (GatewayProgram TaskResult)}
      {event : TrafficEvent} :
      RunOneByOne gateway scene events traffic →
      Step gateway.behaviour traffic event later →
      OneByOne traffic event →
      RunOneByOne gateway scene (events ++ [event]) later

/-- A step adds the tasks that begin in it. -/
theorem Step.length_tasks
    {ρ : Type}
    {behaviour : Behaviour ρ}
    {traffic later : Traffic ρ}
    {event : TrafficEvent}
    (step : Step behaviour traffic event later) :
    later.tasks.length = traffic.tasks.length + event.begun.length := by
  cases step with
  | calls there left moves admitted =>
      rw [List.length_append, List.length_set, List.length_map]
      rfl
  | panics there left moves => exact List.length_set
  | arrives errand => exact List.length_append
  | passes milliseconds => rfl

variable {gateway : Gateway} {scene : Scene} {events : List TrafficEvent}

/-- All tasks but the newest have at most a certificate left to keep ready. -/
def ServedButNewest (traffic : Traffic TaskStage) : Prop :=
  ∀ {number : Nat} {task : GatewayTask TaskStage} {stage : TaskStage},
    traffic.tasks[number]? = some task →
    task.rest = some stage →
    number + 1 < traffic.tasks.length →
    stage.Served

namespace ServedButNewest

variable {traffic later : Traffic TaskStage} {event : TrafficEvent}

/-- Whoever makes a call other than to keep a certificate ready is the newest
task. -/
theorem newest_of_moves
    (served : ServedButNewest traffic)
    {number : Nat}
    {task : GatewayTask TaskStage}
    {stage next : TaskStage}
    {call : GatewayCall}
    {answer : call.Answer}
    (present : traffic.tasks[number]? = some task)
    (left : task.rest = some stage)
    (moves : TaskStage.Moves gateway stage call answer next)
    (another : ∀ key certified, call ≠ .keepReady key certified) :
    number + 1 = traffic.tasks.length := by
  have within : number < traffic.tasks.length := (List.getElem?_eq_some_iff.mp present).1
  by_cases older : number + 1 < traffic.tasks.length
  · obtain ⟨-, key, certified, keeps⟩ := (served present left older).moves moves
    exact (another key certified keeps).elim
  · omega

theorem step
    (onlyHandshakes : OnlyHandshakes events)
    (run : Run gateway.stagedBehaviour (quiet scene) events traffic)
    (served : ServedButNewest traffic)
    (oneByOne : OneByOne (traffic.programs gateway) event)
    (step : Step gateway.stagedBehaviour traffic event later) :
    ServedButNewest later := by
  intro number task stage present left older
  rw [step.length_tasks] at older
  cases step.change present with
  | begins event errand absent idle begun =>
      -- At most one task begins, and that one is the newest.
      have new := List.getElem?_eq_none_iff.mp absent
      have single := event.length_begun_le
      omega
  | @moves task before next call answer there leftBefore moves =>
      cases left
      by_cases olderBefore : number + 1 < traffic.tasks.length
      · exact ((served there leftBefore olderBefore).moves moves).1
      · cases call with
        | startObtaining request =>
            exact TaskStage.served_of_launch (sanctioned_stage_of_run run there leftBefore)
              (ne_sweeping_of_run onlyHandshakes run there) moves
        | _ => exact (olderBefore older).elim
  | panics there => cases left
  | stays there idle =>
      by_cases olderBefore : number + 1 < traffic.tasks.length
      · exact served there left olderBefore
      · cases event with
        | arrives errand =>
            have shown : task.map (TaskStage.program gateway) ∈ (traffic.programs gateway).tasks :=
              List.mem_map_of_mem (List.mem_of_getElem? there)
            have program : (task.map (TaskStage.program gateway)).rest =
                some (stage.program gateway) := by
              rw [GatewayTask.map_rest, left, Option.map_some]
            obtain ⟨result, ended⟩ := oneByOne.2 _ shown _ program
            exact TaskStage.served_of_done ended
        | calls actor call answer =>
            -- Only a newest task launches another one.
            cases call with
            | startObtaining request =>
                obtain ⟨acting, acts, next, actorThere, actsLeft, moves, -⟩ := step.called
                have newest := served.newest_of_moves actorThere actsLeft moves nofun
                have within := (List.getElem?_eq_some_iff.mp there).1
                have same : actor = number := by omega
                exact (idle (congrArg some same)).elim
            | _ => exact (olderBefore older).elim
        | panics actor => exact (olderBefore older).elim
        | passes milliseconds => exact (olderBefore older).elim

end ServedButNewest

namespace RunOneByOne

variable {traffic : Traffic (GatewayProgram TaskResult)}

theorem run (oneByOne : RunOneByOne gateway scene events traffic) :
    Run gateway.behaviour (quiet scene) events traffic := by
  induction oneByOne with
  | nil => exact .nil
  | snoc _ step _ inductionHypothesis => exact .snoc inductionHypothesis step

theorem onlyHandshakes (oneByOne : RunOneByOne gateway scene events traffic) :
    OnlyHandshakes events := by
  induction oneByOne with
  | nil =>
      intro errand arrived
      cases arrived
  | snoc _ _ isNext inductionHypothesis =>
      intro errand arrived
      rcases List.mem_append.mp arrived with earlier | now
      · exact inductionHypothesis errand earlier
      · cases List.mem_singleton.mp now
        exact isNext.1

theorem last
    {event : TrafficEvent}
    {later : Traffic (GatewayProgram TaskResult)}
    (oneByOne : RunOneByOne gateway scene (events ++ [event]) later) :
    ∃ traffic,
      RunOneByOne gateway scene events traffic ∧ Step gateway.behaviour traffic event later := by
  generalize together : events ++ [event] = all at oneByOne
  cases oneByOne with
  | nil => exact (List.append_ne_nil_of_right_ne_nil _ (List.cons_ne_nil _ _) together).elim
  | snoc before step =>
      obtain ⟨rfl, sameEvent⟩ := List.append_inj' together rfl
      cases sameEvent
      exact ⟨_, before, step⟩

/-- When handshakes come one by one, all tasks but the newest have at most a
certificate left to keep ready. -/
theorem served (oneByOne : RunOneByOne gateway scene events traffic) :
    ∃ staged,
      Run gateway.stagedBehaviour (quiet scene) events staged ∧
        staged.programs gateway = traffic ∧
        ServedButNewest staged := by
  induction oneByOne with
  | nil => exact ⟨quiet scene, .nil, rfl, fun present => nomatch present⟩
  | snoc earlier step isNext inductionHypothesis =>
      obtain ⟨staged, run, rfl, served⟩ := inductionHypothesis
      obtain ⟨later, stagedStep, same⟩ := step_staged step
      exact ⟨later, .snoc run stagedStep, same,
        served.step earlier.onlyHandshakes run isNext stagedStep⟩

end RunOneByOne

/-! ## Replaying handshakes one by one -/

/-- Whether an event does not break the sequence of handshakes, as a test. -/
def oneByOne (traffic : Traffic (GatewayProgram TaskResult)) : TrafficEvent → Bool
  | .arrives (.resolving _ _) => traffic.tasks.all GatewayTask.hasEnded
  | .arrives _ => false
  | _ => true

theorem oneByOne_sound
    {traffic : Traffic (GatewayProgram TaskResult)}
    {event : TrafficEvent}
    (accepted : oneByOne traffic event = true) :
    OneByOne traffic event := by
  cases event with
  | arrives errand =>
      cases errand with
      | resolving serverName protocols =>
          refine ⟨⟨serverName, protocols, rfl⟩, fun task member => ?_⟩
          exact GatewayTask.ended_of_hasEnded (List.all_eq_true.mp accepted task member)
      | _ => cases accepted
  | _ => trivial

/-- Check events one after another, and that handshakes come one by one. -/
def replayOneByOne
    (gateway : Gateway) :
    Traffic (GatewayProgram TaskResult) →
      List TrafficEvent →
      Option (Traffic (GatewayProgram TaskResult))
  | traffic, [] => some traffic
  | traffic, event :: rest =>
      if oneByOne traffic event then
        (replayEvent gateway traffic event).bind fun later => replayOneByOne gateway later rest
      else
        none

/-- Accepted events are those of a run to which handshakes come one by one. -/
theorem runOneByOne_of_replayOneByOne
    {earlier : List TrafficEvent}
    {traffic later : Traffic (GatewayProgram TaskResult)}
    (run : RunOneByOne gateway scene earlier traffic)
    (accepted : replayOneByOne gateway traffic events = some later) :
    RunOneByOne gateway scene (earlier ++ events) later := by
  induction events generalizing earlier traffic with
  | nil =>
      cases accepted
      rw [List.append_nil]
      exact run
  | cons event rest inductionHypothesis =>
      unfold replayOneByOne at accepted
      split at accepted
      · rename_i follows
        obtain ⟨next, first, others⟩ := Option.bind_eq_some_iff.mp accepted
        rw [List.append_cons]
        exact inductionHypothesis
          (.snoc run (step_of_replayEvent first) (oneByOne_sound follows)) others
      · cases accepted

end Traffic

end OnDemandTls
