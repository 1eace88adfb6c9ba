import OnDemandTls.Proofs.Traffic.Replay
import OnDemandTls.Proofs.Traffic.Steps
import OnDemandTls.Proofs.Traffic.TaskStages

namespace OnDemandTls

/-!
# Runs in turn

Tasks run in turn if each of them comes to its end before another one makes its
first call.  While a task makes a call, all others are then at their beginning
or at their end (`Traffic.InTurn.resting`).
-/

namespace Traffic

/-- An event is in turn: no task panics, and while one calls, all others have
come to their end or have made no call yet. -/
def InTurn
    (events : List TrafficEvent)
    (traffic : Traffic (GatewayProgram TaskResult)) :
    TrafficEvent → Prop
  | .calls number _ _ =>
      ∀ other task,
        traffic.tasks[other]? = some task →
        other ≠ number →
        task.Ended ∨ ∀ call answer, .calls other call answer ∉ events
  | .panics _ => False
  | _ => True

/-- The runs of a gateway in which tasks run in turn. -/
inductive RunInTurn (gateway : Gateway) (scene : Scene) :
    List TrafficEvent → Traffic (GatewayProgram TaskResult) → Prop where
  | nil :
      RunInTurn gateway scene [] (quiet scene)
  | snoc
      {events : List TrafficEvent}
      {traffic later : Traffic (GatewayProgram TaskResult)}
      {event : TrafficEvent} :
      RunInTurn gateway scene events traffic →
      Step gateway.behaviour traffic event later →
      InTurn events traffic event →
      RunInTurn gateway scene (events ++ [event]) later

variable {gateway : Gateway} {scene : Scene} {events : List TrafficEvent}

namespace RunInTurn

theorem run
    {traffic : Traffic (GatewayProgram TaskResult)}
    (inTurn : RunInTurn gateway scene events traffic) :
    Run gateway.behaviour (quiet scene) events traffic := by
  induction inTurn with
  | nil => exact .nil
  | snoc _ step _ inductionHypothesis => exact .snoc inductionHypothesis step

theorem last
    {event : TrafficEvent}
    {later : Traffic (GatewayProgram TaskResult)}
    (inTurn : RunInTurn gateway scene (events ++ [event]) later) :
    ∃ traffic,
      RunInTurn gateway scene events traffic ∧
        Step gateway.behaviour traffic event later ∧
        InTurn events traffic event := by
  generalize together : events ++ [event] = all at inTurn
  cases inTurn with
  | nil => exact (List.append_ne_nil_of_right_ne_nil _ (List.cons_ne_nil _ _) together).elim
  | snoc before step turn =>
      obtain ⟨rfl, sameEvent⟩ := List.append_inj' together rfl
      cases sameEvent
      exact ⟨_, before, step, turn⟩

end RunInTurn

/-! ## Tasks that rest -/

/-- A task that has made no call is at its beginning, unless it has panicked. -/
theorem Run.opening_of_silent
    {ρ : Type}
    {behaviour : Behaviour ρ}
    {traffic : Traffic ρ}
    {number : Nat}
    {task : GatewayTask ρ}
    {stage : ρ}
    (run : Run behaviour (quiet scene) events traffic)
    (silent : ∀ call answer, .calls number call answer ∉ events)
    (present : traffic.tasks[number]? = some task)
    (left : task.rest = some stage) :
    stage = behaviour.opening task.errand := by
  induction run generalizing task with
  | nil => cases present
  | snoc _ step inductionHypothesis =>
      have silentBefore := fun call answer called =>
        silent call answer (List.mem_append_left _ called)
      cases step.change present with
      | begins event errand =>
          cases left
          rfl
      | @moves task stage next call answer there =>
          exact (silent call answer (List.mem_append_right _ (List.mem_singleton_self _))).elim
      | panics there => cases left
      | stays there => exact inductionHypothesis silentBefore there left

/-- An errand comes from outside, or it is to obtain a certificate. -/
theorem Run.errand_cases
    {ρ : Type}
    {behaviour : Behaviour ρ}
    {traffic : Traffic ρ}
    {number : Nat}
    {task : GatewayTask ρ}
    (run : Run behaviour (quiet scene) events traffic)
    (present : traffic.tasks[number]? = some task) :
    .arrives task.errand ∈ events ∨ ∃ request, task.errand = .obtaining request := by
  induction run generalizing task with
  | nil => cases present
  | @snoc events traffic later event _ step inductionHypothesis =>
      rcases step.errand_cases present with begins | ⟨before, there, sameErrand⟩
      · rcases TrafficEvent.begun_cases begins with rfl | ⟨launcher, request, answer, rfl, isLaunched⟩
        · exact Or.inl (List.mem_append_right _ (List.mem_singleton_self _))
        · exact Or.inr ⟨request, isLaunched⟩
      · rw [← sameErrand]
        exact (inductionHypothesis there).imp_left (List.mem_append_left _)

/-- While a task calls in turn, another one is over or at its beginning. -/
theorem InTurn.resting
    {traffic : Traffic TaskStage}
    {number other : Nat}
    {call : GatewayCall}
    {answer : call.Answer}
    {task : GatewayTask TaskStage}
    {stage : TaskStage}
    (inTurn : InTurn events (traffic.programs gateway) (.calls number call answer))
    (run : Run gateway.stagedBehaviour (quiet scene) events traffic)
    (present : traffic.tasks[other]? = some task)
    (left : task.rest = some stage)
    (another : other ≠ number) :
    (∃ result, stage.program gateway = .done result) ∨
      stage = TaskStage.opening gateway task.errand := by
  rcases inTurn other _ (getElem?_programs present) another with ended | silent
  · exact Or.inl (ended _ (by simp only [GatewayTask.map_rest, left, Option.map_some]))
  · exact Or.inr (run.opening_of_silent silent present left)

/-! ## Replaying runs in turn -/

/-- Whether an event is in turn, as a test. -/
def inTurn
    (events : List TrafficEvent)
    (traffic : Traffic (GatewayProgram TaskResult)) :
    TrafficEvent → Bool
  | .calls number _ _ =>
      traffic.tasks.zipIdx.all fun (task, other) =>
        other == number || task.hasEnded || !events.any fun event => event.task? == some other
  | .panics _ => false
  | _ => true

theorem inTurn_sound
    {traffic : Traffic (GatewayProgram TaskResult)}
    {event : TrafficEvent}
    (accepted : inTurn events traffic event = true) :
    InTurn events traffic event := by
  cases event with
  | calls number call answer =>
      intro other task present another
      have member : (task, other) ∈ traffic.tasks.zipIdx :=
        List.mem_zipIdx_iff_getElem?.mpr present
      have rests := List.all_eq_true.mp accepted _ member
      simp only [Bool.or_eq_true, beq_iff_eq, Bool.not_eq_true'] at rests
      rcases rests with (same | ended) | silent
      · exact (another same).elim
      · exact Or.inl (GatewayTask.ended_of_hasEnded ended)
      · refine Or.inr fun call answer called => ?_
        have acts := List.any_eq_false.mp silent _ called
        exact acts (beq_self_eq_true _)
  | panics number => cases accepted
  | arrives errand => trivial
  | passes milliseconds => trivial

/-- Check events one after another, and that they are in turn. -/
def replayInTurn
    (gateway : Gateway) :
    List TrafficEvent →
      Traffic (GatewayProgram TaskResult) →
      List TrafficEvent →
      Option (Traffic (GatewayProgram TaskResult))
  | _, traffic, [] => some traffic
  | earlier, traffic, event :: rest =>
      if inTurn earlier traffic event then
        (replayEvent gateway traffic event).bind fun later =>
          replayInTurn gateway (earlier ++ [event]) later rest
      else
        none

/-- Accepted events are those of a run in turn. -/
theorem runInTurn_of_replayInTurn
    {earlier : List TrafficEvent}
    {traffic later : Traffic (GatewayProgram TaskResult)}
    (run : RunInTurn gateway scene earlier traffic)
    (accepted : replayInTurn gateway earlier traffic events = some later) :
    RunInTurn gateway scene (earlier ++ events) later := by
  induction events generalizing earlier traffic with
  | nil =>
      cases accepted
      rw [List.append_nil]
      exact run
  | cons event rest inductionHypothesis =>
      unfold replayInTurn at accepted
      split at accepted
      · rename_i turn
        obtain ⟨next, first, others⟩ := Option.bind_eq_some_iff.mp accepted
        rw [List.append_cons]
        exact inductionHypothesis
          (.snoc run (step_of_replayEvent first) (inTurn_sound turn)) others
      · cases accepted

end Traffic

end OnDemandTls
