import OnDemandTls.Proofs.Traffic.Basic

namespace OnDemandTls

/-!
# What a step of traffic does

A step changes at most one task and may add new ones (`Traffic.Step.change`).
What holds of every first stage and is kept by every move holds of all tasks of
a run (`Traffic.Run.stages`).
-/

namespace TrafficEvent

/-- The task that acts in an event. -/
def task? : TrafficEvent → Option Nat
  | calls task _ _ | panics task => some task
  | arrives _ | passes _ => none

/-- The errands that begin in an event. -/
def begun : TrafficEvent → List Errand
  | arrives errand => [errand]
  | calls _ call _ => launched call
  | panics _ | passes _ => []

/-- An errand that begins has come from outside, or some task launches it. -/
theorem begun_cases
    {event : TrafficEvent}
    {errand : Errand}
    (begins : errand ∈ event.begun) :
    event = .arrives errand ∨
      ∃ launcher request number,
        event = .calls launcher (.startObtaining request) number ∧ errand = .obtaining request := by
  cases event with
  | arrives arriving =>
      cases List.mem_singleton.mp begins
      exact Or.inl rfl
  | calls launcher call answer =>
      cases call with
      | startObtaining request =>
          exact Or.inr ⟨launcher, request, answer, rfl, List.mem_singleton.mp begins⟩
      | _ => cases begins
  | panics actor => cases begins
  | passes milliseconds => cases begins

end TrafficEvent

namespace Traffic

variable {ρ : Type} {behaviour : Behaviour ρ}

/-- One event more counts if it is of the kind that is counted. -/
theorem countP_snoc
    (has : TrafficEvent → Bool)
    (events : List TrafficEvent)
    (event : TrafficEvent) :
    (events ++ [event]).countP has = events.countP has + if has event then 1 else 0 := by
  rw [List.countP_append, List.countP_singleton]

/-- What a step makes of one task. -/
inductive Change (behaviour : Behaviour ρ) (traffic later : Traffic ρ) (number : Nat) :
    TrafficEvent → GatewayTask ρ → Prop where
  | begins
      (event : TrafficEvent)
      (errand : Errand) :
      traffic.tasks[number]? = none →
      event.task? ≠ some number →
      errand ∈ event.begun →
      Change behaviour traffic later number event (newTask behaviour errand)
  | moves
      {task : GatewayTask ρ}
      {stage next : ρ}
      {call : GatewayCall}
      {answer : call.Answer} :
      traffic.tasks[number]? = some task →
      task.rest = some stage →
      behaviour.Moves stage call answer next →
      traffic.scene.Admits call answer →
      later.scene = traffic.scene.after call answer →
      Change behaviour traffic later number (.calls number call answer)
        { task with rest := some next, guard := guardAfter task.guard call answer }
  | panics
      {task : GatewayTask ρ} :
      traffic.tasks[number]? = some task →
      later.scene = traffic.scene.dropGuard task.guard →
      Change behaviour traffic later number (.panics number)
        { task with rest := none, guard := none }
  | stays
      {event : TrafficEvent}
      {task : GatewayTask ρ} :
      traffic.tasks[number]? = some task →
      event.task? ≠ some number →
      Change behaviour traffic later number event task

/-- A task after others have been added is an old or a new one. -/
theorem getElem?_append_newTasks
    {tasks : List (GatewayTask ρ)}
    {errands : List Errand}
    {number : Nat}
    {task : GatewayTask ρ}
    (present : (tasks ++ errands.map (newTask behaviour))[number]? = some task) :
    tasks[number]? = some task ∨
      tasks.length ≤ number ∧ ∃ errand ∈ errands, task = newTask behaviour errand := by
  by_cases old : number < tasks.length
  · rw [List.getElem?_append_left old] at present
    exact Or.inl present
  · have new : tasks.length ≤ number := Nat.le_of_not_lt old
    rw [List.getElem?_append_right new] at present
    obtain ⟨errand, member, same⟩ := List.mem_map.mp (List.mem_of_getElem? present)
    exact Or.inr ⟨new, errand, member, same.symm⟩

/-- Old tasks keep their numbers when others are added. -/
theorem getElem?_append_of_some
    {tasks added : List (GatewayTask ρ)}
    {number : Nat}
    {task : GatewayTask ρ}
    (present : tasks[number]? = some task) :
    (tasks ++ added)[number]? = some task := by
  have old : number < tasks.length := (List.getElem?_eq_some_iff.mp present).1
  rw [List.getElem?_append_left old]
  exact present

namespace Step

variable {traffic later : Traffic ρ} {event : TrafficEvent}

/-- Every task after a step is a new one, the one that acted, or unchanged. -/
theorem change
    {number : Nat}
    {task : GatewayTask ρ}
    (step : Step behaviour traffic event later)
    (present : later.tasks[number]? = some task) :
    Change behaviour traffic later number event task := by
  cases step with
  | arrives errand =>
      change (traffic.tasks ++ [errand].map (newTask behaviour))[number]? = some task at present
      rcases getElem?_append_newTasks present with old | ⟨new, errand, member, rfl⟩
      · exact .stays old nofun
      · exact .begins _ errand (List.getElem?_eq_none new) nofun member
  | @calls actor acting stage next call answer there left moves admitted =>
      rcases getElem?_append_newTasks present with old | ⟨new, errand, member, rfl⟩
      · rw [List.getElem?_set] at old
        split at old
        · rename_i same
          subst same
          split at old
          · cases old
            exact .moves there left moves admitted rfl
          · cases old
        · rename_i differs
          exact .stays old fun same => differs (Option.some.inj same)
      · rw [List.length_set] at new
        refine .begins _ errand (List.getElem?_eq_none new) (fun same => ?_) member
        rw [Option.some.inj same, List.getElem?_eq_none new] at there
        cases there
  | @panics actor acting stage next call answer there left moves =>
      simp only [List.getElem?_set] at present
      split at present
      · rename_i same
        subst same
        split at present
        · cases present
          exact .panics there rfl
        · cases present
      · rename_i differs
        exact .stays present fun same => differs (Option.some.inj same)
  | passes milliseconds => exact .stays present nofun

/-- A task after a step is a new one, or has the errand that it had before. -/
theorem errand_cases
    {number : Nat}
    {task : GatewayTask ρ}
    (step : Step behaviour traffic event later)
    (present : later.tasks[number]? = some task) :
    task.errand ∈ event.begun ∨
      ∃ before, traffic.tasks[number]? = some before ∧ before.errand = task.errand := by
  cases step.change present with
  | begins event errand absent idle begins => exact Or.inl begins
  | moves there => exact Or.inr ⟨_, there, rfl⟩
  | panics there => exact Or.inr ⟨_, there, rfl⟩
  | stays there => exact Or.inr ⟨task, there, rfl⟩

/-- A task that does not act stays as it is. -/
theorem bystander
    {number : Nat}
    {task : GatewayTask ρ}
    (step : Step behaviour traffic event later)
    (present : traffic.tasks[number]? = some task)
    (idle : event.task? ≠ some number) :
    later.tasks[number]? = some task := by
  cases step with
  | arrives errand => exact getElem?_append_of_some present
  | calls there left moves admitted =>
      refine getElem?_append_of_some ?_
      rw [List.getElem?_set_ne fun same => idle (congrArg some same)]
      exact present
  | panics there left moves =>
      rw [List.getElem?_set_ne fun same => idle (congrArg some same)]
      exact present
  | passes milliseconds => exact present

/-- The task that called has gone on. -/
theorem called
    {number : Nat}
    {call : GatewayCall}
    {answer : call.Answer}
    (step : Step behaviour traffic (.calls number call answer) later) :
    ∃ task stage next,
      traffic.tasks[number]? = some task ∧
        task.rest = some stage ∧
        behaviour.Moves stage call answer next ∧
        traffic.scene.Admits call answer ∧
        later.scene = traffic.scene.after call answer ∧
        later.tasks[number]? =
          some { task with rest := some next, guard := guardAfter task.guard call answer } := by
  cases step with
  | @calls number task stage next call answer there left moves admitted =>
      refine ⟨task, stage, next, there, left, moves, admitted, rfl, ?_⟩
      refine getElem?_append_of_some ?_
      rw [List.getElem?_set_self (List.getElem?_eq_some_iff.mp there).1]

/-- The task that panicked has nothing left to do. -/
theorem panicked
    {number : Nat}
    (step : Step behaviour traffic (.panics number) later) :
    ∃ task,
      traffic.tasks[number]? = some task ∧
        later.scene = traffic.scene.dropGuard task.guard ∧
        later.tasks[number]? = some { task with rest := none, guard := none } := by
  cases step with
  | panics there left moves =>
      refine ⟨_, there, rfl, ?_⟩
      rw [List.getElem?_set_self (List.getElem?_eq_some_iff.mp there).1]

/-- What becomes of one task: it has panicked, or what holds of it afterwards
follows from its call, or from its idleness. -/
theorem carry
    {number : Nat}
    {task : GatewayTask ρ}
    (step : Step behaviour traffic event later)
    (after : ρ → Option (String × Nat) → Prop)
    (present : traffic.tasks[number]? = some task)
    (idle :
      ∀ stage, task.rest = some stage → event.task? ≠ some number → after stage task.guard)
    (acts :
      ∀ stage call answer next,
        task.rest = some stage →
        event = .calls number call answer →
        behaviour.Moves stage call answer next →
        traffic.scene.Admits call answer →
        after next (guardAfter task.guard call answer)) :
    ∃ now,
      later.tasks[number]? = some now ∧
        now.errand = task.errand ∧
        ∀ stage, now.rest = some stage → after stage now.guard := by
  by_cases isActor : event.task? = some number
  · cases event with
    | arrives errand => cases isActor
    | passes milliseconds => cases isActor
    | panics actor =>
        cases isActor
        obtain ⟨panicking, there, -, presentLater⟩ := step.panicked
        cases present.symm.trans there
        refine ⟨_, presentLater, rfl, fun stage left => ?_⟩
        cases left
    | calls actor call answer =>
        cases isActor
        obtain ⟨acting, stage, next, there, left, moves, admitted, -, presentLater⟩ := step.called
        cases present.symm.trans there
        refine ⟨_, presentLater, rfl, fun laterStage laterLeft => ?_⟩
        cases laterLeft
        exact acts stage call answer next left rfl moves admitted
  · exact ⟨task, step.bystander present isActor, rfl, fun stage left => idle stage left isActor⟩

/-- A task that is there stays there, with its errand. -/
theorem persists
    {number : Nat}
    {task : GatewayTask ρ}
    (step : Step behaviour traffic event later)
    (present : traffic.tasks[number]? = some task) :
    ∃ now, later.tasks[number]? = some now ∧ now.errand = task.errand := by
  obtain ⟨now, presentLater, sameErrand, -⟩ :=
    step.carry (fun _ _ => True) present (fun _ _ _ => trivial) fun _ _ _ _ _ _ _ _ => trivial
  exact ⟨now, presentLater, sameErrand⟩

/-- A step leaves the scene as it is, but for the call or the panic of a task
and the time. -/
theorem scene_cases (step : Step behaviour traffic event later) :
    (∃ errand, event = .arrives errand ∧ later.scene = traffic.scene) ∨
      (∃ number call answer,
        event = .calls number call answer ∧
          traffic.scene.Admits call answer ∧
          later.scene = traffic.scene.after call answer) ∨
      (∃ number task,
        event = .panics number ∧
          traffic.tasks[number]? = some task ∧
          later.scene = traffic.scene.dropGuard task.guard) ∨
      ∃ milliseconds,
        event = .passes milliseconds ∧
          later.scene =
            { traffic.scene with instant := traffic.scene.instant + milliseconds } := by
  cases step with
  | arrives errand => exact Or.inl ⟨errand, rfl, rfl⟩
  | calls there left moves admitted => exact Or.inr (Or.inl ⟨_, _, _, rfl, admitted, rfl⟩)
  | panics there left moves => exact Or.inr (Or.inr (Or.inl ⟨_, _, rfl, there, rfl⟩))
  | passes milliseconds => exact Or.inr (Or.inr (Or.inr ⟨milliseconds, rfl, rfl⟩))

end Step

namespace Run

/-- What holds of first stages and is kept by moves holds of all tasks. -/
theorem stages
    (holds : Errand → ρ → Prop)
    {scene : Scene}
    {events : List TrafficEvent}
    {traffic : Traffic ρ}
    (opens : ∀ errand, holds errand (behaviour.opening errand))
    (keeps :
      ∀ errand stage call answer next,
        holds errand stage → behaviour.Moves stage call answer next → holds errand next)
    (run : Run behaviour (quiet scene) events traffic)
    {number : Nat}
    {task : GatewayTask ρ}
    {stage : ρ}
    (present : traffic.tasks[number]? = some task)
    (left : task.rest = some stage) :
    holds task.errand stage := by
  induction run generalizing task stage with
  | nil => cases present
  | snoc _ step inductionHypothesis =>
      cases step.change present with
      | begins event errand =>
          cases left
          exact opens errand
      | moves there leftBefore moves =>
          cases left
          have heldBefore := inductionHypothesis there leftBefore
          exact keeps _ _ _ _ _ heldBefore moves
      | panics there => cases left
      | stays there => exact inductionHypothesis there left

/-- A run can be cut anywhere. -/
theorem split
    {start traffic : Traffic ρ}
    {front back : List TrafficEvent}
    (run : Run behaviour start (front ++ back) traffic) :
    ∃ middle, Run behaviour start front middle ∧ Run behaviour middle back traffic := by
  generalize together : front ++ back = events at run
  induction run generalizing back with
  | nil =>
      obtain ⟨rfl, rfl⟩ := List.append_eq_nil_iff.mp together
      exact ⟨_, .nil, .nil⟩
  | @snoc events traffic later event run step inductionHypothesis =>
      rcases List.eq_nil_or_concat back with rfl | ⟨rest, last, rfl⟩
      · rw [List.append_nil] at together
        subst together
        exact ⟨_, .snoc run step, .nil⟩
      · rw [List.concat_eq_append, ← List.append_assoc] at together
        obtain ⟨rfl, sameLast⟩ := List.append_inj' together rfl
        cases sameLast
        obtain ⟨middle, first, second⟩ := inductionHypothesis rfl
        rw [List.concat_eq_append]
        exact ⟨middle, first, .snoc second step⟩

theorem eq_of_nil
    {start traffic : Traffic ρ}
    (run : Run behaviour start [] traffic) :
    traffic = start := by
  generalize isNil : [] = events at run
  cases run with
  | nil => rfl
  | snoc run step =>
      exact (List.append_ne_nil_of_right_ne_nil _ (List.cons_ne_nil _ _) isNil.symm).elim

/-- A run that goes on is a longer run. -/
theorem append
    {start middle traffic : Traffic ρ}
    {front back : List TrafficEvent}
    (first : Run behaviour start front middle)
    (second : Run behaviour middle back traffic) :
    Run behaviour start (front ++ back) traffic := by
  induction second with
  | nil =>
      rw [List.append_nil]
      exact first
  | snoc _ step inductionHypothesis =>
      rw [← List.append_assoc]
      exact .snoc inductionHypothesis step

/-- What happened amid a run was a step of it. -/
theorem split_at
    {start traffic : Traffic ρ}
    {front back : List TrafficEvent}
    {event : TrafficEvent}
    (run : Run behaviour start (front ++ event :: back) traffic) :
    ∃ before after,
      Run behaviour start front before ∧
        Step behaviour before event after ∧
        Run behaviour after back traffic := by
  rw [List.append_cons] at run
  obtain ⟨after, first, second⟩ := run.split
  generalize together : front ++ [event] = events at first
  cases first with
  | nil => exact (List.append_ne_nil_of_right_ne_nil _ (List.cons_ne_nil _ _) together).elim
  | snoc run step =>
      obtain ⟨rfl, sameEvent⟩ := List.append_inj' together rfl
      cases sameEvent
      exact ⟨_, _, run, step, second⟩

end Run

end Traffic

end OnDemandTls
