import OnDemandTls.Proofs.Traffic.Persistence

namespace OnDemandTls

/-!
# Transcripts

A transcript has the calls of one program with their answers, in order.  Whatever
the answers are, `Program.Leads` says what a transcript leaves of the program; so
what follows from it holds of a task beside any others (`Traffic.Run.leads`).
`Scene.Performs` says also what becomes of a scene in which the program runs and
nothing else does (`Traffic.Run.performs`).

For a program that is a machine of stages, an invariant of its moves holds along
all transcripts (`Program.Leads.invariant`, `Scene.Performs.invariant`).
-/

/-- A call with its answer. -/
structure Exchange where
  call : GatewayCall
  answer : call.Answer

/-- Calls that are answered somehow lead from a program to what is left of it. -/
inductive Program.Leads {α : Type} (program : GatewayProgram α) :
    List Exchange → GatewayProgram α → Prop where
  | nil :
      Leads program [] program
  | snoc
      {transcript : List Exchange}
      {call : GatewayCall}
      {next : call.Answer → GatewayProgram α}
      (answer : call.Answer) :
      Leads program transcript (.call call next) →
      Leads program (transcript ++ [⟨call, answer⟩]) (next answer)

/-- A program runs in a scene alone: the calls so far, the scene that they leave
and what is left of the program.  Time may go by. -/
inductive Scene.Performs {α : Type} (start : Scene) (program : GatewayProgram α) :
    List Exchange → Scene → GatewayProgram α → Prop where
  | nil :
      Performs start program [] start program
  | snoc
      {transcript : List Exchange}
      {scene : Scene}
      {call : GatewayCall}
      {next : call.Answer → GatewayProgram α}
      {answer : call.Answer} :
      Performs start program transcript scene (.call call next) →
      scene.Admits call answer →
      Performs start program (transcript ++ [⟨call, answer⟩]) (scene.after call answer)
        (next answer)
  | passes
      {transcript : List Exchange}
      {scene : Scene}
      {rest : GatewayProgram α}
      (milliseconds : Nat) :
      Performs start program transcript scene rest →
      Performs start program transcript
        { scene with instant := scene.instant + milliseconds } rest

/-! ## Machines -/

/-- A machine has a stage for every call of its programs, and its moves say where
each answer leads. -/
def Program.Follows
    {σ α : Type}
    (program : σ → GatewayProgram α)
    (moves : σ → (call : GatewayCall) → call.Answer → σ → Prop) :
    Prop :=
  ∀ {stage : σ} {call : GatewayCall} {next : call.Answer → GatewayProgram α},
    program stage = .call call next →
    ∀ answer, ∃ later, moves stage call answer later ∧ next answer = program later

section Machines

variable {σ α : Type} {program : σ → GatewayProgram α}
variable {moves : σ → (call : GatewayCall) → call.Answer → σ → Prop}

/-- What every move keeps holds at every stage that a transcript leads to. -/
theorem Program.Leads.invariant
    (holds : List Exchange → σ → Prop)
    {first : σ}
    {transcript : List Exchange}
    {rest : GatewayProgram α}
    (follows : Follows program moves)
    (keeps :
      ∀ {transcript stage call answer later},
        holds transcript stage →
        moves stage call answer later →
        holds (transcript ++ [⟨call, answer⟩]) later)
    (opens : holds [] first)
    (leads : (program first).Leads transcript rest) :
    ∃ stage, rest = program stage ∧ holds transcript stage := by
  induction leads with
  | nil => exact ⟨first, rfl, opens⟩
  | snoc answer _ inductionHypothesis =>
      obtain ⟨stage, upcoming, held⟩ := inductionHypothesis
      obtain ⟨later, moved, isLater⟩ := follows upcoming.symm answer
      exact ⟨later, isLater, keeps held moved⟩

/-- What every admitted move keeps, and time as well, holds at every stage that
is reached alone. -/
theorem Scene.Performs.invariant
    (holds : List Exchange → Scene → σ → Prop)
    {first : σ}
    {start scene : Scene}
    {transcript : List Exchange}
    {rest : GatewayProgram α}
    (follows : Program.Follows program moves)
    (keeps :
      ∀ {transcript scene stage call answer later},
        holds transcript scene stage →
        moves stage call answer later →
        scene.Admits call answer →
        holds (transcript ++ [⟨call, answer⟩]) (scene.after call answer) later)
    (waits :
      ∀ {transcript scene stage} (milliseconds : Nat),
        holds transcript scene stage →
        holds transcript { scene with instant := scene.instant + milliseconds } stage)
    (opens : holds [] start first)
    (performs : start.Performs (program first) transcript scene rest) :
    ∃ stage, rest = program stage ∧ holds transcript scene stage := by
  induction performs with
  | nil => exact ⟨first, rfl, opens⟩
  | snoc _ admitted inductionHypothesis =>
      obtain ⟨stage, upcoming, held⟩ := inductionHypothesis
      obtain ⟨later, moved, isLater⟩ := follows upcoming.symm _
      exact ⟨later, isLater, keeps held moved admitted⟩
  | passes milliseconds _ inductionHypothesis =>
      obtain ⟨stage, isRest, held⟩ := inductionHypothesis
      exact ⟨stage, isRest, waits milliseconds held⟩

end Machines

/-- A program in which every call has an answer that obeys some rule comes to a
result with such answers. -/
theorem Scene.Performs.completes
    {α : Type}
    {obeys : Exchange → Prop}
    {start scene : Scene}
    {program rest : GatewayProgram α}
    {transcript : List Exchange}
    (answerable :
      ∀ {transcript scene call next},
        start.Performs program transcript scene (.call call next) →
        ∃ answer, scene.Admits call answer ∧ obeys ⟨call, answer⟩)
    (performs : start.Performs program transcript scene rest)
    (obeyed : ∀ exchange ∈ transcript, obeys exchange) :
    ∃ whole later value,
      start.Performs program whole later (.done value) ∧ ∀ exchange ∈ whole, obeys exchange := by
  induction rest generalizing transcript scene with
  | done value => exact ⟨transcript, scene, value, performs, obeyed⟩
  | call call next inductionHypothesis =>
      obtain ⟨answer, admitted, obeysRule⟩ := answerable performs
      refine inductionHypothesis answer (performs.snoc admitted) ?_
      exact List.forall_mem_append.mpr ⟨obeyed, List.forall_mem_singleton.mpr obeysRule⟩

/-! ## Results -/

/-- What a program does before its result is put in other words, it does itself. -/
theorem Program.Leads.of_map
    {α β : Type}
    {f : α → β}
    {program : GatewayProgram α}
    {transcript : List Exchange}
    {rest : GatewayProgram β}
    (leads : (program.bind fun value => .done (f value)).Leads transcript rest) :
    ∃ left, rest = left.bind (fun value => .done (f value)) ∧ program.Leads transcript left := by
  induction leads with
  | nil => exact ⟨program, rfl, .nil⟩
  | snoc answer _ inductionHypothesis =>
      obtain ⟨left, upcoming, before⟩ := inductionHypothesis
      cases left with
      | done value => cases upcoming
      | call call next =>
          cases upcoming
          exact ⟨next answer, rfl, .snoc answer before⟩

theorem Scene.Performs.of_map
    {α β : Type}
    {f : α → β}
    {start scene : Scene}
    {program : GatewayProgram α}
    {transcript : List Exchange}
    {rest : GatewayProgram β}
    (performs :
      start.Performs (program.bind fun value => .done (f value)) transcript scene rest) :
    ∃ left,
      rest = left.bind (fun value => .done (f value)) ∧
        start.Performs program transcript scene left := by
  induction performs with
  | nil => exact ⟨program, rfl, .nil⟩
  | snoc _ admitted inductionHypothesis =>
      obtain ⟨left, upcoming, before⟩ := inductionHypothesis
      cases left with
      | done value => cases upcoming
      | call call next =>
          cases upcoming
          exact ⟨_, rfl, .snoc before admitted⟩
  | passes milliseconds _ inductionHypothesis =>
      obtain ⟨left, isRest, before⟩ := inductionHypothesis
      exact ⟨left, isRest, .passes milliseconds before⟩

/-- A program that has its result calls nobody. -/
theorem Program.Leads.of_done
    {α : Type}
    {value : α}
    {transcript : List Exchange}
    {rest : GatewayProgram α}
    (leads : (Program.done value).Leads transcript rest) :
    rest = .done value ∧ transcript = [] := by
  induction leads with
  | nil => exact ⟨rfl, rfl⟩
  | snoc answer _ inductionHypothesis => cases inductionHypothesis.1

theorem Scene.Performs.of_done
    {α : Type}
    {start scene : Scene}
    {value : α}
    {transcript : List Exchange}
    {rest : GatewayProgram α}
    (performs : start.Performs (.done value) transcript scene rest) :
    rest = .done value ∧ scene.records = start.records ∧ scene.locks = start.locks := by
  induction performs with
  | nil => exact ⟨rfl, rfl, rfl⟩
  | snoc _ _ inductionHypothesis => cases inductionHypothesis.1
  | passes milliseconds _ inductionHypothesis => exact inductionHypothesis

/-- A program has a result in other words only if it has one itself. -/
theorem Program.eq_done_of_map
    {α β : Type}
    {f : α → β}
    {left : GatewayProgram α}
    {result : β}
    (isOver : .done result = left.bind fun value => .done (f value)) :
    ∃ value, left = .done value ∧ f value = result := by
  cases left with
  | done value =>
      cases isOver
      exact ⟨value, rfl, rfl⟩
  | call call next => cases isOver

/-! ## Issuances -/

namespace IssuanceProgress

/-- The moves of an issuance until it ends. -/
def Moves
    (job : IssuanceJob) :
    IssuanceProgress → (call : GatewayCall) → call.Answer → IssuanceProgress → Prop
  | on stage, call, answer, later => stage.Moves job call answer later
  | ended _, _, _, _ => False

theorem follows (job : IssuanceJob) : Program.Follows (program job) (Moves job) := by
  intro progress call next upcoming answer
  cases progress with
  | on stage => exact IssuanceStage.moves_of_program upcoming answer
  | ended result => cases upcoming

/-- An issuance has a result when it has ended. -/
theorem eq_ended_of_done
    {job : IssuanceJob}
    {progress : IssuanceProgress}
    {result : Except ObtainError CertificateResource}
    (isOver : .done result = progress.program job) :
    progress = .ended result := by
  cases progress with
  | on stage =>
      obtain ⟨call, next, upcoming⟩ := stage.program_eq_call job
      rw [program, upcoming] at isOver
      cases isOver
  | ended other =>
      cases isOver
      rfl

end IssuanceProgress

/-! ## The clock -/

namespace Scene.Performs

variable {α : Type} {start scene : Scene} {program rest : GatewayProgram α}
variable {transcript : List Exchange}

theorem second_le (performs : start.Performs program transcript scene rest) :
    start.second ≤ scene.second := by
  induction performs with
  | nil => exact Int.le_refl _
  | snoc _ _ inductionHypothesis =>
      rw [second_after]
      exact inductionHypothesis
  | passes milliseconds _ inductionHypothesis =>
      simp only [Scene.second] at inductionHypothesis ⊢
      omega

/-- A time that a program was told is one between its beginning and now. -/
theorem second_of_clock
    {second : Int}
    (performs : start.Performs program transcript scene rest)
    (told : ⟨.clock, second⟩ ∈ transcript) :
    start.second ≤ second ∧ second ≤ scene.second := by
  induction performs with
  | nil => cases told
  | snoc before admitted inductionHypothesis =>
      rw [second_after]
      rcases List.mem_append.mp told with earlier | now
      · exact inductionHypothesis earlier
      · cases List.mem_singleton.mp now
        have isNow : second = _ := admitted
        rw [isNow]
        exact ⟨before.second_le, Int.le_refl _⟩
  | passes milliseconds _ inductionHypothesis =>
      have bounds := inductionHypothesis told
      simp only [Scene.second] at bounds ⊢
      omega

end Scene.Performs

/-! ## Tasks -/

namespace TrafficEvent

/-- What a task calls in an event, with the answer. -/
def exchange?
    (number : Nat) :
    TrafficEvent → Option Exchange
  | calls task call answer => if task = number then some ⟨call, answer⟩ else none
  | _ => none

theorem exchange?_of_idle
    {event : TrafficEvent}
    {number : Nat}
    (idle : event.task? ≠ some number) :
    event.exchange? number = none := by
  cases event with
  | calls task call answer => exact if_neg fun same => idle (congrArg some same)
  | _ => rfl

/-- Nobody but one task acts, and it does not panic. -/
def IsAlone
    (number : Nat) :
    TrafficEvent → Prop
  | calls task _ _ => task = number
  | passes _ => True
  | _ => False

end TrafficEvent

namespace Traffic

/-- The calls of a task so far. -/
def transcript
    (number : Nat)
    (events : List TrafficEvent) :
    List Exchange :=
  events.filterMap (TrafficEvent.exchange? number)

@[simp] theorem transcript_snoc_call
    (number : Nat)
    (events : List TrafficEvent)
    (call : GatewayCall)
    (answer : call.Answer) :
    transcript number (events ++ [.calls number call answer]) =
      transcript number events ++ [⟨call, answer⟩] := by
  simp [transcript, TrafficEvent.exchange?]

theorem transcript_snoc_of_idle
    {number : Nat}
    {events : List TrafficEvent}
    {event : TrafficEvent}
    (idle : event.task? ≠ some number) :
    transcript number (events ++ [event]) = transcript number events := by
  simp [transcript, TrafficEvent.exchange?_of_idle idle]

variable {gateway : Gateway} {scene : Scene} {events : List TrafficEvent} {number : Nat}

theorem transcript_of_absent
    {ρ : Type}
    {behaviour : Behaviour ρ}
    {traffic : Traffic ρ}
    (run : Run behaviour (quiet scene) events traffic)
    (absent : traffic.tasks[number]? = none) :
    transcript number events = [] := by
  induction run with
  | nil => rfl
  | @snoc events middle later event _ step inductionHypothesis =>
      have absentBefore : middle.tasks[number]? = none := by
        cases there : middle.tasks[number]? with
        | none => rfl
        | some task =>
            obtain ⟨now, present, -⟩ := step.persists there
            cases absent.symm.trans present
      cases event with
      | calls actor call answer =>
          by_cases same : actor = number
          · subst same
            obtain ⟨task, stage, next, there, -⟩ := step.called
            cases absentBefore.symm.trans there
          · have idle : (TrafficEvent.calls actor call answer).task? ≠ some number :=
              fun acts => same (Option.some.inj acts)
            rw [transcript_snoc_of_idle idle]
            exact inductionHypothesis absentBefore
      | _ => simpa [transcript, TrafficEvent.exchange?] using inductionHypothesis absentBefore

/-- Whatever other tasks do, what is left of a task is what its own calls have
led to. -/
theorem Run.leads
    {traffic : Traffic (GatewayProgram TaskResult)}
    {task : GatewayTask (GatewayProgram TaskResult)}
    {rest : GatewayProgram TaskResult}
    (run : Run gateway.behaviour (quiet scene) events traffic)
    (present : traffic.tasks[number]? = some task)
    (left : task.rest = some rest) :
    (task.errand.program gateway).Leads (transcript number events) rest := by
  induction run generalizing task rest with
  | nil => cases present
  | snoc earlier step inductionHypothesis =>
      cases step.change present with
      | begins event errand absent idle =>
          cases left
          rw [transcript_snoc_of_idle idle, transcript_of_absent earlier absent]
          exact .nil
      | @moves task stage next call answer there leftBefore moved =>
          cases left
          obtain ⟨next, rfl, rfl⟩ := moved
          have before := inductionHypothesis there leftBefore
          rw [transcript_snoc_call]
          exact .snoc answer before
      | panics there => cases left
      | stays there idle =>
          rw [transcript_snoc_of_idle idle]
          exact inductionHypothesis there left

/-- A task that is alone with the scene performs its program there. -/
theorem Run.performs
    {errand : Errand}
    {traffic : Traffic (GatewayProgram TaskResult)}
    (run :
      Run gateway.behaviour { scene := scene, tasks := [newTask gateway.behaviour errand] }
        events traffic)
    (alone : ∀ event ∈ events, event.IsAlone 0) :
    ∃ task rest,
      traffic.tasks[0]? = some task ∧
        task.rest = some rest ∧
        scene.Performs (errand.program gateway) (transcript 0 events) traffic.scene rest := by
  induction run with
  | nil => exact ⟨_, _, rfl, rfl, .nil⟩
  | @snoc events middle later event _ step inductionHypothesis =>
      obtain ⟨aloneBefore, aloneNow⟩ := List.forall_mem_append.mp alone
      obtain ⟨task, rest, present, left, performs⟩ := inductionHypothesis aloneBefore
      have last := List.forall_mem_singleton.mp aloneNow
      cases event with
      | calls actor call answer =>
          cases (show actor = 0 from last)
          obtain ⟨acting, stage, next, there, leftBefore, moved, admitted, sceneIs, presentLater⟩ :=
            step.called
          cases present.symm.trans there
          cases left.symm.trans leftBefore
          obtain ⟨next, rfl, rfl⟩ := moved
          refine ⟨_, _, presentLater, rfl, ?_⟩
          rw [transcript_snoc_call, sceneIs]
          exact performs.snoc admitted
      | passes milliseconds =>
          cases step
          have idle : (TrafficEvent.passes milliseconds).task? ≠ some 0 := nofun
          refine ⟨task, rest, present, left, ?_⟩
          rw [transcript_snoc_of_idle idle]
          exact performs.passes milliseconds
      | _ => exact last.elim

/-- A task that is alone and has a result has performed what the result is of. -/
theorem Run.performs_of_result
    {α : Type}
    {f : α → TaskResult}
    {program : GatewayProgram α}
    {errand : Errand}
    {traffic : Traffic (GatewayProgram TaskResult)}
    {task : GatewayTask (GatewayProgram TaskResult)}
    {result : TaskResult}
    (isProgram : errand.program gateway = program.bind fun value => .done (f value))
    (run :
      Run gateway.behaviour { scene := scene, tasks := [newTask gateway.behaviour errand] }
        events traffic)
    (alone : ∀ event ∈ events, event.IsAlone 0)
    (present : traffic.tasks[0]? = some task)
    (left : task.rest = some (.done result)) :
    ∃ value,
      f value = result ∧
        scene.Performs program (transcript 0 events) traffic.scene (.done value) := by
  obtain ⟨same, rest, there, isRest, performs⟩ := run.performs alone
  cases present.symm.trans there
  cases left.symm.trans isRest
  rw [isProgram] at performs
  obtain ⟨inner, isOver, performsInner⟩ := Scene.Performs.of_map performs
  obtain ⟨value, rfl, isResult⟩ := Program.eq_done_of_map isOver
  exact ⟨value, isResult, performsInner⟩

end Traffic

end OnDemandTls
