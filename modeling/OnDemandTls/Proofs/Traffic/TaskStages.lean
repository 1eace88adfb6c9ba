import OnDemandTls.Proofs.Traffic.Basic
import OnDemandTls.Proofs.Traffic.HandshakeStages

namespace OnDemandTls

/-!
# Stages of tasks

The tasks of a gateway as machines: a handshake, an issuance that somebody asked
for, the search for the primary certificate, or a cycle of maintenance.  A run
of the programs is a run of these machines with the same events, and the other
way around (`Traffic.run_staged`, `Traffic.run_of_staged`).
-/

namespace Program

variable {I : Interface} {α β : Type}

/-- A program makes no other calls than the allowed ones. -/
inductive CallsOnly (allowed : I.Call → Prop) : Program I α → Prop where
  | done (value : α) :
      CallsOnly allowed (.done value)
  | call
      {request : I.Call}
      {next : I.Answer request → Program I α} :
      allowed request →
      (∀ answer, CallsOnly allowed (next answer)) →
      CallsOnly allowed (.call request next)

namespace CallsOnly

variable {allowed : I.Call → Prop}

theorem bind
    {program : Program I α}
    {next : α → Program I β}
    (first : program.CallsOnly allowed)
    (second : ∀ value, (next value).CallsOnly allowed) :
    (program.bind next).CallsOnly allowed := by
  induction first with
  | done value => exact second value
  | call permitted _ inductionHypothesis => exact .call permitted inductionHypothesis

theorem allowed_next
    {request : I.Call}
    {next : I.Answer request → Program I α}
    (only : (Program.call request next).CallsOnly allowed) :
    allowed request := by
  cases only with
  | call permitted _ => exact permitted

theorem rest
    {request : I.Call}
    {next : I.Answer request → Program I α}
    (only : (Program.call request next).CallsOnly allowed)
    (answer : I.Answer request) :
    (next answer).CallsOnly allowed := by
  cases only with
  | call _ restOnly => exact restOnly answer

end CallsOnly

end Program

namespace GatewayCall

/-- The calls of a cycle of maintenance. -/
def IsUpkeep : GatewayCall → Prop
  | clock | findRecord _ | deleteRecord _ | listRecords | compactStore => True
  | dropReady _ | purgeReady | purgeStaged | startObtaining _ => True
  | _ => False

end GatewayCall

namespace Gateway

theorem callsOnly_deleteAll
    {allowed : GatewayCall → Prop}
    (deletes : ∀ key, allowed (.deleteRecord key))
    (drops : ∀ key, allowed (.dropReady key))
    (withHandshakes : Bool)
    (keys : List String) :
    (deleteAll withHandshakes keys).CallsOnly allowed := by
  induction keys with
  | nil => exact .done _
  | cons key rest inductionHypothesis =>
      refine .call (deletes key) fun answer => ?_
      cases answer with
      | error error => exact inductionHypothesis
      | ok =>
          cases withHandshakes with
          | true =>
              refine .call (drops _) fun _ => ?_
              exact inductionHypothesis.bind fun deleted => .done _
          | false => exact inductionHypothesis.bind fun deleted => .done _

theorem callsOnly_purge (withHandshakes : Bool) :
    (purge withHandshakes).CallsOnly GatewayCall.IsUpkeep := by
  refine .call trivial fun staged => ?_
  cases withHandshakes with
  | true => exact .call trivial fun _ => .done _
  | false => exact .done _

theorem callsOnly_start
    {allowed : GatewayCall → Prop}
    (starts : ∀ request, allowed (.startObtaining request))
    (request : Option ObtainRequest) :
    (start request).CallsOnly allowed := by
  cases request with
  | none => exact .done _
  | some request => exact .call (starts request) fun _ => .done _

/-- A cycle of maintenance makes no call that an issuance makes. -/
theorem callsOnly_sweep
    (gateway : Gateway)
    (interval : Nat)
    (withHandshakes : Bool) :
    (gateway.sweep interval withHandshakes).CallsOnly GatewayCall.IsUpkeep := by
  refine .call trivial fun now => ?_
  refine .call trivial fun records => ?_
  cases records with
  | error error => exact .done _
  | ok records =>
      refine (callsOnly_deleteAll (fun _ => trivial) (fun _ => trivial) _ _).bind fun deleted => ?_
      refine .call trivial fun compaction => ?_
      refine (callsOnly_purge withHandshakes).bind fun purged => ?_
      refine .call trivial fun primary => ?_
      cases primary with
      | error error => exact .done _
      | ok primary => exact (callsOnly_start (fun _ => trivial) _).bind fun renewal => .done _

/-- What is asked for when there is no primary certificate. -/
def primaryRequest (gateway : Gateway) : ObtainRequest where
  domains := gateway.primaryDomain.domains
  role := .primary

end Gateway

/-- Where a task stands: before which call. -/
inductive TaskStage where
  | handshake (stage : HandshakeStage)
  | issuance (job : IssuanceJob) (stage : IssuanceStage)
  /-- The primary certificate is looked for. -/
  | seekingPrimary
  /-- What is left of a cycle of maintenance. -/
  | upkeep
      (rest : GatewayProgram (Except StoreError MaintenanceReport))
      (only : rest.CallsOnly GatewayCall.IsUpkeep)
  | finished (result : TaskResult)

namespace TaskStage

/-- The stage of a task that is about to obtain a certificate. -/
def requesting
    (gateway : Gateway)
    (request : ObtainRequest) :
    TaskStage :=
  match gateway.job? request with
  | none => .finished (.obtained (.error .emptyRequest))
  | some job => .issuance job .claiming

/-- The first stage of an errand. -/
def opening
    (gateway : Gateway) :
    Errand → TaskStage
  | .resolving serverName protocols =>
      .handshake (HandshakeStage.opening gateway serverName protocols)
  | .obtaining request => requesting gateway request
  | .ensuringPrimary => .seekingPrimary
  | .sweeping interval withHandshakes =>
      .upkeep _ (gateway.callsOnly_sweep interval withHandshakes)

/-- What follows a step of an issuance. -/
def proceed
    (job : IssuanceJob) :
    IssuanceProgress → TaskStage
  | .on stage => .issuance job stage
  | .ended result => .finished (.obtained result)

def primarySought
    (gateway : Gateway) :
    Except StoreError (Option CertificateResource) → TaskStage
  | .error error => .finished (.obtained (.error (.store error)))
  | .ok (some resource) => .finished (.obtained (.ok resource))
  | .ok none => requesting gateway gateway.primaryRequest

/-- What is left of the program at a stage. -/
def program
    (gateway : Gateway) :
    TaskStage → GatewayProgram TaskResult
  | handshake stage => (stage.program gateway).bind fun result => .done (.resolved result)
  | issuance job stage => (stage.program job).bind fun result => .done (.obtained result)
  | seekingPrimary => gateway.ensurePrimary.bind fun result => .done (.obtained result)
  | upkeep rest _ => rest.bind fun result => .done (.swept result)
  | finished result => .done result

/-- The calls of a task and where their answers lead. -/
inductive Moves (gateway : Gateway) :
    TaskStage → (call : GatewayCall) → call.Answer → TaskStage → Prop where
  | handshake
      {stage later : HandshakeStage}
      {call : GatewayCall}
      {answer : call.Answer} :
      HandshakeStage.Moves gateway stage call answer later →
      Moves gateway (.handshake stage) call answer (.handshake later)
  | issuance
      {job : IssuanceJob}
      {stage : IssuanceStage}
      {call : GatewayCall}
      {answer : call.Answer}
      {later : IssuanceProgress} :
      IssuanceStage.Moves job stage call answer later →
      Moves gateway (.issuance job stage) call answer (proceed job later)
  | primarySought (answer : Except StoreError (Option CertificateResource)) :
      Moves gateway .seekingPrimary (.findRecord gateway.primaryDomain.key) answer
        (primarySought gateway answer)
  | upkeep
      {call : GatewayCall}
      {next : call.Answer → GatewayProgram (Except StoreError MaintenanceReport)}
      (only : Program.CallsOnly GatewayCall.IsUpkeep (Program.call (I := gatewayCalls) call next))
      (answer : call.Answer) :
      Moves gateway (.upkeep (.call call next) only) call answer
        (.upkeep (next answer) (only.rest answer))

/-! ## The machine and the program -/

theorem program_requesting
    (gateway : Gateway)
    (request : ObtainRequest) :
    (requesting gateway request).program gateway =
      (gateway.obtain request).bind fun result => .done (.obtained result) := by
  unfold requesting
  rw [gateway.obtain_eq]
  cases gateway.job? request <;> rfl

/-- The program of an errand begins in its first stage. -/
theorem program_opening
    (gateway : Gateway)
    (errand : Errand) :
    (opening gateway errand).program gateway = errand.program gateway := by
  cases errand with
  | resolving serverName protocols =>
      simp only [opening, program, Errand.program, HandshakeStage.program_opening]
  | obtaining request => exact program_requesting gateway request
  | ensuringPrimary => rfl
  | sweeping interval withHandshakes => rfl

theorem program_proceed
    (gateway : Gateway)
    (job : IssuanceJob)
    (progress : IssuanceProgress) :
    (proceed job progress).program gateway =
      (progress.program job).bind fun result => .done (.obtained result) := by
  cases progress <;> rfl

theorem program_seekingPrimary (gateway : Gateway) :
    seekingPrimary.program gateway =
      .call (.findRecord gateway.primaryDomain.key) fun answer =>
        (primarySought gateway answer).program gateway := by
  refine congrArg (Program.call (I := gatewayCalls)
    (GatewayCall.findRecord gateway.primaryDomain.key)) (funext fun answer => ?_)
  cases answer with
  | error error => rfl
  | ok found =>
      cases found with
      | some resource => rfl
      | none => exact (program_requesting gateway gateway.primaryRequest).symm

/-- Every answer to the next call of the program is a move of the machine. -/
theorem moves_of_program
    {gateway : Gateway}
    {stage : TaskStage}
    {call : GatewayCall}
    {next : call.Answer → GatewayProgram TaskResult}
    (upcoming : stage.program gateway = .call call next)
    (answer : call.Answer) :
    ∃ later, Moves gateway stage call answer later ∧ next answer = later.program gateway := by
  cases stage with
  | handshake stage =>
      rw [program] at upcoming
      cases inside : stage.program gateway with
      | done result =>
          rw [inside] at upcoming
          cases upcoming
      | call callInside nextInside =>
          rw [inside] at upcoming
          cases upcoming
          obtain ⟨later, moves, nextIs⟩ := HandshakeStage.moves_of_program inside answer
          exact ⟨_, .handshake moves, by rw [program, ← nextIs]⟩
  | issuance job stage =>
      obtain ⟨callInside, nextInside, inside⟩ := stage.program_eq_call job
      rw [program, inside] at upcoming
      cases upcoming
      obtain ⟨later, moves, nextIs⟩ := IssuanceStage.moves_of_program inside answer
      exact ⟨_, .issuance moves, by rw [program_proceed, ← nextIs]⟩
  | seekingPrimary =>
      rw [program_seekingPrimary] at upcoming
      cases upcoming
      exact ⟨_, .primarySought answer, rfl⟩
  | upkeep rest only =>
      cases rest with
      | done result => cases upcoming
      | call callInside nextInside =>
          cases upcoming
          exact ⟨_, .upkeep only answer, rfl⟩
  | finished result => cases upcoming

/-- Every move of the machine is an answer to the next call of the program. -/
theorem program_of_moves
    {gateway : Gateway}
    {stage later : TaskStage}
    {call : GatewayCall}
    {answer : call.Answer}
    (moves : Moves gateway stage call answer later) :
    ∃ next : call.Answer → GatewayProgram TaskResult,
      stage.program gateway = .call call next ∧ later.program gateway = next answer := by
  cases moves with
  | handshake moves =>
      obtain ⟨next, upcoming, laterIs⟩ := HandshakeStage.program_of_moves moves
      refine ⟨fun answer => (next answer).bind fun result => .done (.resolved result), ?_, ?_⟩
      · rw [program, upcoming]
        rfl
      · rw [program, laterIs]
  | issuance moves =>
      obtain ⟨next, upcoming, laterIs⟩ := IssuanceStage.program_of_moves moves
      refine ⟨fun answer => (next answer).bind fun result => .done (.obtained result), ?_, ?_⟩
      · rw [program, upcoming]
        rfl
      · rw [program_proceed, laterIs]
  | primarySought answer => exact ⟨_, program_seekingPrimary gateway, rfl⟩
  | upkeep only answer => exact ⟨_, rfl, rfl⟩

/-- A task whose program has come to its end is over. -/
theorem over_cases
    {gateway : Gateway}
    {stage : TaskStage}
    {result : TaskResult}
    (ended : stage.program gateway = .done result) :
    (∃ resolved, stage = .handshake (.finished resolved) ∧ result = .resolved resolved) ∨
      (∃ swept only, stage = .upkeep (.done swept) only ∧ result = .swept swept) ∨
      stage = .finished result := by
  cases stage with
  | handshake stage =>
      rw [program] at ended
      cases inside : stage.program gateway with
      | call call next =>
          rw [inside] at ended
          cases ended
      | done resolved =>
          rw [inside] at ended
          cases ended
          exact Or.inl ⟨resolved, by rw [HandshakeStage.over_of_done inside], rfl⟩
  | issuance job stage =>
      obtain ⟨call, next, upcoming⟩ := stage.program_eq_call job
      rw [program, upcoming] at ended
      cases ended
  | seekingPrimary =>
      rw [program_seekingPrimary] at ended
      cases ended
  | upkeep rest only =>
      cases rest with
      | call call next => cases ended
      | done swept =>
          cases ended
          exact Or.inr (Or.inl ⟨swept, only, rfl, rfl⟩)
  | finished last =>
      cases ended
      exact Or.inr (Or.inr rfl)

end TaskStage

namespace Gateway

/-- The behaviour of the machines of a gateway's tasks. -/
def stagedBehaviour (gateway : Gateway) : Behaviour TaskStage where
  opening := TaskStage.opening gateway
  Moves := TaskStage.Moves gateway

end Gateway

namespace GatewayTask

variable {ρ σ : Type}

/-- A task with another view of what is left to do. -/
def map
    (view : ρ → σ)
    (task : GatewayTask ρ) :
    GatewayTask σ where
  errand := task.errand
  rest := task.rest.map view
  guard := task.guard

@[simp] theorem map_mk
    (view : ρ → σ)
    (errand : Errand)
    (rest : Option ρ)
    (guard : Option (String × Nat)) :
    GatewayTask.map view ⟨errand, rest, guard⟩ = ⟨errand, rest.map view, guard⟩ :=
  rfl

@[simp] theorem map_errand (view : ρ → σ) (task : GatewayTask ρ) :
    (task.map view).errand = task.errand :=
  rfl

@[simp] theorem map_rest (view : ρ → σ) (task : GatewayTask ρ) :
    (task.map view).rest = task.rest.map view :=
  rfl

@[simp] theorem map_guard (view : ρ → σ) (task : GatewayTask ρ) :
    (task.map view).guard = task.guard :=
  rfl

end GatewayTask

namespace Traffic

variable {ρ σ : Type}

/-- Traffic with another view of what is left to do. -/
def map
    (view : ρ → σ)
    (traffic : Traffic ρ) :
    Traffic σ where
  scene := traffic.scene
  tasks := traffic.tasks.map (GatewayTask.map view)

/-- The programs of traffic whose tasks are machines. -/
def programs
    (gateway : Gateway)
    (traffic : Traffic TaskStage) :
    Traffic (GatewayProgram TaskResult) :=
  traffic.map (TaskStage.program gateway)

theorem newTask_programs
    (gateway : Gateway)
    (errand : Errand) :
    (newTask gateway.stagedBehaviour errand).map (TaskStage.program gateway) =
      newTask gateway.behaviour errand := by
  unfold newTask GatewayTask.map
  simp only [Option.map_some]
  exact congrArg (GatewayTask.mk errand · none)
    (congrArg some (TaskStage.program_opening gateway errand))

/-- The task behind a task with another view. -/
theorem getElem?_map
    {view : ρ → σ}
    {traffic : Traffic ρ}
    {number : Nat}
    {task : GatewayTask σ}
    (present : (traffic.map view).tasks[number]? = some task) :
    ∃ original, traffic.tasks[number]? = some original ∧ original.map view = task := by
  rw [map, List.getElem?_map] at present
  exact Option.map_eq_some_iff.mp present

/-- The task with the program of a machine's stage. -/
theorem getElem?_programs
    {gateway : Gateway}
    {traffic : Traffic TaskStage}
    {number : Nat}
    {task : GatewayTask TaskStage}
    (present : traffic.tasks[number]? = some task) :
    (traffic.programs gateway).tasks[number]? = some (task.map (TaskStage.program gateway)) := by
  rw [programs, map, List.getElem?_map, present, Option.map_some]

/-- A task whose turn it is, behind the one with its program. -/
theorem original_of_programs
    {gateway : Gateway}
    {traffic : Traffic TaskStage}
    {number : Nat}
    {task : GatewayTask (GatewayProgram TaskResult)}
    {program : GatewayProgram TaskResult}
    (present : (traffic.programs gateway).tasks[number]? = some task)
    (left : task.rest = some program) :
    ∃ original stage,
      traffic.tasks[number]? = some original ∧
        original.map (TaskStage.program gateway) = task ∧
        original.rest = some stage ∧
        stage.program gateway = program := by
  obtain ⟨original, behind, same⟩ := getElem?_map present
  obtain ⟨stage, stageLeft, programIs⟩ :
      ∃ stage, original.rest = some stage ∧ stage.program gateway = program := by
    rw [← same] at left
    exact Option.map_eq_some_iff.mp left
  exact ⟨original, stage, behind, same, stageLeft, programIs⟩

/-- A step of the programs is a step of the machines. -/
theorem step_staged
    {gateway : Gateway}
    {traffic : Traffic TaskStage}
    {event : TrafficEvent}
    {later : Traffic (GatewayProgram TaskResult)}
    (step : Step gateway.behaviour (traffic.programs gateway) event later) :
    ∃ laterStaged,
      Step gateway.stagedBehaviour traffic event laterStaged ∧
        laterStaged.programs gateway = later := by
  cases step with
  | arrives errand =>
      refine ⟨_, .arrives traffic errand, ?_⟩
      simp only [programs, map, List.map_append, List.map_cons, List.map_nil,
        newTask_programs]
  | calls present left moves admitted =>
      obtain ⟨original, stage, behind, same, stageLeft, programIs⟩ :=
        original_of_programs present left
      obtain ⟨next, upcoming, rfl⟩ := moves
      obtain ⟨laterStage, stageMoves, nextIs⟩ :=
        TaskStage.moves_of_program (programIs.trans upcoming) _
      refine ⟨_, .calls behind stageLeft stageMoves admitted, ?_⟩
      simp only [programs, map, List.map_append, List.map_set, List.map_map,
        Function.comp_def, newTask_programs, GatewayTask.map_mk, GatewayTask.map_errand,
        GatewayTask.map_guard, Option.map_some, nextIs, ← same]
  | @panics number task program rest call answer present left moves =>
      obtain ⟨original, stage, behind, same, stageLeft, programIs⟩ :=
        original_of_programs present left
      obtain ⟨next, upcoming, -⟩ := moves
      obtain ⟨laterStage, stageMoves, -⟩ :=
        TaskStage.moves_of_program (programIs.trans upcoming) answer
      refine ⟨_, .panics behind stageLeft stageMoves, ?_⟩
      simp only [programs, map, List.map_set, GatewayTask.map_mk, GatewayTask.map_errand,
        Option.map_none, GatewayTask.map_guard, ← same]
  | passes milliseconds => exact ⟨_, .passes traffic milliseconds, rfl⟩

/-- A step of the machines is a step of the programs. -/
theorem step_of_staged
    {gateway : Gateway}
    {traffic later : Traffic TaskStage}
    {event : TrafficEvent}
    (step : Step gateway.stagedBehaviour traffic event later) :
    Step gateway.behaviour (traffic.programs gateway) event (later.programs gateway) := by
  cases step with
  | arrives errand =>
      have next : Step gateway.behaviour (traffic.programs gateway) (.arrives errand) _ :=
        .arrives (traffic.programs gateway) errand
      simpa only [programs, map, List.map_append, List.map_cons, List.map_nil,
        newTask_programs] using next
  | @calls number task stage nextStage call answer present left moves admitted =>
      have next :
          Step gateway.behaviour (traffic.programs gateway) (.calls number call answer) _ :=
        .calls (getElem?_programs present) (by simp only [GatewayTask.map_rest, left, Option.map_some])
          (TaskStage.program_of_moves moves) admitted
      simpa only [programs, map, List.map_append, List.map_set, List.map_map,
        Function.comp_def, newTask_programs, GatewayTask.map_mk, GatewayTask.map_errand,
        GatewayTask.map_guard, Option.map_some] using next
  | @panics number task stage nextStage call answer present left moves =>
      have next : Step gateway.behaviour (traffic.programs gateway) (.panics number) _ :=
        .panics (getElem?_programs present) (by simp only [GatewayTask.map_rest, left, Option.map_some])
          (TaskStage.program_of_moves moves)
      simpa only [programs, map, List.map_set, GatewayTask.map_mk, GatewayTask.map_errand,
        GatewayTask.map_guard, Option.map_none] using next
  | passes milliseconds => exact .passes (traffic.programs gateway) milliseconds

/-- A run that goes on from where machines stand is a run of these machines. -/
theorem run_staged_from
    {gateway : Gateway}
    (start : Traffic TaskStage)
    {events : List TrafficEvent}
    {traffic : Traffic (GatewayProgram TaskResult)}
    (run : Run gateway.behaviour (start.programs gateway) events traffic) :
    ∃ staged,
      Run gateway.stagedBehaviour start events staged ∧
        staged.programs gateway = traffic := by
  induction run with
  | nil => exact ⟨_, .nil, rfl⟩
  | snoc _ step inductionHypothesis =>
      obtain ⟨staged, stagedRun, rfl⟩ := inductionHypothesis
      obtain ⟨laterStaged, stagedStep, laterIs⟩ := step_staged step
      exact ⟨laterStaged, .snoc stagedRun stagedStep, laterIs⟩

/-- A run of the programs is a run of the machines. -/
theorem run_staged
    {gateway : Gateway}
    {scene : Scene}
    {events : List TrafficEvent}
    {traffic : Traffic (GatewayProgram TaskResult)}
    (run : Run gateway.behaviour (quiet scene) events traffic) :
    ∃ staged,
      Run gateway.stagedBehaviour (quiet scene) events staged ∧
        staged.programs gateway = traffic :=
  run_staged_from (quiet scene) run

/-- A run of the machines is a run of the programs. -/
theorem run_of_staged
    {gateway : Gateway}
    {scene : Scene}
    {events : List TrafficEvent}
    {staged : Traffic TaskStage}
    (run : Run gateway.stagedBehaviour (quiet scene) events staged) :
    Run gateway.behaviour (quiet scene) events (staged.programs gateway) := by
  induction run with
  | nil => exact .nil
  | snoc _ step inductionHypothesis => exact .snoc inductionHypothesis (step_of_staged step)

end Traffic

end OnDemandTls
