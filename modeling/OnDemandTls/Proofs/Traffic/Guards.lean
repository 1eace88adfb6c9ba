import OnDemandTls.Proofs.Traffic.Standing
import OnDemandTls.Proofs.Traffic.Steps

namespace OnDemandTls

/-!
# Guards in traffic

The registry of locks and the guards of the tasks are two views of one thing: a
name is locked exactly while one task holds its guard, and a task holds the
guard of a name exactly while it owns the issuance (`GuardsFit`).
-/

namespace IssuanceLocks

/-- A registry is that of the guards which numbered tasks hold. -/
structure Registers (locks : IssuanceLocks) (guards : Nat → Option (String × Nat)) : Prop where
  fresh :
    ∀ {name guardNumber}, locks.held.get? name = some guardNumber → guardNumber < locks.nextGuard
  held_iff :
    ∀ {name guardNumber},
      locks.held.get? name = some guardNumber ↔ ∃ number, guards number = some (name, guardNumber)
  unique :
    ∀ {number other name guardNumber otherGuard},
      guards number = some (name, guardNumber) →
      guards other = some (name, otherGuard) →
      number = other

/-- Guards with another one for one task. -/
def withGuard
    (guards : Nat → Option (String × Nat))
    (number : Nat)
    (guard : Option (String × Nat)) :
    Nat → Option (String × Nat) :=
  fun other => if other = number then guard else guards other

@[simp] theorem withGuard_same
    (guards : Nat → Option (String × Nat))
    (number : Nat) :
    withGuard guards number (guards number) = guards := by
  funext other
  unfold withGuard
  split
  · rename_i same
    rw [same]
  · rfl

/-- A claim that finds a name free takes the next number for it. -/
theorem acquire_owner
    {locks : IssuanceLocks}
    {name : String}
    {guardNumber : Nat}
    (claimed : (locks.acquire name).1 = .owner guardNumber) :
    locks.held.get? name = none ∧
      guardNumber = locks.nextGuard ∧
      (locks.acquire name).2 =
        { held := locks.held.insert name guardNumber, nextGuard := guardNumber + 1 } := by
  unfold acquire at claimed ⊢
  cases found : locks.held.get? name with
  | some seen =>
      rw [found] at claimed
      cases claimed
  | none =>
      rw [found] at claimed
      cases claimed
      exact ⟨rfl, rfl, rfl⟩

/-- A claim that finds a name taken learns the number of the guard. -/
theorem acquire_busy
    {locks : IssuanceLocks}
    {name : String}
    {guardNumber : Nat}
    (claimed : (locks.acquire name).1 = .busy guardNumber) :
    locks.held.get? name = some guardNumber ∧ (locks.acquire name).2 = locks := by
  unfold acquire at claimed ⊢
  cases found : locks.held.get? name with
  | some seen =>
      rw [found] at claimed
      cases claimed
      exact ⟨rfl, rfl⟩
  | none =>
      rw [found] at claimed
      cases claimed

namespace Registers

variable {locks : IssuanceLocks} {guards : Nat → Option (String × Nat)}

/-- A registry without names is that of tasks without guards. -/
theorem of_isEmpty (free : locks.isEmpty = true) : locks.Registers fun _ => none := by
  have unlocked := Catalog.isEmpty_iff.mp free
  refine ⟨?_, ?_, nofun⟩
  · intro name guardNumber found
    rw [unlocked name] at found
    cases found
  · intro name guardNumber
    rw [unlocked name]
    exact ⟨nofun, nofun⟩

/-- The new owner of a name holds a guard of its own. -/
theorem acquire
    {number : Nat}
    {name : String}
    {guardNumber : Nat}
    (registers : locks.Registers guards)
    (free : guards number = none)
    (claimed : (locks.acquire name).1 = .owner guardNumber) :
    (locks.acquire name).2.Registers (withGuard guards number (some (name, guardNumber))) := by
  obtain ⟨unlocked, isNext, next⟩ := acquire_owner claimed
  have nobody : ∀ {other otherGuard}, guards other ≠ some (name, otherGuard) := by
    intro other otherGuard held
    have locked := registers.held_iff.mpr ⟨other, held⟩
    rw [unlocked] at locked
    cases locked
  rw [next]
  refine ⟨?_, ?_, ?_⟩
  · intro other otherGuard found
    simp only [Catalog.get?_insert] at found
    split at found
    · cases found
      exact Nat.lt_succ_self guardNumber
    · exact isNext ▸ Nat.lt_succ_of_lt (registers.fresh found)
  · intro other otherGuard
    simp only [Catalog.get?_insert]
    constructor
    · intro found
      split at found
      · rename_i same
        cases found
        exact ⟨number, by rw [same]; exact if_pos rfl⟩
      · obtain ⟨holder, held⟩ := registers.held_iff.mp found
        refine ⟨holder, ?_⟩
        unfold withGuard
        rw [if_neg ?_, held]
        intro same
        rw [same, free] at held
        cases held
    · rintro ⟨holder, held⟩
      unfold withGuard at held
      split at held
      · cases held
        exact if_pos rfl
      · rw [if_neg ?_]
        · exact registers.held_iff.mpr ⟨holder, held⟩
        · intro same
          exact nobody (same ▸ held)
  · intro first second shared firstGuard secondGuard firstHeld secondHeld
    unfold withGuard at firstHeld secondHeld
    split at firstHeld <;> split at secondHeld
    · rename_i firstSame secondSame
      exact firstSame.trans secondSame.symm
    · cases firstHeld
      exact (nobody secondHeld).elim
    · cases secondHeld
      exact (nobody firstHeld).elim
    · exact registers.unique firstHeld secondHeld

/-- A released name has no guard left. -/
theorem release
    {number : Nat}
    {name : String}
    {guardNumber : Nat}
    (registers : locks.Registers guards)
    (held : guards number = some (name, guardNumber)) :
    (locks.release name).Registers (withGuard guards number none) := by
  refine ⟨?_, ?_, ?_⟩
  · intro other otherGuard found
    simp only [IssuanceLocks.release, Catalog.get?_erase] at found
    split at found
    · cases found
    · exact registers.fresh found
  · intro other otherGuard
    simp only [IssuanceLocks.release, Catalog.get?_erase]
    constructor
    · intro found
      split at found
      · cases found
      · rename_i differs
        obtain ⟨holder, holderHeld⟩ := registers.held_iff.mp found
        refine ⟨holder, ?_⟩
        unfold withGuard
        rw [if_neg ?_, holderHeld]
        intro same
        rw [same, held] at holderHeld
        cases holderHeld
        exact differs rfl
    · rintro ⟨holder, holderHeld⟩
      unfold withGuard at holderHeld
      split at holderHeld
      · cases holderHeld
      · rename_i another
        rw [if_neg ?_]
        · exact registers.held_iff.mpr ⟨holder, holderHeld⟩
        · intro same
          exact another (registers.unique (same ▸ holderHeld) held)
  · intro first second shared firstGuard secondGuard firstHeld secondHeld
    unfold withGuard at firstHeld secondHeld
    split at firstHeld
    · cases firstHeld
    · split at secondHeld
      · cases secondHeld
      · exact registers.unique firstHeld secondHeld

end Registers

end IssuanceLocks

/-! ## Owners -/

namespace IssuanceStage

/-- Whether the name is owned at a stage. -/
def owns : IssuanceStage → Bool
  | claiming | waiting _ | taking => false
  | _ => true

end IssuanceStage

namespace IssuanceJob

@[simp] theorem owns_freshStage (job : IssuanceJob) :
    job.freshStage.owns = true := by
  unfold freshStage
  cases job.request.user <;> rfl

@[simp] theorem owns_firstStage (job : IssuanceJob) :
    job.firstStage.owns = true := by
  unfold firstStage
  split
  · rfl
  · split
    · rfl
    · cases job.previous with
      | none => exact job.owns_freshStage
      | some previous => rfl

@[simp] theorem owns_verdict
    (job : IssuanceJob)
    (reason : AuthorityError)
    (second : Int) :
    (job.verdict reason second).owns = true := by
  unfold verdict
  cases job.previous.filter (fun resource => !resource.isExpired second) <;> rfl

end IssuanceJob

namespace Standing

/-- The name that a task owns where it stands. -/
def owned? : Standing → Option String
  | during job stage => if stage.owns then some job.key else none
  | before | past => none

end Standing

/-- What a call does to the name that a task owns. -/
inductive OwnershipMove :
    Option String → (call : GatewayCall) → call.Answer → Option String → Prop where
  | keeps
      {owned : Option String}
      {call : GatewayCall}
      {answer : call.Answer} :
      (∀ name, call ≠ .claim name) →
      (∀ name, call ≠ .release name) →
      OwnershipMove owned call answer owned
  | takes (name : String) (guardNumber : Nat) :
      OwnershipMove none (.claim name) (.owner guardNumber) (some name)
  | misses (name : String) (guardNumber : Nat) :
      OwnershipMove none (.claim name) (.busy guardNumber) none
  | gives (name : String) :
      OwnershipMove (some name) (.release name) () none

namespace GatewayCall

theorem not_claim_of_not_issues
    {call : GatewayCall}
    (harmless : ¬ call.Issues)
    (name : String) :
    call ≠ .claim name := by
  rintro rfl
  exact harmless trivial

theorem not_release_of_not_issues
    {call : GatewayCall}
    (harmless : ¬ call.Issues)
    (name : String) :
    call ≠ .release name := by
  rintro rfl
  exact harmless trivial

end GatewayCall

namespace IssuanceStage

/-- What a call of an issuance does to the name that its task owns. -/
theorem ownership
    {job : IssuanceJob}
    {stage : IssuanceStage}
    {call : GatewayCall}
    {answer : call.Answer}
    {later : IssuanceProgress}
    (moves : Moves job stage call answer later) :
    OwnershipMove (Standing.during job stage).owned? call answer (later.standing job).owned? := by
  cases moves with
  | busy guardNumber => exact .misses job.key guardNumber
  | owner guardNumber =>
      simp only [IssuanceProgress.standing, Standing.owned?, job.owns_firstStage, if_true]
      exact .takes job.key guardNumber
  | released result => exact .gives job.key
  | paidFailure =>
      simp only [IssuanceProgress.standing, Standing.owned?, job.owns_freshStage, if_true]
      exact .keeps nofun nofun
  | judged reason second =>
      simp only [IssuanceProgress.standing, Standing.owned?, job.owns_verdict, if_true]
      exact .keeps nofun nofun
  | _ => exact .keeps nofun nofun

end IssuanceStage

namespace Standing

/-- What a call of a task does to the name that the task owns. -/
theorem Moves.ownership
    {standing later : Standing}
    {call : GatewayCall}
    {answer : call.Answer}
    (moves : Moves standing call answer later) :
    OwnershipMove standing.owned? call answer later.owned? := by
  cases moves with
  | inside inside => exact IssuanceStage.ownership inside
  | waits harmless | begins _ harmless | skips harmless | ends harmless =>
      exact .keeps (GatewayCall.not_claim_of_not_issues harmless)
        (GatewayCall.not_release_of_not_issues harmless)

end Standing

namespace Scene

/-- Only claims and releases change the registry. -/
theorem locks_after
    (scene : Scene)
    {call : GatewayCall}
    (answer : call.Answer)
    (noClaim : ∀ name, call ≠ .claim name)
    (noRelease : ∀ name, call ≠ .release name) :
    (scene.after call answer).locks = scene.locks := by
  cases call with
  | claim name => exact (noClaim name rfl).elim
  | release name => exact (noRelease name rfl).elim
  | putRecord name resource => cases answer <;> rfl
  | deleteRecord name => cases answer <;> rfl
  | _ => rfl

end Scene

/-- Only claims and releases change a guard. -/
theorem guardAfter_eq
    (guard : Option (String × Nat))
    {call : GatewayCall}
    (answer : call.Answer)
    (noClaim : ∀ name, call ≠ .claim name)
    (noRelease : ∀ name, call ≠ .release name) :
    guardAfter guard call answer = guard := by
  cases call with
  | claim name => exact (noClaim name rfl).elim
  | release name => exact (noRelease name rfl).elim
  | _ => rfl

namespace TaskStage

/-- A task that has come to its end owns no name. -/
theorem owned?_of_done
    {gateway : Gateway}
    {stage : TaskStage}
    {result : TaskResult}
    (ended : stage.program gateway = .done result) :
    (stage.standing gateway).owned? = none := by
  cases stage with
  | handshake stage =>
      cases stage with
      | obtaining target name inner =>
          obtain ⟨call, next, inside⟩ := inner.program_eq_call (gateway.clientJob target name)
          rw [program, HandshakeStage.program, inside] at ended
          cases ended
      | _ => rfl
  | issuance job inner =>
      obtain ⟨call, next, inside⟩ := inner.program_eq_call job
      rw [program, inside] at ended
      cases ended
  | _ => rfl

end TaskStage

/-! ## The invariant -/

namespace Traffic

variable {ρ : Type} {behaviour : Behaviour ρ}

/-- The guards that the numbered tasks hold. -/
def guards
    (traffic : Traffic ρ)
    (number : Nat) :
    Option (String × Nat) :=
  traffic.tasks[number]?.bind GatewayTask.guard

theorem guards_of_present
    {traffic : Traffic ρ}
    {number : Nat}
    {task : GatewayTask ρ}
    (present : traffic.tasks[number]? = some task) :
    traffic.guards number = task.guard := by
  rw [guards, present, Option.bind_some]

theorem guards_programs
    (gateway : Gateway)
    (traffic : Traffic TaskStage) :
    (traffic.programs gateway).guards = traffic.guards := by
  funext number
  unfold guards programs map
  rw [List.getElem?_map]
  cases traffic.tasks[number]? <;> rfl

/-- A task that does not act keeps its guard. -/
theorem Step.guards_idle
    {traffic later : Traffic ρ}
    {event : TrafficEvent}
    {number : Nat}
    (step : Step behaviour traffic event later)
    (idle : event.task? ≠ some number) :
    later.guards number = traffic.guards number := by
  cases before : traffic.tasks[number]? with
  | some old =>
      rw [guards_of_present before, guards_of_present (step.bystander before idle)]
  | none =>
      unfold guards
      rw [before]
      cases after : later.tasks[number]? with
      | none => rfl
      | some new =>
          cases step.change after with
          | begins event errand => rfl
          | moves there => exact (idle rfl).elim
          | panics there => exact (idle rfl).elim
          | stays there =>
              rw [before] at there
              cases there

/-- Only the guard of the task that acts changes. -/
theorem Step.guards_acting
    {traffic later : Traffic ρ}
    {event : TrafficEvent}
    {number : Nat}
    {task : GatewayTask ρ}
    (step : Step behaviour traffic event later)
    (acts : event.task? = some number)
    (present : later.tasks[number]? = some task) :
    later.guards = IssuanceLocks.withGuard traffic.guards number task.guard := by
  funext other
  unfold IssuanceLocks.withGuard
  split
  · rename_i same
    rw [same, guards_of_present present]
  · rename_i differs
    refine step.guards_idle ?_
    rw [acts]
    exact fun same => differs (Option.some.inj same).symm

end Traffic

/-- The guards of the tasks are those of the registry, and each is held by the
owner of an issuance while it owns it. -/
structure GuardsFit (gateway : Gateway) (traffic : Traffic TaskStage) : Prop where
  registers : traffic.scene.locks.Registers traffic.guards
  owners :
    ∀ {number : Nat} {task : GatewayTask TaskStage},
      traffic.tasks[number]? = some task →
      task.guard.map Prod.fst =
        task.rest.bind fun stage => (stage.standing gateway).owned?

namespace GuardsFit

open Traffic

variable {gateway : Gateway} {traffic later : Traffic TaskStage} {event : TrafficEvent}

/-- No task owns a name when it begins. -/
theorem owned?_opening
    (gateway : Gateway)
    (errand : Errand) :
    ((TaskStage.opening gateway errand).standing gateway).owned? = none := by
  rcases TaskStage.standing_opening gateway errand with isBefore | isPast | ⟨job, isClaiming⟩
  · rw [isBefore]
    rfl
  · rw [isPast]
    rfl
  · rw [isClaiming]
    rfl

/-- The guard of a task after a call is that of the name which it then owns. -/
theorem guardAfter_owned
    {guard : Option (String × Nat)}
    {owned ownedLater : Option String}
    {call : GatewayCall}
    {answer : call.Answer}
    (fits : guard.map Prod.fst = owned)
    (moves : OwnershipMove owned call answer ownedLater) :
    (guardAfter guard call answer).map Prod.fst = ownedLater := by
  cases moves with
  | keeps noClaim noRelease =>
      rw [guardAfter_eq guard answer noClaim noRelease]
      exact fits
  | takes name guardNumber => rfl
  | misses name guardNumber => exact fits
  | gives name => rfl

theorem owners_step
    (fits : GuardsFit gateway traffic)
    (step : Step gateway.stagedBehaviour traffic event later)
    {number : Nat}
    {task : GatewayTask TaskStage}
    (present : later.tasks[number]? = some task) :
    task.guard.map Prod.fst =
      task.rest.bind fun stage => (stage.standing gateway).owned? := by
  cases step.change present with
  | begins event errand => exact (owned?_opening gateway errand).symm
  | moves there left moves =>
      have owner := fits.owners there
      rw [left, Option.bind_some] at owner
      exact guardAfter_owned owner (TaskStage.standing_moves moves).ownership
  | panics there => rfl
  | stays there => exact fits.owners there

/-- The registry follows the guards in a call. -/
theorem registers_after
    {scene : Scene}
    {guards : Nat → Option (String × Nat)}
    {number : Nat}
    {guard : Option (String × Nat)}
    {owned ownedLater : Option String}
    {call : GatewayCall}
    {answer : call.Answer}
    (registers : scene.locks.Registers guards)
    (held : guards number = guard)
    (owner : guard.map Prod.fst = owned)
    (moves : OwnershipMove owned call answer ownedLater)
    (admitted : scene.Admits call answer) :
    (scene.after call answer).locks.Registers
      (IssuanceLocks.withGuard guards number (guardAfter guard call answer)) := by
  subst held
  cases moves with
  | keeps noClaim noRelease =>
      rw [guardAfter_eq _ answer noClaim noRelease, IssuanceLocks.withGuard_same,
        scene.locks_after answer noClaim noRelease]
      exact registers
  | takes name guardNumber =>
      exact registers.acquire (Option.map_eq_none_iff.mp owner) admitted.symm
  | misses name guardNumber =>
      obtain ⟨-, same⟩ := IssuanceLocks.acquire_busy admitted.symm
      change (scene.locks.acquire name).2.Registers (IssuanceLocks.withGuard guards number
        (guards number))
      rw [IssuanceLocks.withGuard_same, same]
      exact registers
  | gives name =>
      obtain ⟨⟨held, guardNumber⟩, isGuard, rfl⟩ := Option.map_eq_some_iff.mp owner
      exact registers.release isGuard

/-- The registry follows the guards in a panic. -/
theorem registers_dropGuard
    {scene : Scene}
    {guards : Nat → Option (String × Nat)}
    {number : Nat}
    (registers : scene.locks.Registers guards) :
    (scene.dropGuard (guards number)).locks.Registers
      (IssuanceLocks.withGuard guards number none) := by
  cases held : guards number with
  | none =>
      rw [← held, IssuanceLocks.withGuard_same, held]
      exact registers
  | some guard => exact registers.release held

theorem registers_step
    (fits : GuardsFit gateway traffic)
    (step : Step gateway.stagedBehaviour traffic event later) :
    later.scene.locks.Registers later.guards := by
  cases acts : event.task? with
  | none =>
      have sameGuards : later.guards = traffic.guards := by
        funext number
        refine step.guards_idle ?_
        rw [acts]
        nofun
      rw [sameGuards]
      rcases step.scene_cases with ⟨errand, -, sceneIs⟩ | ⟨number, call, answer, rfl, -⟩ |
        ⟨number, task, rfl, -⟩ | ⟨milliseconds, -, sceneIs⟩
      · rw [sceneIs]
        exact fits.registers
      · cases acts
      · cases acts
      · rw [sceneIs]
        exact fits.registers
  | some number =>
      cases event with
      | arrives errand => cases acts
      | calls actor call answer =>
          cases acts
          obtain ⟨task, stage, next, there, left, moves, admitted, sceneIs, present⟩ :=
            step.called
          have owner := fits.owners there
          rw [left, Option.bind_some] at owner
          rw [step.guards_acting rfl present, sceneIs]
          exact registers_after fits.registers (guards_of_present there) owner
            (TaskStage.standing_moves moves).ownership admitted
      | panics actor =>
          cases acts
          obtain ⟨task, there, sceneIs, present⟩ := step.panicked
          rw [step.guards_acting rfl present, sceneIs, ← guards_of_present there]
          exact registers_dropGuard fits.registers
      | passes milliseconds => cases acts

/-- The registry and the guards fit in every run. -/
theorem of_run
    {scene : Scene}
    {events : List TrafficEvent}
    (free : scene.locks.isEmpty = true)
    (run : Run gateway.stagedBehaviour (quiet scene) events traffic) :
    GuardsFit gateway traffic := by
  induction run with
  | nil =>
      refine ⟨?_, fun present => nomatch present⟩
      exact IssuanceLocks.Registers.of_isEmpty free
  | snoc _ step inductionHypothesis =>
      exact ⟨registers_step inductionHypothesis step, owners_step inductionHypothesis step⟩

/-- The stages of a run belong to the errands of their tasks. -/
theorem fits_of_run
    {scene : Scene}
    {events : List TrafficEvent}
    (run : Run gateway.stagedBehaviour (quiet scene) events traffic)
    {number : Nat}
    {task : GatewayTask TaskStage}
    {stage : TaskStage}
    (present : traffic.tasks[number]? = some task)
    (left : task.rest = some stage) :
    stage.Fits gateway task.errand :=
  Run.stages (fun errand stage => stage.Fits gateway errand) (TaskStage.fits_opening gateway)
    (fun _ _ _ _ _ fits moves => TaskStage.fits_moves fits moves) run present left

/-- Who owns a name holds a guard for it. -/
theorem guard_of_owned
    (fits : GuardsFit gateway traffic)
    {number : Nat}
    {task : GatewayTask TaskStage}
    {stage : TaskStage}
    {name : String}
    (present : traffic.tasks[number]? = some task)
    (left : task.rest = some stage)
    (owned : (stage.standing gateway).owned? = some name) :
    ∃ guardNumber, task.guard = some (name, guardNumber) := by
  have owner := fits.owners present
  rw [left, Option.bind_some, owned] at owner
  obtain ⟨⟨_, guardNumber⟩, held, rfl⟩ := Option.map_eq_some_iff.mp owner
  exact ⟨guardNumber, held⟩

/-- A name that a task owns is locked. -/
theorem held_of_owned
    (fits : GuardsFit gateway traffic)
    {number : Nat}
    {task : GatewayTask TaskStage}
    {stage : TaskStage}
    {name : String}
    (present : traffic.tasks[number]? = some task)
    (left : task.rest = some stage)
    (owned : (stage.standing gateway).owned? = some name) :
    ∃ guardNumber, traffic.scene.locks.held.get? name = some guardNumber := by
  obtain ⟨guardNumber, held⟩ := fits.guard_of_owned present left owned
  exact ⟨guardNumber, fits.registers.held_iff.mpr ⟨number, (guards_of_present present).trans held⟩⟩

/-- Two tasks that own one name are one task. -/
theorem owner_unique
    (fits : GuardsFit gateway traffic)
    {number other : Nat}
    {task otherTask : GatewayTask TaskStage}
    {stage otherStage : TaskStage}
    {name : String}
    (present : traffic.tasks[number]? = some task)
    (left : task.rest = some stage)
    (owned : (stage.standing gateway).owned? = some name)
    (otherPresent : traffic.tasks[other]? = some otherTask)
    (otherLeft : otherTask.rest = some otherStage)
    (otherOwned : (otherStage.standing gateway).owned? = some name) :
    number = other := by
  obtain ⟨guardNumber, held⟩ := fits.guard_of_owned present left owned
  obtain ⟨otherGuard, otherHeld⟩ := fits.guard_of_owned otherPresent otherLeft otherOwned
  exact fits.registers.unique ((guards_of_present present).trans held)
    ((guards_of_present otherPresent).trans otherHeld)

end GuardsFit

end OnDemandTls
