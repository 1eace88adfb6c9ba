import Mathlib.Data.List.Forall2
import OnDemandTls.Proofs.Staging.Premises
import OnDemandTls.Proofs.Traffic.TaskStages

namespace OnDemandTls

/-!
# What staged challenges cannot tell

Two calls have answers that depend on the staged challenges: a validation
handshake asks for its staged answer, and a cycle of maintenance purges what has
expired.  Every program of a gateway goes on alike, call by call, whatever these
two are answered (`Errand.agree_program`).  Premises that differ in their staged
challenges alone therefore have the same runs (`Premises.Alike.run`): only
validation handshakes may end otherwise, and maintenance may count other numbers
of challenges that it purged.
-/

namespace Program

variable {I : Interface} {α β : Type} {shown : I.Call → Prop}

/-- A machine whose stages allow their calls is a program that makes allowed
calls only. -/
theorem CallsOnly.of_stages
    {ρ : Type}
    {allowed : I.Call → Prop}
    {view : ρ → Program I α}
    {fits : ρ → Prop}
    (moves :
      ∀ stage request next,
        fits stage →
        view stage = .call request next →
        allowed request ∧ ∀ answer, ∃ later, fits later ∧ next answer = view later)
    {stage : ρ}
    (fit : fits stage) :
    (view stage).CallsOnly allowed := by
  generalize isView : view stage = program
  induction program generalizing stage with
  | done value => exact .done value
  | call request next inductionHypothesis =>
      obtain ⟨isAllowed, goesOn⟩ := moves stage request next fit isView
      refine .call isAllowed fun answer => ?_
      obtain ⟨later, fitLater, nextIs⟩ := goesOn answer
      exact inductionHypothesis answer fitLater nextIs.symm

/-- Two programs make the same calls and end in related values, given the same
answers to the calls that are shown and any answers to the others. -/
inductive Agree (shown : I.Call → Prop) (related : α → α → Prop) :
    Program I α → Program I α → Prop where
  | done {value other : α} :
      related value other →
      Agree shown related (.done value) (.done other)
  | shown
      {request : I.Call}
      {next nextOther : I.Answer request → Program I α} :
      shown request →
      (∀ answer, Agree shown related (next answer) (nextOther answer)) →
      Agree shown related (.call request next) (.call request nextOther)
  | hidden
      {request : I.Call}
      {next nextOther : I.Answer request → Program I α} :
      ¬ shown request →
      (∀ answer other, Agree shown related (next answer) (nextOther other)) →
      Agree shown related (.call request next) (.call request nextOther)

namespace Agree

variable {related : α → α → Prop}

theorem of_call
    {request : I.Call}
    {next : I.Answer request → Program I α}
    {other : Program I α}
    (agree : Agree shown related (.call request next) other) :
    ∃ nextOther,
      other = .call request nextOther ∧
        ∀ answer answerOther,
          (shown request → answerOther = answer) →
          Agree shown related (next answer) (nextOther answerOther) := by
  cases agree with
  | @shown _ _ nextOther isShown goesOn =>
      refine ⟨nextOther, rfl, fun answer answerOther same => ?_⟩
      rw [same isShown]
      exact goesOn answer
  | @hidden _ _ nextOther _ goesOn => exact ⟨nextOther, rfl, fun answer other _ => goesOn answer other⟩

theorem bind
    {relatedLast : β → β → Prop}
    {program other : Program I α}
    {next nextOther : α → Program I β}
    (first : Agree shown related program other)
    (second :
      ∀ value valueOther,
        related value valueOther →
        Agree shown relatedLast (next value) (nextOther valueOther)) :
    Agree shown relatedLast (program.bind next) (other.bind nextOther) := by
  induction first with
  | done isRelated => exact second _ _ isRelated
  | shown isShown _ inductionHypothesis => exact .shown isShown inductionHypothesis
  | hidden isHidden _ inductionHypothesis => exact .hidden isHidden inductionHypothesis

/-- Programs that agree and make shown calls only are one program. -/
theorem eq_of_callsOnly
    {program other : Program I α}
    (agree : Agree shown related program other)
    (isEq : ∀ value valueOther, related value valueOther → value = valueOther)
    (only : program.CallsOnly shown) :
    program = other := by
  induction agree with
  | done isRelated => rw [isEq _ _ isRelated]
  | shown isShown _ inductionHypothesis =>
      exact congrArg _ (funext fun answer => inductionHypothesis answer (only.rest answer))
  | hidden isHidden => exact (isHidden only.allowed_next).elim

end Agree

/-- A program that makes shown calls only agrees with itself. -/
theorem CallsOnly.agree
    {related : α → α → Prop}
    {program : Program I α}
    (only : program.CallsOnly shown)
    (refl : ∀ value, related value value) :
    Agree shown related program program := by
  induction only with
  | done value => exact .done (refl value)
  | call isShown _ inductionHypothesis => exact .shown isShown inductionHypothesis

end Program

/-! ## Calls that staged challenges have nothing to do with -/

/-- The answer to a call does not depend on the staged challenges. -/
def GatewayCall.IgnoresStaged : GatewayCall → Prop
  | stagedAnswer _ | purgeStaged => False
  | _ => True

namespace HandshakeStage

/-- The handshake is not about to ask for a staged answer. -/
def IgnoresStaged : HandshakeStage → Prop
  | validating _ => False
  | _ => True

theorem ignoresStaged_serve
    (target : ServingTarget)
    (name : String)
    (resource : CertificateResource) :
    (serve target name resource).IgnoresStaged := by
  unfold serve
  split <;> trivial

/-- A handshake that ignores the staged challenges goes on to ignore them. -/
theorem Moves.ignoresStaged
    {gateway : Gateway}
    {stage later : HandshakeStage}
    {call : GatewayCall}
    {answer : call.Answer}
    (moves : Moves gateway stage call answer later)
    (ignores : stage.IgnoresStaged) :
    call.IgnoresStaged ∧ later.IgnoresStaged := by
  cases moves with
  | validated name answer => exact ignores.elim
  | found target name resource =>
      refine ⟨trivial, ?_⟩
      unfold HandshakeStage.found
      split
      · exact ignoresStaged_serve target name resource
      · trivial
  | missing target name =>
      refine ⟨trivial, ?_⟩
      unfold HandshakeStage.missing
      split
      · trivial
      · split <;> trivial
  | dated target name resource second =>
      refine ⟨trivial, ?_⟩
      unfold HandshakeStage.dated
      split
      · exact ignoresStaged_serve target name resource
      · trivial
  | launched target name resource => exact ⟨trivial, ignoresStaged_serve target name resource⟩
  | @issuance target name stage call answer progress inside =>
      refine ⟨by cases inside <;> trivial, ?_⟩
      cases progress with
      | on stage => trivial
      | ended result =>
          cases result with
          | ok resource => exact ignoresStaged_serve target name resource
          | error reason => trivial
  | fallbackStored target name reason mock =>
      exact ⟨trivial, ignoresStaged_serve target name mock⟩
  | _ => exact ⟨trivial, trivial⟩

end HandshakeStage

namespace TaskStage

/-- What is left of a task has nothing to do with the staged challenges. -/
def IgnoresStaged : TaskStage → Prop
  | handshake stage => stage.IgnoresStaged
  | upkeep _ _ => False
  | _ => True

theorem ignoresStaged_requesting
    (gateway : Gateway)
    (request : ObtainRequest) :
    (requesting gateway request).IgnoresStaged := by
  unfold requesting
  split <;> trivial

theorem Moves.ignoresStaged
    {gateway : Gateway}
    {stage later : TaskStage}
    {call : GatewayCall}
    {answer : call.Answer}
    (moves : Moves gateway stage call answer later)
    (ignores : stage.IgnoresStaged) :
    call.IgnoresStaged ∧ later.IgnoresStaged := by
  cases moves with
  | handshake moves => exact moves.ignoresStaged ignores
  | @issuance job stage call answer progress moves =>
      exact ⟨by cases moves <;> trivial, by cases progress <;> trivial⟩
  | primarySought answer =>
      refine ⟨trivial, ?_⟩
      unfold TaskStage.primarySought
      split
      · trivial
      · trivial
      · exact ignoresStaged_requesting gateway gateway.primaryRequest
  | upkeep only answer => exact ignores.elim

theorem callsOnly_program
    {gateway : Gateway}
    {stage : TaskStage}
    (ignores : stage.IgnoresStaged) :
    (stage.program gateway).CallsOnly GatewayCall.IgnoresStaged := by
  refine Program.CallsOnly.of_stages (fun stage call next ignores upcoming => ?_) ignores
  have goesOn (answer : call.Answer) :
      call.IgnoresStaged ∧
        ∃ later : TaskStage, later.IgnoresStaged ∧ next answer = later.program gateway := by
    obtain ⟨later, moves, nextIs⟩ := moves_of_program upcoming answer
    have kept := moves.ignoresStaged ignores
    exact ⟨kept.1, later, kept.2, nextIs⟩
  exact ⟨(goesOn call.someAnswer).1, fun answer => (goesOn answer).2⟩

end TaskStage

namespace Errand

/-- No call of an errand depends on the staged challenges. -/
def IgnoresStaged : Errand → Prop
  | resolving _ protocols => validationProtocol ∉ protocols
  | obtaining _ | ensuringPrimary => True
  | sweeping _ _ => False

/-- An errand that has nothing to do with staged challenges makes no call that
depends on them. -/
theorem callsOnly_program
    {errand : Errand}
    (gateway : Gateway)
    (ignores : errand.IgnoresStaged) :
    (errand.program gateway).CallsOnly GatewayCall.IgnoresStaged := by
  rw [← TaskStage.program_opening]
  refine TaskStage.callsOnly_program ?_
  cases errand with
  | resolving serverName protocols =>
      have ordinary : validationProtocol ∉ protocols := ignores
      change (HandshakeStage.opening gateway serverName protocols).IgnoresStaged
      unfold HandshakeStage.opening
      split
      · trivial
      · rw [if_neg (by simpa using ordinary)]
        trivial
  | obtaining request => exact TaskStage.ignoresStaged_requesting gateway request
  | ensuringPrimary => trivial
  | sweeping interval withHandshakes => exact ignores.elim

end Errand

/-! ## Tasks that agree -/

/-- The end of a task without the number of what maintenance purged. -/
def TaskResult.uncounted : TaskResult → TaskResult
  | swept (.ok report) => swept (.ok { report with purged := 0 })
  | result => result

namespace Errand

/-- Two ends of one errand that differ at most by what staged challenges tell. -/
def SameEnd
    (result other : TaskResult) :
    Errand → Prop
  | resolving _ protocols => validationProtocol ∈ protocols ∨ result = other
  | obtaining _ | ensuringPrimary => result = other
  | sweeping _ _ => result.uncounted = other.uncounted

theorem sameEnd_refl
    (errand : Errand)
    (result : TaskResult) :
    errand.SameEnd result result := by
  cases errand with
  | resolving serverName protocols => exact Or.inr rfl
  | _ => rfl

theorem eq_of_sameEnd
    {errand : Errand}
    {result other : TaskResult}
    (ignores : errand.IgnoresStaged)
    (same : errand.SameEnd result other) :
    result = other := by
  cases errand with
  | resolving serverName protocols => exact same.resolve_left ignores
  | obtaining request => exact same
  | ensuringPrimary => exact same
  | sweeping interval withHandshakes => exact ignores.elim

/-- Two programs are what is left of one errand, up to what staged challenges
tell. -/
abbrev Agree
    (errand : Errand)
    (program other : GatewayProgram TaskResult) :
    Prop :=
  Program.Agree GatewayCall.IgnoresStaged (fun result other => errand.SameEnd result other)
    program other

end Errand

namespace Gateway

/-- Only the number of what is purged depends on the staged challenges. -/
theorem agree_purge (withHandshakes : Bool) :
    Program.Agree GatewayCall.IgnoresStaged (fun _ _ => True)
      (purge withHandshakes) (purge withHandshakes) := by
  refine .hidden id fun purged other => ?_
  cases withHandshakes with
  | true => exact .shown trivial fun _ => .done trivial
  | false => exact .done trivial

/-- A cycle of maintenance does the same whatever is staged. -/
theorem agree_sweep
    (gateway : Gateway)
    (interval : Nat)
    (withHandshakes : Bool) :
    Program.Agree GatewayCall.IgnoresStaged
      (fun result other =>
        (TaskResult.swept result).uncounted = (TaskResult.swept other).uncounted)
      (gateway.sweep interval withHandshakes) (gateway.sweep interval withHandshakes) := by
  refine .shown trivial fun now => .shown trivial fun records => ?_
  cases records with
  | error error => exact .done rfl
  | ok records =>
      have deletes : (deleteAll withHandshakes _).CallsOnly GatewayCall.IgnoresStaged :=
        callsOnly_deleteAll (fun _ => trivial) (fun _ => trivial) withHandshakes
          (gateway.expiring (nextCycle now interval) records)
      refine (deletes.agree fun _ => rfl).bind fun deleted _ sameDeleted => ?_
      subst sameDeleted
      refine .shown trivial fun compaction => ?_
      refine (agree_purge withHandshakes).bind fun purged other _ => ?_
      refine .shown trivial fun primary => ?_
      cases primary with
      | error error => exact .done rfl
      | ok primary =>
          have starts (request : Option ObtainRequest) :
              (start request).CallsOnly GatewayCall.IgnoresStaged :=
            callsOnly_start (fun _ => trivial) request
          refine ((starts _).agree fun _ => rfl).bind fun renewal _ sameRenewal => ?_
          subst sameRenewal
          exact .done rfl

end Gateway

/-- Every errand goes on alike whatever is staged. -/
theorem Errand.agree_program
    (gateway : Gateway)
    (errand : Errand) :
    errand.Agree (errand.program gateway) (errand.program gateway) := by
  by_cases ignores : errand.IgnoresStaged
  · exact (errand.callsOnly_program gateway ignores).agree errand.sameEnd_refl
  · cases errand with
    | obtaining request => exact (ignores trivial).elim
    | ensuringPrimary => exact (ignores trivial).elim
    | resolving serverName protocols =>
        have validates : validationProtocol ∈ protocols := not_not.mp ignores
        simp only [Errand.program, Gateway.resolve]
        cases (serverName.map HostName.asked).filter (· ≠ "") with
        | none => exact .done (Or.inr rfl)
        | some name =>
            simp only
            rw [if_pos (by simpa using validates), Gateway.resolveChallenge_eq]
            exact .hidden id fun _ _ => .done (Or.inl validates)
    | sweeping interval withHandshakes =>
        exact (gateway.agree_sweep interval withHandshakes).bind fun _ _ same => .done same

/-! ## Premises with other staged challenges -/

/-- The event without what staged challenges tell. -/
def TrafficEvent.concealed : TrafficEvent → TrafficEvent
  | calls task (.stagedAnswer name) _ => .calls task (.stagedAnswer name) none
  | calls task .purgeStaged _ => .calls task .purgeStaged (0 : Nat)
  | event => event

/-- The event without what staged challenges tell. -/
def PremisesEvent.concealed : PremisesEvent → PremisesEvent
  | traffic event => .traffic event.concealed
  | event => event

/-- Two tasks with one errand that have come equally far, up to what staged
challenges tell. -/
structure GatewayTask.Alike (task other : GatewayTask (GatewayProgram TaskResult)) : Prop where
  errand : other.errand = task.errand
  guard : other.guard = task.guard
  rest : Option.Rel task.errand.Agree task.rest other.rest

/-- Premises that differ at most by their staged challenges and by what these
told. -/
structure Premises.Alike {α : Type} (premises other : Premises α) : Prop where
  scene : other.traffic.scene = premises.traffic.scene
  budgets : other.backstage.budgets = premises.backstage.budgets
  asked : other.backstage.asked = premises.backstage.asked
  tasks : List.Forall₂ GatewayTask.Alike premises.traffic.tasks other.traffic.tasks

section TwoLists

variable {β γ : Type} {related : β → γ → Prop} {left : List β} {right : List γ}

theorem forall₂_getElem?
    (alike : List.Forall₂ related left right)
    {number : Nat}
    {value : β}
    (present : left[number]? = some value) :
    ∃ other, right[number]? = some other ∧ related value other := by
  induction alike generalizing number with
  | nil => cases present
  | cons head _ inductionHypothesis =>
      cases number with
      | zero =>
          cases present
          exact ⟨_, rfl, head⟩
      | succ number => exact inductionHypothesis present

theorem forall₂_set
    (alike : List.Forall₂ related left right)
    (number : Nat)
    {value : β}
    {other : γ}
    (isRelated : related value other) :
    List.Forall₂ related (left.set number value) (right.set number other) := by
  induction alike generalizing number with
  | nil => exact .nil
  | cons head rest inductionHypothesis =>
      cases number with
      | zero => exact .cons isRelated rest
      | succ number => exact .cons head (inductionHypothesis number)

end TwoLists

namespace GatewayTask

theorem alike_new
    (gateway : Gateway)
    (errand : Errand) :
    Alike (Traffic.newTask gateway.behaviour errand) (Traffic.newTask gateway.behaviour errand) :=
  ⟨rfl, rfl, .some (errand.agree_program gateway)⟩

/-- A task that is about to call is alike to one that is about to make the same call. -/
theorem Alike.of_call
    {task other : GatewayTask (GatewayProgram TaskResult)}
    (alike : task.Alike other)
    {call : GatewayCall}
    {next : call.Answer → GatewayProgram TaskResult}
    (left : task.rest = some (.call call next)) :
    ∃ nextOther : call.Answer → GatewayProgram TaskResult,
      other.rest = some (.call call nextOther) ∧
        ∀ answer answerOther,
          (call.IgnoresStaged → answerOther = answer) →
          task.errand.Agree (next answer) (nextOther answerOther) := by
  have rests := alike.rest
  rw [left] at rests
  generalize isRest : other.rest = rest at rests
  cases rests with
  | some agree =>
      obtain ⟨nextOther, rfl, goesOn⟩ := agree.of_call
      exact ⟨nextOther, rfl, goesOn⟩

end GatewayTask

namespace Traffic

variable {gateway : Gateway} {scene : Scene} {events : List TrafficEvent}
variable {traffic : Traffic (GatewayProgram TaskResult)} {number : Nat}
variable {task : GatewayTask (GatewayProgram TaskResult)} {program : GatewayProgram TaskResult}

/-- What is left of a task goes on alike whatever is staged. -/
theorem Run.agree
    (run : Run gateway.behaviour (quiet scene) events traffic)
    (present : traffic.tasks[number]? = some task)
    (left : task.rest = some program) :
    task.errand.Agree program program := by
  refine run.stages (fun errand program => errand.Agree program program)
    (fun errand => errand.agree_program gateway) ?_ present left
  rintro errand _ call answer _ agree ⟨next, rfl, rfl⟩
  obtain ⟨nextOther, same, goesOn⟩ := Program.Agree.of_call agree
  cases same
  exact goesOn answer answer fun _ => rfl

/-- What is left of an errand that has nothing to do with staged challenges makes
no call that depends on them. -/
theorem Run.callsOnly
    (run : Run gateway.behaviour (quiet scene) events traffic)
    (present : traffic.tasks[number]? = some task)
    (left : task.rest = some program)
    (ignores : task.errand.IgnoresStaged) :
    program.CallsOnly GatewayCall.IgnoresStaged := by
  refine run.stages
    (fun errand program => errand.IgnoresStaged → program.CallsOnly GatewayCall.IgnoresStaged)
    (fun errand => errand.callsOnly_program gateway) ?_ present left ignores
  rintro errand _ call answer _ only ⟨next, rfl, rfl⟩ ignores
  exact (only ignores).rest answer

end Traffic

namespace Premises

variable {α : Type} {gateway : Gateway} {premises other later : Premises α}

theorem Alike.withStaged
    (alike : premises.Alike other)
    (staged stagedOther : StagedChallenges) :
    (premises.withStaged staged).Alike (other.withStaged stagedOther) :=
  ⟨alike.scene, alike.budgets, alike.asked, alike.tasks⟩

/-- On alike premises, a task that has nothing to do with staged challenges is
one and the same. -/
theorem Alike.task_eq
    {scene : Scene}
    {events : List TrafficEvent}
    (alike : premises.Alike other)
    (run : Traffic.Run gateway.behaviour (.quiet scene) events premises.traffic)
    {number : Nat}
    {task : GatewayTask (GatewayProgram TaskResult)}
    (present : premises.traffic.tasks[number]? = some task)
    (ignores : task.errand.IgnoresStaged) :
    other.traffic.tasks[number]? = some task := by
  obtain ⟨⟨errandOther, restOther, guardOther⟩, presentOther, sameErrand, sameGuard, rests⟩ :=
    forall₂_getElem? alike.tasks present
  have sameRest : restOther = task.rest := by
    cases left : task.rest with
    | none =>
        rw [left] at rests
        cases rests
        rfl
    | some program =>
        rw [left] at rests
        cases rests with
        | some agree =>
            have only := run.callsOnly present left ignores
            rw [agree.eq_of_callsOnly (fun _ _ => Errand.eq_of_sameEnd ignores) only]
  rw [presentOther]
  cases sameErrand
  cases sameGuard
  cases sameRest
  rfl

/-- Premises that a run has led to are alike with any staged challenges. -/
theorem alike_withStaged
    {scene : Scene}
    {events : List TrafficEvent}
    (run : Traffic.Run gateway.behaviour (.quiet scene) events premises.traffic)
    (staged stagedOther : StagedChallenges) :
    (premises.withStaged staged).Alike (premises.withStaged stagedOther) := by
  refine ⟨rfl, rfl, rfl, List.forall₂_same.mpr fun task member => ⟨rfl, rfl, ?_⟩⟩
  obtain ⟨number, present⟩ := List.mem_iff_getElem?.mp member
  cases left : task.rest with
  | none => exact .none
  | some program => exact .some (run.agree present left)

variable [Quantity α] {event : PremisesEvent}

/-- Alike premises admit one call together; what it is answered may be told by
the staged challenges alone. -/
theorem Alike.answer
    (alike : premises.Alike other)
    {number : Nat}
    {call : GatewayCall}
    {answer : call.Answer}
    (admitted : premises.traffic.scene.Admits call answer)
    (admittedBehind : premises.Admits (.calls number call answer)) :
    ∃ answerOther : call.Answer,
      (call.IgnoresStaged → answerOther = answer) ∧
        other.traffic.scene.Admits call answerOther ∧
        other.Admits (.calls number call answerOther) ∧
        other.traffic.scene.after call answerOther = premises.traffic.scene.after call answer ∧
        (∀ guard, guardAfter guard call answerOther = guardAfter guard call answer) ∧
        TrafficEvent.concealed (.calls number call answerOther) =
          TrafficEvent.concealed (.calls number call answer) := by
  rw [alike.scene]
  cases call with
  | stagedAnswer name =>
      exact ⟨(other.staged.get name other.instant).1, nofun, trivial, rfl, rfl, fun _ => rfl, rfl⟩
  | purgeStaged =>
      exact ⟨(other.staged.purge other.instant).1, nofun, trivial, rfl, rfl, fun _ => rfl, rfl⟩
  | spend budget =>
      refine ⟨answer, fun _ => rfl, admitted, ?_, rfl, fun _ => rfl, rfl⟩
      change (other.backstage.budgets.attempt budget other.traffic.scene.instant).1 = none
      rw [alike.budgets, alike.scene]
      exact admittedBehind
  | askUser user =>
      refine ⟨answer, fun _ => rfl, admitted, ?_, rfl, fun _ => rfl, rfl⟩
      change answer = (other.backstage.budgets.askUser user other.traffic.scene.instant).1
      rw [alike.budgets, alike.scene]
      exact admittedBehind
  | _ => exact ⟨answer, fun _ => rfl, admitted, trivial, rfl, fun _ => rfl, rfl⟩

/-- What a call leaves backstage differs in the staged challenges alone. -/
theorem Alike.backstage_after
    (alike : premises.Alike other)
    (call : GatewayCall) :
    (other.backstage.after other.instant call).budgets =
        (premises.backstage.after premises.instant call).budgets ∧
      (other.backstage.after other.instant call).asked =
        (premises.backstage.after premises.instant call).asked := by
  have sameTime : other.instant = premises.instant := congrArg Scene.instant alike.scene
  cases call <;> simp [Backstage.after, alike.budgets, alike.asked, sameTime]

/-- Whatever happens on premises can happen on alike ones. -/
theorem Alike.step
    (alike : premises.Alike other)
    (step : Step gateway premises event later) :
    ∃ eventOther laterOther,
      Step gateway other eventOther laterOther ∧
        eventOther.concealed = event.concealed ∧
        later.Alike laterOther := by
  cases step with
  | traffic step admittedBehind =>
      cases step with
      | arrives errand =>
          refine ⟨_, _, .traffic (.arrives other.traffic errand) trivial, rfl, ?_⟩
          exact ⟨alike.scene, alike.budgets, alike.asked,
            List.rel_append alike.tasks (.cons (GatewayTask.alike_new gateway errand) .nil)⟩
      | @calls number task _ _ call answer present left moves admitted =>
          obtain ⟨next, rfl, rfl⟩ := moves
          obtain ⟨taskOther, presentOther, tasksAlike⟩ := forall₂_getElem? alike.tasks present
          obtain ⟨nextOther, leftOther, goesOn⟩ := tasksAlike.of_call left
          obtain ⟨answerOther, same, admittedOther, behindOther, sameAfter, sameGuard, concealed⟩ :=
            alike.answer admitted admittedBehind
          refine ⟨_, _,
            .traffic (.calls presentOther leftOther ⟨nextOther, rfl, rfl⟩ admittedOther) behindOther,
            congrArg PremisesEvent.traffic concealed, ?_⟩
          have sameBackstage := alike.backstage_after call
          refine ⟨sameAfter, sameBackstage.1, sameBackstage.2, ?_⟩
          refine List.rel_append (forall₂_set alike.tasks number ?_) ?_
          · refine ⟨tasksAlike.errand, ?_, .some (goesOn answer answerOther same)⟩
            rw [tasksAlike.guard]
            exact sameGuard task.guard
          · rw [List.forall₂_map_left_iff, List.forall₂_map_right_iff, List.forall₂_same]
            exact fun errand _ => GatewayTask.alike_new gateway errand
      | @panics number task _ _ call answer present left moves =>
          obtain ⟨next, rfl, rfl⟩ := moves
          obtain ⟨taskOther, presentOther, tasksAlike⟩ := forall₂_getElem? alike.tasks present
          obtain ⟨nextOther, leftOther, -⟩ := tasksAlike.of_call left
          refine ⟨_, _,
            .traffic
              (.panics presentOther leftOther ⟨nextOther, rfl, (rfl : nextOther answer = _)⟩) trivial,
            rfl, ?_⟩
          refine ⟨?_, alike.budgets, alike.asked, forall₂_set alike.tasks number ?_⟩
          · change other.traffic.scene.dropGuard taskOther.guard = _
            rw [alike.scene, tasksAlike.guard]
            rfl
          · exact ⟨tasksAlike.errand, rfl, .none⟩
      | passes milliseconds =>
          refine ⟨_, _, .traffic (.passes other.traffic milliseconds) trivial, rfl, ?_⟩
          have sameScene :=
            congrArg (fun scene => { scene with instant := scene.instant + milliseconds }) alike.scene
          exact ⟨sameScene, alike.budgets, alike.asked, alike.tasks⟩
  | @waits number deadline task budget next budgets present left attempted =>
      obtain ⟨taskOther, presentOther, tasksAlike⟩ := forall₂_getElem? alike.tasks present
      obtain ⟨nextOther, leftOther, -⟩ := tasksAlike.of_call left
      have attemptedOther :
          other.backstage.budgets.attempt budget other.instant = (some deadline, budgets) := by
        rw [alike.budgets, instant, alike.scene]
        exact attempted
      refine ⟨_, _, .waits presentOther leftOther attemptedOther, rfl, ?_⟩
      exact ⟨alike.scene, rfl, alike.asked, alike.tasks⟩
  | deploys response =>
      exact ⟨_, _, .deploys other response, rfl, alike.withStaged _ _⟩
  | cleans response =>
      exact ⟨_, _, .cleans other response, rfl, alike.withStaged _ _⟩
  | answers request httpsPort =>
      exact ⟨_, _, .answers other request httpsPort, rfl, alike.withStaged _ _⟩

/-- Alike premises have the same runs, up to what staged challenges tell. -/
theorem Alike.run
    {events : List PremisesEvent}
    (alike : premises.Alike other)
    (run : Run gateway premises events later) :
    ∃ eventsOther laterOther,
      Run gateway other eventsOther laterOther ∧
        eventsOther.map PremisesEvent.concealed = events.map PremisesEvent.concealed ∧
        later.Alike laterOther := by
  induction run with
  | nil => exact ⟨_, _, .nil, rfl, alike⟩
  | snoc _ step inductionHypothesis =>
      obtain ⟨eventsOther, middleOther, runOther, concealed, middleAlike⟩ := inductionHypothesis
      obtain ⟨eventOther, laterOther, stepOther, concealedLast, laterAlike⟩ := middleAlike.step step
      refine ⟨_, laterOther, .snoc runOther stepOther, ?_, laterAlike⟩
      simp only [List.map_append, List.map_cons, List.map_nil, concealed, concealedLast]

end Premises

end OnDemandTls
