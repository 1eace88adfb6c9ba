import OnDemandTls.Http.PlainAnswer
import OnDemandTls.Proofs.Traffic.Persistence
import OnDemandTls.Proofs.Traffic.Rehearsed

namespace OnDemandTls

/-!
# Premises

What a scene leaves open stands backstage: the budgets, the record of what
authorities were asked for, and the staged challenges.  The premises of a gateway
are its traffic with what stands backstage.  Besides the steps of traffic, clients
of authorities deploy and clean up answers to challenges, the plain listener
answers requests, and a task that finds a budget spent waits before it tries
again.

A run of the premises is a run of traffic (`Premises.Run.traffic`), and a
rehearsed world keeps what stands backstage as the premises do
(`World.backstage_of_answer`).
-/

/-- What stands behind the scene of a gateway. -/
structure Backstage (α : Type) where
  budgets : IssuanceBudgets α
  /-- The calls of authorities so far, the latest one last. -/
  asked : List GatewayCall
  staged : StagedChallenges

namespace Backstage

variable {α : Type} [Quantity α]

/-- Whether a call can have an answer, as far as that is decided backstage. -/
def Admits
    (backstage : Backstage α)
    (instant : Nat) :
    (call : GatewayCall) → call.Answer → Prop
  | .spend budget, _ => (backstage.budgets.attempt budget instant).1 = none
  | .askUser user, answer => answer = (backstage.budgets.askUser user instant).1
  | .stagedAnswer name, answer => answer = (backstage.staged.get name instant).1
  | .purgeStaged, answer => answer = (backstage.staged.purge instant).1
  | _, _ => True

/-- What a call leaves backstage. -/
def after
    (backstage : Backstage α)
    (instant : Nat) :
    GatewayCall → Backstage α
  | .spend budget =>
      { backstage with budgets := (backstage.budgets.attempt budget instant).2 }
  | .askUser user =>
      { backstage with budgets := (backstage.budgets.askUser user instant).2 }
  | .renew role previous =>
      { backstage with asked := backstage.asked ++ [.renew role previous] }
  | .order role domains =>
      { backstage with asked := backstage.asked ++ [.order role domains] }
  | .stagedAnswer name =>
      { backstage with staged := (backstage.staged.get name instant).2 }
  | .purgeStaged =>
      { backstage with staged := (backstage.staged.purge instant).2 }
  | _ => backstage

end Backstage

/-- A gateway with all its tasks and what stands backstage. -/
structure Premises (α : Type) where
  traffic : Traffic (GatewayProgram TaskResult)
  backstage : Backstage α

/-- One step on the premises. -/
inductive PremisesEvent where
  | traffic (event : TrafficEvent)
  /-- A task finds a budget spent, and waits before it tries again. -/
  | waits (task : Nat) (budget : Budget)
  /-- A client of an authority makes an answer visible. -/
  | deploys (response : ChallengeResponse)
  /-- A client of an authority removes an answer. -/
  | cleans (response : ChallengeResponse)
  /-- The plain listener answers a request. -/
  | answers (request : PlainRequest) (httpsPort : UInt16)

namespace PremisesEvent

/-- The step of traffic that an event is, if it is one. -/
def traffic? : PremisesEvent → Option TrafficEvent
  | traffic event => some event
  | waits _ _ | deploys _ | cleans _ | answers _ _ => none

/-- The milliseconds that go by in an event. -/
def milliseconds : PremisesEvent → Nat
  | traffic event => event.milliseconds
  | waits _ _ | deploys _ | cleans _ | answers _ _ => 0

end PremisesEvent

namespace Premises

variable {α : Type}

/-- The premises before any task has come. -/
def quiet
    (scene : Scene)
    (backstage : Backstage α) :
    Premises α where
  traffic := .quiet scene
  backstage := backstage

/-- The clock of milliseconds. -/
def instant (premises : Premises α) : Nat :=
  premises.traffic.scene.instant

/-- The staged challenges. -/
def staged (premises : Premises α) : StagedChallenges :=
  premises.backstage.staged

/-- The premises with other staged challenges. -/
def withStaged
    (premises : Premises α)
    (staged : StagedChallenges) :
    Premises α :=
  { premises with backstage := { premises.backstage with staged := staged } }

/-- The premises with other budgets. -/
def withBudgets
    (premises : Premises α)
    (budgets : IssuanceBudgets α) :
    Premises α :=
  { premises with backstage := { premises.backstage with budgets := budgets } }

variable [Quantity α]

/-- What an event of traffic asks of what stands backstage. -/
def Admits
    (premises : Premises α) :
    TrafficEvent → Prop
  | .calls _ call answer => premises.backstage.Admits premises.instant call answer
  | _ => True

/-- The premises after an event of traffic. -/
def following
    (premises : Premises α)
    (event : TrafficEvent)
    (later : Traffic (GatewayProgram TaskResult)) :
    Premises α where
  traffic := later
  backstage :=
    match event with
    | .calls _ call _ => premises.backstage.after premises.instant call
    | _ => premises.backstage

/-- The steps on the premises. -/
inductive Step (gateway : Gateway) : Premises α → PremisesEvent → Premises α → Prop where
  | traffic
      {premises : Premises α}
      {event : TrafficEvent}
      {later : Traffic (GatewayProgram TaskResult)} :
      Traffic.Step gateway.behaviour premises.traffic event later →
      premises.Admits event →
      Step gateway premises (.traffic event) (premises.following event later)
  | waits
      {premises : Premises α}
      {number deadline : Nat}
      {task : GatewayTask (GatewayProgram TaskResult)}
      {budget : Budget}
      {next : Unit → GatewayProgram TaskResult}
      {budgets : IssuanceBudgets α} :
      premises.traffic.tasks[number]? = some task →
      task.rest = some (.call (.spend budget) next) →
      premises.backstage.budgets.attempt budget premises.instant = (some deadline, budgets) →
      Step gateway premises (.waits number budget) (premises.withBudgets budgets)
  | deploys
      (premises : Premises α)
      (response : ChallengeResponse) :
      Step gateway premises (.deploys response)
        (premises.withStaged (response.stage premises.staged premises.instant))
  | cleans
      (premises : Premises α)
      (response : ChallengeResponse) :
      Step gateway premises (.cleans response)
        (premises.withStaged (response.unstage premises.staged))
  | answers
      (premises : Premises α)
      (request : PlainRequest)
      (httpsPort : UInt16) :
      Step gateway premises (.answers request httpsPort)
        (premises.withStaged
          (PlainAnswer.respond request httpsPort premises.staged premises.instant).2)

/-- The runs on the premises, with all that happens in them. -/
inductive Run (gateway : Gateway) (start : Premises α) :
    List PremisesEvent → Premises α → Prop where
  | nil :
      Run gateway start [] start
  | snoc
      {events : List PremisesEvent}
      {premises later : Premises α}
      {event : PremisesEvent} :
      Run gateway start events premises →
      Step gateway premises event later →
      Run gateway start (events ++ [event]) later

variable {gateway : Gateway} {start premises later : Premises α}
variable {event : PremisesEvent} {events : List PremisesEvent}

/-- A step on the premises is a step of traffic, or leaves traffic as it is. -/
theorem Step.traffic_cases (step : Step gateway premises event later) :
    (∃ inTraffic,
        event = .traffic inTraffic ∧
          Traffic.Step gateway.behaviour premises.traffic inTraffic later.traffic ∧
          premises.Admits inTraffic) ∨
      (event.traffic? = none ∧ later.traffic = premises.traffic) := by
  cases step with
  | traffic step admitted => exact Or.inl ⟨_, rfl, step, admitted⟩
  | waits present left attempted => exact Or.inr ⟨rfl, rfl⟩
  | deploys response => exact Or.inr ⟨rfl, rfl⟩
  | cleans response => exact Or.inr ⟨rfl, rfl⟩
  | answers request httpsPort => exact Or.inr ⟨rfl, rfl⟩

/-- A run on the premises is a run of their traffic. -/
theorem Run.traffic (run : Run gateway start events premises) :
    Traffic.Run gateway.behaviour start.traffic (events.filterMap PremisesEvent.traffic?)
      premises.traffic := by
  induction run with
  | nil => exact .nil
  | @snoc events premises later event _ step inductionHypothesis =>
      rw [List.filterMap_append]
      rcases step.traffic_cases with ⟨inTraffic, rfl, inside, -⟩ | ⟨outside, same⟩
      · exact .snoc inductionHypothesis inside
      · rw [same]
        simpa [outside] using inductionHypothesis

/-- The time after a step is that before it and what goes by in the step. -/
theorem Step.instant_eq (step : Step gateway premises event later) :
    later.instant = premises.instant + event.milliseconds := by
  rcases step.traffic_cases with ⟨inTraffic, rfl, inside, -⟩ | ⟨outside, same⟩
  · have passed := (Traffic.Run.snoc .nil inside).instant_eq
    rwa [List.nil_append, Traffic.elapsed, Traffic.elapsed, Nat.add_zero] at passed
  · have timeless : event.milliseconds = 0 := by cases event <;> first | rfl | cases outside
    rw [timeless, instant, same]
    rfl

end Premises

/-! ## Rehearsed worlds -/

namespace World

/-- What a rehearsed world keeps backstage, beside some record of what authorities
were asked for. -/
def backstage
    (world : World)
    (asked : List GatewayCall) :
    Backstage Float where
  budgets := world.budgets
  asked := asked
  staged := world.staged

/-- A call that changes the store leaves what stands backstage. -/
theorem backstage_changeStore
    {β : Type}
    (world : World)
    (operation : StoreOperation)
    (change :
      CertificateStore → FileTree → Except StoreError β × CertificateStore × FileTree)
    (asked : List GatewayCall) :
    (world.changeStore operation change).2.backstage asked = world.backstage asked := by
  unfold changeStore
  cases world.fault? operation <;> rfl

/-- The answers of a rehearsed world are admitted backstage, and leave there what
they should; only orders and renewals are carried out otherwise. -/
theorem backstage_of_answer
    {rehearsal : Rehearsal}
    {now : Nat}
    {call : GatewayCall}
    {answer : call.Answer}
    {world later : World}
    (asked : List GatewayCall)
    (answered : performGateway rehearsal now call world = .answer answer later) :
    (world.backstage asked).Admits now call answer ∧
      later.backstage ((world.backstage asked).after now call).asked =
        (world.backstage asked).after now call := by
  cases call with
  | putRecord name resource =>
      rw [performGateway_putRecord] at answered
      injection answered with isAnswer isLater
      rw [← isLater]
      exact ⟨trivial, world.backstage_changeStore .put _ asked⟩
  | deleteRecord name =>
      rw [performGateway_deleteRecord] at answered
      injection answered with isAnswer isLater
      rw [← isLater]
      exact ⟨trivial, world.backstage_changeStore .delete _ asked⟩
  | compactStore =>
      rw [performGateway_compactStore] at answered
      injection answered with isAnswer isLater
      rw [← isLater]
      exact ⟨trivial, world.backstage_changeStore .compact _ asked⟩
  | awaitRelease name guardNumber =>
      unfold performGateway at answered
      simp only at answered
      split at answered <;> cases answered
      exact ⟨trivial, rfl⟩
  | spend budget =>
      unfold performGateway at answered
      simp only at answered
      split at answered
      · rename_i budgets attempted
        cases answered
        exact ⟨congrArg Prod.fst attempted, by simp [backstage, Backstage.after, attempted]⟩
      · cases answered
  | startObtaining request => cases answered
  | _ =>
      cases answered
      exact ⟨by first | rfl | trivial, rfl⟩

end World

end OnDemandTls
