import OnDemandTls.Handshake
import OnDemandTls.Proofs.Staging.Concealment
import OnDemandTls.Proofs.Traffic.Replay

namespace OnDemandTls

/-!
# Isolation of validation handshakes

A client that offers the validation protocol asks a gateway to answer a
challenge, and any other client asks it for a certificate.  Neither of the two
learns or changes what the other one is about
(`Premises.validation_is_isolated`): a validation handshake reads one staged
answer and leaves everything else, and what all other handshakes do and get does
not depend on what is staged.
-/

namespace Gateway

/-- The name that a client asks for, if there is one. -/
def askedName? (serverName : Option String) : Option String :=
  (serverName.map HostName.asked).filter (· ≠ "")

/-- What a validation handshake does for a name. -/
def validation (name : String) : GatewayProgram TaskResult :=
  .call (.stagedAnswer name) fun answer => .done (.resolved (validationResult name answer))

/-- A validation handshake that ends well has a certificate for its name and for
the key authorization that is staged. -/
theorem validationResult_eq_ok_iff
    {name : String}
    {answer : Option String}
    {certified : CertifiedKey} :
    validationResult name answer = .ok certified ↔
      ∃ keyAuthorization subject,
        answer = some keyAuthorization ∧
          SubjectName.ofText? name = some subject ∧
          certified =
            ⟨[(ValidationCertificate.certificate subject keyAuthorization).write .sample],
              .ecdsa⟩ := by
  cases answer with
  | none => simp [validationResult]
  | some keyAuthorization =>
      unfold validationResult ValidationCertificate.make?
      cases SubjectName.ofText? name with
      | none => simp
      | some subject => simp [eq_comm]

end Gateway

/-- How far a validation handshake has come that asks for a name, or for none. -/
inductive ValidationProgress :
    Option String → Option (GatewayProgram TaskResult) → Prop where
  | nameless :
      ValidationProgress none (some (.done (.resolved (.error .missingName))))
  | pending (name : String) :
      ValidationProgress (some name) (some (Gateway.validation name))
  | answered (name : String) (answer : Option String) :
      ValidationProgress (some name)
        (some (.done (.resolved (Gateway.validationResult name answer))))
  | panicked (name : String) :
      ValidationProgress (some name) none

namespace ValidationProgress

/-- A handshake that validates does so for the name that it asks for. -/
theorem program_eq
    (gateway : Gateway)
    {serverName : Option String}
    {protocols : List String}
    (validates : validationProtocol ∈ protocols) :
    (Errand.resolving serverName protocols).program gateway =
      match Gateway.askedName? serverName with
      | none => .done (.resolved (.error .missingName))
      | some name => Gateway.validation name := by
  simp only [Errand.program, Gateway.resolve, Gateway.askedName?]
  cases (serverName.map HostName.asked).filter (· ≠ "") with
  | none => rfl
  | some name =>
      simp only
      rw [if_pos (by simpa using validates), Gateway.resolveChallenge_eq]
      rfl

theorem opening
    (gateway : Gateway)
    (serverName : Option String)
    {protocols : List String}
    (validates : validationProtocol ∈ protocols) :
    ValidationProgress (Gateway.askedName? serverName)
      (some ((Errand.resolving serverName protocols).program gateway)) := by
  rw [program_eq gateway validates]
  cases Gateway.askedName? serverName with
  | none => exact .nameless
  | some name => exact .pending name

/-- A validation handshake has at most one call to make, that for its staged
answer. -/
theorem of_call
    {name? : Option String}
    {call : GatewayCall}
    {next : call.Answer → GatewayProgram TaskResult}
    (progress : ValidationProgress name? (some (.call call next))) :
    ∃ name,
      name? = some name ∧ Program.call (I := gatewayCalls) call next = Gateway.validation name := by
  generalize isRest : some (Program.call (I := gatewayCalls) call next) = rest at progress
  cases progress with
  | nameless => cases isRest
  | pending name => exact ⟨name, rfl, Option.some.inj isRest⟩
  | answered name answer => cases isRest
  | panicked name => cases isRest

end ValidationProgress

namespace Traffic

variable {gateway : Gateway} {scene : Scene} {events : List TrafficEvent}
variable {traffic : Traffic (GatewayProgram TaskResult)} {number : Nat}
variable {task : GatewayTask (GatewayProgram TaskResult)}

/-- A validation handshake never holds a guard, and its only call is the one for
its staged answer. -/
theorem Run.validationProgress
    (run : Run gateway.behaviour (quiet scene) events traffic)
    (present : traffic.tasks[number]? = some task)
    {serverName : Option String}
    {protocols : List String}
    (isHandshake : task.errand = .resolving serverName protocols)
    (validates : validationProtocol ∈ protocols) :
    task.guard = none ∧ ValidationProgress (Gateway.askedName? serverName) task.rest := by
  induction run generalizing task with
  | nil => cases present
  | snoc _ step inductionHypothesis =>
      cases step.change present with
      | begins event errand =>
          cases isHandshake
          exact ⟨rfl, .opening gateway serverName validates⟩
      | moves there left moves =>
          obtain ⟨next, rfl, rfl⟩ := moves
          obtain ⟨unguarded, progress⟩ := inductionHypothesis there isHandshake
          rw [left] at progress
          obtain ⟨name, isName, isValidation⟩ := progress.of_call
          cases isValidation
          rw [isName]
          exact ⟨unguarded, .answered name _⟩
      | panics there =>
          cases step with
          | panics sameThere left moves =>
              cases there.symm.trans sameThere
              obtain ⟨next, rfl, -⟩ := moves
              obtain ⟨-, progress⟩ := inductionHypothesis there isHandshake
              rw [left] at progress
              obtain ⟨name, isName, -⟩ := progress.of_call
              rw [isName]
              exact ⟨rfl, .panicked name⟩
      | stays there => exact inductionHypothesis there isHandshake

end Traffic

/-- The task that acts in an event. -/
def PremisesEvent.task? : PremisesEvent → Option Nat
  | traffic event => event.task?
  | waits task _ => some task
  | deploys _ | cleans _ | answers _ _ => none

namespace Premises

variable {α : Type} [Quantity α] {gateway : Gateway} {scene : Scene} {backstage : Backstage α}
variable {events : List PremisesEvent} {premises later : Premises α} {number : Nat}
variable {task : GatewayTask (GatewayProgram TaskResult)}
variable {serverName : Option String} {protocols : List String}

/-- A call of a validation handshake is answered from what is staged, and that is
the end. -/
theorem Step.validates
    {call : GatewayCall}
    {answer : call.Answer}
    (step : Step gateway premises (.traffic (.calls number call answer)) later)
    (present : premises.traffic.tasks[number]? = some task)
    (progress : ValidationProgress (Gateway.askedName? serverName) task.rest) :
    ∃ name result,
      Gateway.askedName? serverName = some name ∧
        result = Gateway.validationResult name (premises.staged.find? name premises.instant) ∧
        later.traffic.tasks[number]? =
          some { task with rest := some (.done (.resolved result)) } ∧
        later.traffic.scene = premises.traffic.scene ∧
        later.backstage =
          { premises.backstage with staged := premises.staged.drop name premises.instant } := by
  cases step with
  | traffic step admitted =>
      obtain ⟨same, _, _, there, left, ⟨next, rfl, rfl⟩, -, sceneIs, presentLater⟩ := step.called
      cases present.symm.trans there
      rw [left] at progress
      obtain ⟨name, isName, isValidation⟩ := progress.of_call
      cases isValidation
      have answerIs : answer = premises.staged.find? name premises.instant := admitted
      refine ⟨name, _, isName, rfl, ?_, sceneIs, rfl⟩
      rw [← answerIs]
      exact presentLater

/-- Whatever a validation handshake does, it changes nothing but what is staged. -/
theorem Step.validation_leaves
    {event : PremisesEvent}
    (step : Step gateway premises event later)
    (acts : event.task? = some number)
    (present : premises.traffic.tasks[number]? = some task)
    (unguarded : task.guard = none)
    (progress : ValidationProgress (Gateway.askedName? serverName) task.rest) :
    later.traffic.scene = premises.traffic.scene ∧
      later.backstage.budgets = premises.backstage.budgets ∧
      later.backstage.asked = premises.backstage.asked := by
  cases event with
  | traffic inTraffic =>
      cases inTraffic with
      | arrives errand => cases acts
      | passes milliseconds => cases acts
      | calls actor call answer =>
          cases acts
          obtain ⟨name, result, -, -, -, sceneIs, backstageIs⟩ := step.validates present progress
          rw [backstageIs]
          exact ⟨sceneIs, rfl, rfl⟩
      | panics actor =>
          cases acts
          cases step with
          | traffic step admitted =>
              obtain ⟨same, there, sceneIs, -⟩ := step.panicked
              cases present.symm.trans there
              rw [unguarded] at sceneIs
              exact ⟨sceneIs, rfl, rfl⟩
  | waits actor budget =>
      cases acts
      cases step with
      | waits there left attempted =>
          cases present.symm.trans there
          rw [left] at progress
          obtain ⟨name, -, isValidation⟩ := progress.of_call
          cases isValidation
  | deploys response => cases acts
  | cleans response => cases acts
  | answers request httpsPort => cases acts

/-- A validation handshake that is not over can ask for its staged answer. -/
theorem validation_goes_on
    {name : String}
    (present : premises.traffic.tasks[number]? = some task)
    (left : task.rest = some (Gateway.validation name)) :
    ∃ later,
      Step gateway premises
        (.traffic
          (.calls number (.stagedAnswer name) (premises.staged.find? name premises.instant)))
        later :=
  ⟨_, .traffic (.calls present left ⟨_, rfl, rfl⟩ trivial) rfl⟩

/-- A task that has nothing to do with staged challenges leaves them. -/
theorem Step.staged_eq
    {call : GatewayCall}
    {answer : call.Answer}
    (step : Step gateway premises (.traffic (.calls number call answer)) later)
    (run : Run gateway (quiet scene backstage) events premises)
    (present : premises.traffic.tasks[number]? = some task)
    (ignores : task.errand.IgnoresStaged) :
    later.staged = premises.staged := by
  cases step with
  | traffic step admitted =>
      obtain ⟨same, _, _, there, left, ⟨next, rfl, rfl⟩, -⟩ := step.called
      cases present.symm.trans there
      have isShown := (run.traffic.callsOnly present left ignores).allowed_next
      cases call with
      | stagedAnswer name => exact isShown.elim
      | purgeStaged => exact isShown.elim
      | _ => rfl

/-- Premises that differ in what is staged have the same runs, up to what staged
challenges tell, and tasks that ignore these are the same in both. -/
theorem Run.conceals_staged
    (run : Run gateway (quiet scene backstage) events premises)
    {staged : StagedChallenges}
    {more : List PremisesEvent}
    (onward : Run gateway (premises.withStaged staged) more later)
    (stagedOther : StagedChallenges) :
    ∃ moreOther laterOther,
      Run gateway (premises.withStaged stagedOther) moreOther laterOther ∧
        moreOther.map PremisesEvent.concealed = more.map PremisesEvent.concealed ∧
        later.Alike laterOther ∧
        ∀ (number : Nat) (task : GatewayTask (GatewayProgram TaskResult)),
          later.traffic.tasks[number]? = some task →
          task.errand.IgnoresStaged →
          laterOther.traffic.tasks[number]? = some task := by
  obtain ⟨moreOther, laterOther, runOther, concealed, alike⟩ :=
    (alike_withStaged run.traffic staged stagedOther).run onward
  have runThrough := run.traffic.append onward.traffic
  exact ⟨moreOther, laterOther, runOther, concealed, alike, fun number task present ignores =>
    alike.task_eq runThrough present ignores⟩

/-- On all premises that a run has led to, validation handshakes and all others
have nothing to do with each other.

A client that offers the validation protocol, be it among others, gets the
settings of validation handshakes.  If it names no server it is refused.
Otherwise its handshake makes one call, ends as the staged answer for its name
decides, and changes nothing but what is staged.

Any other client gets the ordinary settings, and its handshake leaves what is
staged.  With other challenges staged the same can happen, step by step, so that
scene, budgets and calls of authorities are the same and every such handshake has
come to the same. -/
theorem validation_is_isolated
    (run : Run gateway (quiet scene backstage) events premises) :
    (∀ number task serverName protocols,
      premises.traffic.tasks[number]? = some task →
      task.errand = .resolving serverName protocols →
      validationProtocol ∈ protocols →
      HandshakeSettings.chosenFor protocols = .validation ∧
        ValidationProgress (Gateway.askedName? serverName) task.rest ∧
        (∀ name,
          task.rest = some (Gateway.validation name) →
          ∃ answer later,
            Step gateway premises (.traffic (.calls number (.stagedAnswer name) answer)) later) ∧
        (∀ call answer later,
          Step gateway premises (.traffic (.calls number call answer)) later →
          ∃ name result,
            Gateway.askedName? serverName = some name ∧
              result =
                Gateway.validationResult name (premises.staged.find? name premises.instant) ∧
              later.traffic.tasks[number]? =
                some { task with rest := some (.done (.resolved result)) }) ∧
        ∀ event later,
          Step gateway premises event later →
          event.task? = some number →
          later.traffic.scene = premises.traffic.scene ∧
            later.backstage.budgets = premises.backstage.budgets ∧
            later.backstage.asked = premises.backstage.asked) ∧
      (∀ number task serverName protocols,
        premises.traffic.tasks[number]? = some task →
        task.errand = .resolving serverName protocols →
        validationProtocol ∉ protocols →
        HandshakeSettings.chosenFor protocols = .ordinary ∧
          ∀ call answer later,
            Step gateway premises (.traffic (.calls number call answer)) later →
            later.staged = premises.staged) ∧
      ∀ staged stagedOther more later,
        Run gateway (premises.withStaged staged) more later →
        ∃ moreOther laterOther,
          Run gateway (premises.withStaged stagedOther) moreOther laterOther ∧
            moreOther.map PremisesEvent.concealed = more.map PremisesEvent.concealed ∧
            laterOther.traffic.scene = later.traffic.scene ∧
            laterOther.backstage.budgets = later.backstage.budgets ∧
            laterOther.backstage.asked = later.backstage.asked ∧
            ∀ (number : Nat) (task : GatewayTask (GatewayProgram TaskResult)) serverName protocols,
              later.traffic.tasks[number]? = some task →
              task.errand = .resolving serverName protocols →
              validationProtocol ∉ protocols →
              laterOther.traffic.tasks[number]? = some task := by
  refine ⟨fun number task serverName protocols present isHandshake validates => ?_,
    fun number task serverName protocols present isHandshake ordinary => ?_,
    fun staged stagedOther more later onward => ?_⟩
  · obtain ⟨unguarded, progress⟩ :=
      run.traffic.validationProgress present isHandshake validates
    refine ⟨if_pos (by simpa using validates), progress, fun name left => ?_,
      fun call answer later step => ?_, fun event later step acts => ?_⟩
    · exact ⟨_, validation_goes_on present left⟩
    · obtain ⟨name, result, isName, isResult, presentLater, -⟩ := step.validates present progress
      exact ⟨name, result, isName, isResult, presentLater⟩
    · exact step.validation_leaves acts present unguarded progress
  · have ignores : task.errand.IgnoresStaged := by rwa [isHandshake]
    exact ⟨if_neg (by simpa using ordinary), fun call answer later step =>
      step.staged_eq run present ignores⟩
  · obtain ⟨moreOther, laterOther, runOther, concealed, alike, same⟩ :=
      run.conceals_staged onward stagedOther
    refine ⟨moreOther, laterOther, runOther, concealed, alike.scene, alike.budgets, alike.asked,
      fun number task serverName protocols present isHandshake ordinary => ?_⟩
    exact same number task present (by rwa [isHandshake])

/-- What stands behind a small gateway that has just started. -/
def freshBackstage : Backstage Rat where
  budgets := IssuanceBudgets.fresh true 0
  asked := []
  staged := TimedCatalog.empty

/-- The answer to a challenge for the custom domain. -/
def blogResponse : ChallengeResponse where
  domain := SmallGateway.blog
  type := .tlsAlpn01
  token := "token"
  keyAuthorization := "token.thumbprint"
  dnsValue := ""

/-- An authority validates the custom domain while a client asks for it, too. -/
def validationVisit : List PremisesEvent :=
  [ .deploys blogResponse
  , .traffic (.arrives (.resolving (some "Blog.Example.com.") ["h2", validationProtocol]))
  , .traffic (.arrives (.resolving (some SmallGateway.blog) ["h2"])) ]

/-- The theorem applies to the two handshakes of the visit: the one that
validates gets the certificate for what is staged, and without that the other
one would stand where it stands. -/
theorem validation_visit_is_isolated :
    ∃ premises : Premises Rat,
      Run SmallGateway.gateway (quiet (SmallGateway.scene Catalog.empty) freshBackstage)
          validationVisit premises ∧
        (∃ answer later task,
          Step SmallGateway.gateway premises
              (.traffic (.calls 0 (.stagedAnswer SmallGateway.blog) answer)) later ∧
            later.traffic.tasks[0]? = some task ∧
            task.rest =
              some (.done (.resolved
                (Gateway.validationResult SmallGateway.blog (some "token.thumbprint"))))) ∧
        ∃ moreOther laterOther,
          Run SmallGateway.gateway (premises.withStaged TimedCatalog.empty) moreOther laterOther ∧
            laterOther.traffic.tasks[1]? = premises.traffic.tasks[1]? := by
  have run :
      Run SmallGateway.gateway (quiet (SmallGateway.scene Catalog.empty) freshBackstage)
        validationVisit _ :=
    .snoc (.snoc (.snoc .nil (.deploys _ _)) (.traffic (.arrives _ _) trivial))
      (.traffic (.arrives _ _) trivial)
  have asked : Gateway.askedName? (some "Blog.Example.com.") = some SmallGateway.blog := by
    decide +kernel
  obtain ⟨validating, -, concealing⟩ := validation_is_isolated run
  refine ⟨_, run, ?_, ?_⟩
  · obtain ⟨-, -, goesOn, ends, -⟩ := validating 0 _ _ _ rfl rfl (by decide)
    have left :
        (Errand.resolving (some "Blog.Example.com.") ["h2", validationProtocol]).program
          SmallGateway.gateway = Gateway.validation SmallGateway.blog := by
      rw [ValidationProgress.program_eq _ (by decide), asked]
    obtain ⟨answer, later, step⟩ := goesOn SmallGateway.blog (congrArg some left)
    obtain ⟨name, result, isName, isResult, present⟩ := ends _ _ _ step
    have sameName : SmallGateway.blog = name := Option.some.inj (asked.symm.trans isName)
    have isStaged :
        (blogResponse.stage TimedCatalog.empty 0).find? SmallGateway.blog 0 =
          some "token.thumbprint" := by
      decide +kernel
    refine ⟨answer, later, _, step, present, ?_⟩
    rw [isResult, ← sameName]
    exact congrArg
      (fun answer => some (Program.done (TaskResult.resolved
        (Gateway.validationResult SmallGateway.blog answer)))) isStaged
  · obtain ⟨moreOther, laterOther, runOther, -, -, -, -, same⟩ :=
      concealing (blogResponse.stage TimedCatalog.empty 0) TimedCatalog.empty [] _ .nil
    exact ⟨moreOther, laterOther, runOther,
      same 1 _ (some SmallGateway.blog) ["h2"] rfl rfl (by decide)⟩

end Premises

end OnDemandTls
