import OnDemandTls.Proofs.Traffic.Entitlement
import OnDemandTls.Proofs.Traffic.Progress

namespace OnDemandTls

/-!
# Who pays for fresh orders

The owner of a custom domain pays for every fresh order that a handshake places
itself.  A renewal that a handshake launches names no user: it comes to a fresh
order when there is only a mock to renew or when the renewal has failed, and
then nobody is asked (`Traffic.fresh_order_is_paid_or_detached`).
-/

namespace TrafficEvent

/-- In an event, a user is asked to pay for a task, or the task places an order. -/
def IsBill
    (number : Nat) :
    TrafficEvent → Prop
  | calls task (.askUser _) _ | calls task (.order _ _) _ => task = number
  | _ => False

theorem isCallOf_of_isBill
    {event : TrafficEvent}
    {number : Nat}
    (isBill : event.IsBill number) :
    event.isCallOf number = true := by
  cases event with
  | calls task call answer =>
      have acts : task = number := by
        cases call <;> first | exact isBill | exact isBill.elim
      exact beq_iff_eq.mpr acts
  | _ => exact isBill.elim

theorem not_isBill_of_idle
    {event : TrafficEvent}
    {number : Nat}
    (idle : event.task? ≠ some number) :
    ¬ event.IsBill number := by
  intro isBill
  have noCall := isCallOf_of_idle idle
  rw [isCallOf_of_isBill isBill] at noCall
  cases noCall

end TrafficEvent

open Traffic

namespace Traffic

/-- Nobody has been asked to pay for a task, and it has ordered nothing. -/
def Unbilled
    (events : List TrafficEvent)
    (number : Nat) :
    Prop :=
  ∀ event ∈ events, ¬ event.IsBill number

/-- The payer of a task, if there is one, has agreed, and nothing else has been
asked or ordered for it. -/
structure Billed
    (events : List TrafficEvent)
    (number : Nat)
    (payer : Option String) :
    Prop where
  agreed : ∀ user, payer = some user → .calls number (.askUser user) true ∈ events
  nothingElse :
    ∀ event ∈ events,
      event.IsBill number → ∃ user, payer = some user ∧ event = .calls number (.askUser user) true

/-- If there was a certificate to renew, the renewal has failed. -/
def RenewalFailed
    (events : List TrafficEvent)
    (number : Nat)
    (job : IssuanceJob) :
    Prop :=
  ∀ previous,
    job.previous = some previous →
    ∃ reason, .calls number (.renew job.request.role previous) (.error reason) ∈ events

variable {events : List TrafficEvent} {event : TrafficEvent} {number : Nat}

theorem Unbilled.snoc
    (unbilled : Unbilled events number)
    (noBill : ¬ event.IsBill number) :
    Unbilled (events ++ [event]) number := by
  intro billing member
  rcases List.mem_append.mp member with earlier | now
  · exact unbilled billing earlier
  · cases List.mem_singleton.mp now
    exact noBill

theorem Billed.snoc
    {payer : Option String}
    (billed : Billed events number payer)
    (noBill : ¬ event.IsBill number) :
    Billed (events ++ [event]) number payer where
  agreed user pays := List.mem_append_left _ (billed.agreed user pays)
  nothingElse billing member isBill := by
    rcases List.mem_append.mp member with earlier | now
    · exact billed.nothingElse billing earlier isBill
    · cases List.mem_singleton.mp now
      exact (noBill isBill).elim

theorem Billed.asked
    {payer : Option String}
    {user : String}
    {granted : Bool}
    (billed : Billed events number payer)
    (member : .calls number (.askUser user) granted ∈ events) :
    payer = some user ∧ granted = true := by
  obtain ⟨other, pays, isAsk⟩ := billed.nothingElse _ member rfl
  cases isAsk
  exact ⟨pays, rfl⟩

theorem Billed.not_ordered
    {payer : Option String}
    (billed : Billed events number payer)
    (role : AuthorityRole)
    (domains : List String)
    (answer : Except AuthorityError CertificateResource) :
    .calls number (.order role domains) answer ∉ events := by
  intro member
  obtain ⟨user, -, isAsk⟩ := billed.nothingElse _ member rfl
  cases isAsk

theorem Unbilled.free (unbilled : Unbilled events number) : Billed events number none where
  agreed _ := nofun
  nothingElse billing member isBill := (unbilled billing member isBill).elim

/-- Who has agreed has paid. -/
theorem Unbilled.pay
    (unbilled : Unbilled events number)
    (user : String) :
    Billed (events ++ [.calls number (.askUser user) true]) number (some user) where
  agreed payer pays := by
    cases pays
    exact List.mem_append_right _ (List.mem_singleton_self _)
  nothingElse billing member isBill := by
    rcases List.mem_append.mp member with earlier | now
    · exact (unbilled billing earlier isBill).elim
    · exact ⟨user, rfl, List.mem_singleton.mp now⟩

theorem RenewalFailed.append
    {job : IssuanceJob}
    (failed : RenewalFailed events number job)
    (more : List TrafficEvent) :
    RenewalFailed (events ++ more) number job := by
  intro previous isPrevious
  obtain ⟨reason, member⟩ := failed previous isPrevious
  exact ⟨reason, List.mem_append_left more member⟩

end Traffic

/-! ## Stages -/

namespace IssuanceStage

/-- What has been paid for when an issuance is in a stage. -/
def Accounts
    (events : List TrafficEvent)
    (number : Nat)
    (job : IssuanceJob) :
    IssuanceStage → Prop
  | claiming => Unbilled events number
  | payingRenewal previous | renewing previous =>
      job.previous = some previous ∧ Unbilled events number
  | payingFailure => RenewalFailed events number job ∧ Unbilled events number
  | charging user =>
      job.request.user = some user ∧ RenewalFailed events number job ∧ Unbilled events number
  | payingOrder | payingRequest | ordering =>
      RenewalFailed events number job ∧ Billed events number job.request.user
  | _ => True

variable {events : List TrafficEvent} {number : Nat} {job : IssuanceJob}

theorem accounts_freshStage
    (failed : RenewalFailed events number job)
    (unbilled : Unbilled events number) :
    job.freshStage.Accounts events number job := by
  unfold IssuanceJob.freshStage
  cases payer : job.request.user with
  | none =>
      have billed : Billed events number job.request.user := payer ▸ unbilled.free
      exact ⟨failed, billed⟩
  | some user => exact ⟨payer, failed, unbilled⟩

theorem accounts_firstStage (unbilled : Unbilled events number) :
    job.firstStage.Accounts events number job := by
  unfold IssuanceJob.firstStage
  split
  · trivial
  · split
    · trivial
    · cases isPrevious : job.previous with
      | some previous => exact ⟨isPrevious, unbilled⟩
      | none =>
          refine accounts_freshStage (fun previous same => ?_) unbilled
          rw [isPrevious] at same
          cases same

/-- The accounts of an issuance are kept in each of its calls. -/
theorem accounts_moves
    {stage : IssuanceStage}
    {call : GatewayCall}
    {answer : call.Answer}
    {later : IssuanceStage}
    (accounts : stage.Accounts events number job)
    (moves : Moves job stage call answer (.on later)) :
    later.Accounts (events ++ [.calls number call answer]) number job := by
  cases moves with
  | owner guardNumber => exact accounts_firstStage (Unbilled.snoc accounts id)
  | paidRenewal previous => exact ⟨accounts.1, accounts.2.snoc id⟩
  | notRenewed previous reason =>
      refine ⟨fun other isOther => ⟨reason, ?_⟩, accounts.2.snoc id⟩
      cases accounts.1.symm.trans isOther
      exact List.mem_append_right _ (List.mem_singleton_self _)
  | paidFailure => exact accounts_freshStage (accounts.1.append _) (accounts.2.snoc id)
  | granted user =>
      obtain ⟨payer, failed, unbilled⟩ := accounts
      refine ⟨failed.append _, ?_⟩
      rw [payer]
      exact unbilled.pay user
  | paidOrder => exact ⟨accounts.1.append _, accounts.2.snoc id⟩
  | paidRequest => exact ⟨accounts.1.append _, accounts.2.snoc id⟩
  | judged reason second =>
      unfold IssuanceJob.verdict
      cases job.previous.filter (fun resource => !resource.isExpired second) <;> trivial
  | _ => trivial

theorem Accounts.snoc
    {stage : IssuanceStage}
    {event : TrafficEvent}
    (accounts : stage.Accounts events number job)
    (noBill : ¬ event.IsBill number) :
    stage.Accounts (events ++ [event]) number job := by
  cases stage with
  | claiming => exact Unbilled.snoc accounts noBill
  | payingRenewal previous | renewing previous => exact ⟨accounts.1, accounts.2.snoc noBill⟩
  | payingFailure => exact ⟨accounts.1.append _, accounts.2.snoc noBill⟩
  | charging user => exact ⟨accounts.1, accounts.2.1.append _, accounts.2.2.snoc noBill⟩
  | payingOrder | payingRequest | ordering =>
      exact ⟨accounts.1.append _, accounts.2.snoc noBill⟩
  | _ => trivial

end IssuanceStage

namespace Standing

/-- What has been paid for when a task stands somewhere with its issuance. -/
def Accounts
    (events : List TrafficEvent)
    (number : Nat) :
    Standing → Prop
  | before => Unbilled events number
  | during job stage => stage.Accounts events number job
  | past => True

variable {events : List TrafficEvent} {number : Nat} {standing later : Standing}

theorem Accounts.snoc
    {event : TrafficEvent}
    (accounts : standing.Accounts events number)
    (noBill : ¬ event.IsBill number) :
    standing.Accounts (events ++ [event]) number := by
  cases standing with
  | before => exact Unbilled.snoc accounts noBill
  | during job stage => exact IssuanceStage.Accounts.snoc accounts noBill
  | past => trivial

theorem not_isBill_of_not_issues
    {call : GatewayCall}
    (harmless : ¬ call.Issues)
    (answer : call.Answer) :
    ¬ (TrafficEvent.calls number call answer).IsBill number := by
  intro isBill
  cases call <;> first | exact isBill | exact harmless trivial

theorem accounts_moves
    {call : GatewayCall}
    {answer : call.Answer}
    (accounts : standing.Accounts events number)
    (moves : Moves standing call answer later) :
    later.Accounts (events ++ [.calls number call answer]) number := by
  cases moves with
  | waits harmless => exact Accounts.snoc accounts (not_isBill_of_not_issues harmless answer)
  | begins job harmless =>
      exact Unbilled.snoc accounts (not_isBill_of_not_issues harmless answer)
  | skips harmless => trivial
  | @inside job stage call answer progress inside =>
      cases progress with
      | on stage => exact IssuanceStage.accounts_moves accounts inside
      | ended result => trivial
  | ends harmless => trivial

end Standing

namespace TaskStage

theorem accounts_opening
    {events : List TrafficEvent}
    {number : Nat}
    (gateway : Gateway)
    (errand : Errand)
    (unbilled : Unbilled events number) :
    ((opening gateway errand).standing gateway).Accounts events number := by
  rcases standing_opening gateway errand with isBefore | isPast | ⟨job, isClaiming⟩
  · rw [isBefore]
    exact unbilled
  · rw [isPast]
    trivial
  · rw [isClaiming]
    exact unbilled

end TaskStage

/-- The owner of the claim is to pay for what an entitled handshake requests. -/
theorem Errand.Entitled.payer
    {gateway : Gateway}
    {errand : Errand}
    {name : String}
    {claim : DomainClaim}
    {request : ObtainRequest}
    (entitled : errand.Entitled gateway name claim)
    (requests : errand.request? gateway = some request) :
    request.user = some claim.owner := by
  obtain ⟨serverName, protocols, rfl, rfl, -⟩ := entitled.asks
  have named :
      (some (HostName.asked serverName)).filter (· ≠ "") = some (HostName.asked serverName) := by
    simp [entitled.named]
  have target := Gateway.classify_of_claimed entitled.custom entitled.claimed entitled.authorized
  simp only [Errand.request?, Option.map_some, named, target, Option.some.injEq] at requests
  rw [← requests, Gateway.customTarget]

/-! ## Runs -/

namespace Traffic

variable {gateway : Gateway} {scene : Scene} {events : List TrafficEvent} {number : Nat}

theorem unbilled_of_absent
    {traffic : Traffic TaskStage}
    (run : Run gateway.stagedBehaviour (quiet scene) events traffic)
    (absent : traffic.tasks[number]? = none) :
    Unbilled events number := by
  have noCall := List.countP_eq_zero.mp (calls_of_absent run absent)
  intro event member isBill
  exact noCall event member (TrafficEvent.isCallOf_of_isBill isBill)

/-- The accounts of all tasks of a run are kept. -/
theorem accounts_of_run
    {traffic : Traffic TaskStage}
    (run : Run gateway.stagedBehaviour (quiet scene) events traffic)
    {task : GatewayTask TaskStage}
    {stage : TaskStage}
    (present : traffic.tasks[number]? = some task)
    (left : task.rest = some stage) :
    (stage.standing gateway).Accounts events number := by
  induction run generalizing task stage with
  | nil => cases present
  | snoc earlier step inductionHypothesis =>
      -- A new task has made no call so far, and what others do is not billed to it.
      cases step.change present with
      | begins event errand absent idle =>
          cases left
          have unbilled := (unbilled_of_absent earlier absent).snoc
            (TrafficEvent.not_isBill_of_idle idle)
          exact TaskStage.accounts_opening gateway errand unbilled
      | moves there leftBefore moves =>
          cases left
          exact Standing.accounts_moves (inductionHypothesis there leftBefore)
            (TaskStage.standing_moves moves)
      | panics there => cases left
      | stays there idle =>
          exact (inductionHypothesis there left).snoc (TrafficEvent.not_isBill_of_idle idle)

/-- Before a task orders, its accounts are settled. -/
theorem billed_of_order
    {traffic later : Traffic TaskStage}
    {role : AuthorityRole}
    {domains : List String}
    {answer : Except AuthorityError CertificateResource}
    (run : Run gateway.stagedBehaviour (quiet scene) events traffic)
    (step : Step gateway.stagedBehaviour traffic (.calls number (.order role domains) answer) later) :
    ∃ task job,
      traffic.tasks[number]? = some task ∧
        task.errand.request? gateway = some job.request ∧
        RenewalFailed events number job ∧
        Billed events number job.request.user := by
  obtain ⟨task, stage, next, there, left, moves, -, -, -⟩ := step.called
  have accounts := accounts_of_run run there left
  have fits := GuardsFit.fits_of_run run there left
  obtain ⟨job, inner, progress, stands, inside, -⟩ :=
    (TaskStage.standing_moves moves).inside_of_issues trivial
  rw [stands] at accounts
  obtain ⟨failed, billed⟩ : RenewalFailed events number job ∧
      Billed events number job.request.user := by
    cases inside <;> exact accounts
  exact ⟨task, job, there, (TaskStage.request_of_standing fits stands).1, failed, billed⟩

/-- Fresh orders and the budgets of users, in all runs to which handshakes come.
A fresh order is placed for an entitled handshake, at most once by one task, and
in one of two ways.  If the handshake places it itself, the owner of the claim
has been asked before by the same task and has agreed, and nobody else has been
asked.  If a renewal places it that the handshake has launched, nobody has been
asked, and there was no certificate of an authority to renew or its renewal has
failed.  In particular a task whose user has not agreed orders nothing. -/
theorem fresh_order_is_paid_or_detached
    {traffic later : Traffic (GatewayProgram TaskResult)}
    {role : AuthorityRole}
    {domains : List String}
    {answer : Except AuthorityError CertificateResource}
    (onlyHandshakes : OnlyHandshakes events)
    (run : Run gateway.behaviour (quiet scene) events traffic)
    (step : Step gateway.behaviour traffic (.calls number (.order role domains) answer) later) :
    ∃ task handshake name claim,
      traffic.tasks[number]? = some task ∧
        .arrives handshake ∈ events ∧
        handshake.Entitled gateway name claim ∧
        (GatewayCall.order role domains).IsFor gateway task.errand name claim ∧
        (∀ role domains answer, .calls number (.order role domains) answer ∉ events) ∧
        ((task.errand = handshake ∧
            .calls number (.askUser claim.owner) true ∈ events ∧
            ∀ user granted,
              .calls number (.askUser user) granted ∈ events →
              user = claim.owner ∧ granted = true) ∨
          ((∃ request,
              task.errand = .obtaining request ∧
                ∀ previous,
                  request.previous = some previous →
                  previous.origin = .acme →
                  ∃ reason, .calls number (.renew .general previous) (.error reason) ∈ events) ∧
            ∀ user granted, .calls number (.askUser user) granted ∉ events)) := by
  obtain ⟨staged, stagedRun, rfl⟩ := run_staged run
  obtain ⟨laterStaged, stagedStep, rfl⟩ := step_staged step
  obtain ⟨task, handshake, name, claim, there, arrived, entitled, isFor, itself⟩ :=
    isFor_of_step onlyHandshakes stagedRun stagedStep trivial
  obtain ⟨same, job, sameThere, requests, failed, billed⟩ := billed_of_order stagedRun stagedStep
  cases there.symm.trans sameThere
  have present :
      (staged.programs gateway).tasks[number]? = some (task.map (TaskStage.program gateway)) := by
    simp only [programs, map, List.getElem?_map, there, Option.map_some]
  refine ⟨_, handshake, name, claim, present, arrived, entitled, isFor, billed.not_ordered, ?_⟩
  -- Whether somebody pays depends on who made the request: a handshake names the
  -- owner of the claim, the renewal that it launches names nobody.
  have comes := sanctioned_errand_of_run onlyHandshakes stagedRun there
  cases isErrand : task.errand with
  | resolving serverName protocols =>
      refine Or.inl ?_
      cases itself serverName protocols isErrand
      have payer := entitled.payer requests
      refine ⟨rfl, billed.agreed _ payer, fun user granted member => ?_⟩
      obtain ⟨pays, agrees⟩ := billed.asked member
      exact ⟨Option.some.inj (pays.symm.trans payer), agrees⟩
  | obtaining request =>
      refine Or.inr ?_
      rw [isErrand] at comes requests
      obtain ⟨-, -, -, -, -, -, nobody, general⟩ := comes
      cases requests
      refine ⟨⟨job.request, isErrand, fun previous isPrevious isAcme => ?_⟩, ?_⟩
      · have toRenew : job.previous = some previous := by
          simp [IssuanceJob.previous, isPrevious, isAcme]
        rw [← general]
        exact failed previous toRenew
      · intro user granted member
        have pays := (billed.asked member).1
        rw [nobody] at pays
        cases pays
  | ensuringPrimary =>
      rw [isErrand] at comes
      exact comes.elim
  | sweeping interval withHandshakes =>
      rw [isErrand] at comes
      exact comes.elim

/-- The first handshake for a custom domain, up to the order that it places. -/
def paidHandshake : List TrafficEvent :=
  firstHandshake ++
    [ .calls 0 (.claim SmallGateway.blog) (.owner 0)
    , .calls 0 (.askUser "alice") true
    , .calls 0 (.spend .order) ()
    , .calls 0 (.spend .request) () ]

/-- The call in which a certificate for the custom domain is ordered. -/
def orderEvent (number : Nat) : TrafficEvent :=
  .calls number (.order .general [SmallGateway.blog]) (.error (.generation "refused"))

/-- The handshake that orders for a custom domain has its owner pay, and the
theorem applies. -/
theorem first_handshake_is_paid :
    let emptyScene := SmallGateway.scene Catalog.empty
    ∃ traffic later task name claim,
      Run SmallGateway.gateway.behaviour (quiet emptyScene) paidHandshake traffic ∧
        Step SmallGateway.gateway.behaviour traffic (orderEvent 0) later ∧
        traffic.tasks[0]? = some task ∧
        task.errand.Entitled SmallGateway.gateway name claim ∧
        claim.owner = "alice" := by
  intro emptyScene
  have replayed :
      ((replay SmallGateway.gateway (quiet emptyScene) paidHandshake).bind fun traffic =>
        (replayEvent SmallGateway.gateway traffic (orderEvent 0)).map fun _ => ()) =
        some () := by
    decide +kernel
  obtain ⟨traffic, accepted, ordered⟩ := Option.bind_eq_some_iff.mp replayed
  obtain ⟨later, acceptedOrder, -⟩ := Option.map_eq_some_iff.mp ordered
  have run := run_of_replay .nil accepted
  have step := step_of_replayEvent acceptedOrder
  have onlyHandshakes : OnlyHandshakes paidHandshake := by
    intro arriving arrived
    refine ⟨some SmallGateway.blog, [], ?_⟩
    simpa [paidHandshake, firstHandshake] using arrived
  have asked : .calls 0 (.askUser "alice") true ∈ paidHandshake := by
    simp [paidHandshake]
  obtain ⟨task, handshake, name, claim, present, -, entitled, -, -, way⟩ :=
    fresh_order_is_paid_or_detached onlyHandshakes run step
  rcases way with ⟨rfl, -, onlyOwner⟩ | ⟨-, nobody⟩
  · exact ⟨traffic, later, task, name, claim, run, step, present, entitled,
      (onlyOwner _ _ asked).1.symm⟩
  · exact (nobody _ _ asked).elim

/-- A mock that is due. -/
def dueMock : CertificateResource :=
  { SmallGateway.certificate "mock" 1700172800 with origin := .mock }

/-- A handshake finds a mock that is due, and its renewal goes up to the order
that it places. -/
def detachedRenewal : List TrafficEvent :=
  [ .arrives (.resolving (some SmallGateway.blog) [])
  , .calls 0 (.findReady SmallGateway.blog) none
  , .calls 0 (.findRecord SmallGateway.blog) (.ok (some dueMock))
  , .calls 0 .clock 1700000000
  , .calls 0
      (.startObtaining { domains := [SmallGateway.blog], previous := some dueMock }) 1
  , .calls 1 (.claim SmallGateway.blog) (.owner 0)
  , .calls 1 (.spend .order) ()
  , .calls 1 (.spend .request) () ]

/-- A handshake for a custom domain finds a mock that is due.  The renewal that
it launches places a fresh order for the domain, and its owner has not been
asked. -/
theorem renewal_of_mock_is_unpaid :
    ∃ scene traffic later name claim,
      OnlyHandshakes detachedRenewal ∧
        Run SmallGateway.gateway.behaviour (quiet scene) detachedRenewal traffic ∧
        Step SmallGateway.gateway.behaviour traffic (orderEvent 1) later ∧
        (Errand.resolving (some SmallGateway.blog) []).Entitled SmallGateway.gateway name claim ∧
        HostName.storeKey name = SmallGateway.blog ∧
        ∀ number granted, .calls number (.askUser claim.owner) granted ∉ detachedRenewal := by
  have replayed :
      ((replay SmallGateway.gateway
          (quiet (SmallGateway.scene (Catalog.empty.insert SmallGateway.blog dueMock)))
          detachedRenewal).bind fun traffic =>
        (replayEvent SmallGateway.gateway traffic (orderEvent 1)).map fun _ => ()) =
        some () := by
    decide +kernel
  obtain ⟨traffic, accepted, ordered⟩ := Option.bind_eq_some_iff.mp replayed
  obtain ⟨later, acceptedOrder, -⟩ := Option.map_eq_some_iff.mp ordered
  have onlyHandshakes : OnlyHandshakes detachedRenewal := by
    intro arriving arrived
    refine ⟨some SmallGateway.blog, [], ?_⟩
    simpa [detachedRenewal] using arrived
  have entitled :
      (Errand.resolving (some SmallGateway.blog) []).Entitled SmallGateway.gateway
        SmallGateway.blog
        { owner := "alice", repo := "pages", branch := "pages", authorized := true } := {
    asks := ⟨SmallGateway.blog, [], rfl, by decide, rfl⟩
    named := by decide
    custom := by decide
    claimed := by decide
    authorized := rfl }
  refine ⟨_, traffic, later, _, _, onlyHandshakes, run_of_replay .nil accepted,
    step_of_replayEvent acceptedOrder, entitled, by decide, ?_⟩
  intro number granted asked
  simp [detachedRenewal] at asked

end Traffic

end OnDemandTls
