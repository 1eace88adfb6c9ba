import OnDemandTls.Proofs.Budget.Ample
import OnDemandTls.Proofs.Staging.Isolation
import OnDemandTls.Proofs.Traffic.Expenses

namespace OnDemandTls

/-!
# Paid calls of authorities

On the premises every token that a task spends is taken from a bucket, so the
books of an issuance say what each call of an authority has cost
(`Premises.authority_calls_are_paid`).

Other budgets can stand behind a run of the premises if they grant what is
granted in it (`Premises.Step.under`).  Budgets that are switched off grant what
anybody is granted, and ample budgets grant what those do; so without limits
the authorities are called as with budgets that never run out
(`Premises.Run.under_disabled`, `Premises.Run.under_ample`).
-/

/-! ## Other budgets -/

namespace PremisesEvent

/-- Nobody waits for a token or is refused one. -/
def IsGranted : PremisesEvent → Prop
  | traffic (.calls _ (.askUser _) granted) => granted = true
  | waits _ _ => False
  | _ => True

end PremisesEvent

namespace IssuanceBudgets

variable {α : Type} [Quantity α]

/-- Budgets answer as they are answered in an event. -/
def Grants
    (budgets : IssuanceBudgets α)
    (instant : Nat) :
    PremisesEvent → Prop
  | .traffic (.calls _ (.spend budget) _) => (budgets.attempt budget instant).1 = none
  | .traffic (.calls _ (.askUser user) granted) => granted = (budgets.askUser user instant).1
  | .waits _ _ => False
  | _ => True

/-- What an event leaves of budgets that grant it. -/
def following
    (budgets : IssuanceBudgets α)
    (instant : Nat) :
    PremisesEvent → IssuanceBudgets α
  | .traffic (.calls _ (.spend budget) _) => (budgets.attempt budget instant).2
  | .traffic (.calls _ (.askUser user) _) => (budgets.askUser user instant).2
  | _ => budgets

/-- Budgets that are switched off grant what anybody is granted, and stay as they
are. -/
theorem grants_disabled
    {budgets : IssuanceBudgets α}
    {event : PremisesEvent}
    (disabled : budgets.enabled = false)
    (granted : event.IsGranted)
    (instant : Nat) :
    budgets.Grants instant event ∧ budgets.following instant event = budgets := by
  cases event with
  | traffic event =>
      cases event with
      | calls number call answer =>
          cases call with
          | spend budget => simp [Grants, following, attempt_disabled disabled]
          | askUser user =>
              have isGranted : answer = true := granted
              simp [Grants, following, askUser_disabled disabled, isGranted]
          | _ => exact ⟨trivial, rfl⟩
      | _ => exact ⟨trivial, rfl⟩
  | waits number budget => exact granted.elim
  | _ => exact ⟨trivial, rfl⟩

/-- Ample budgets grant what anybody is granted, and are ample for one use less
then. -/
theorem Ample.grants
    {budgets : IssuanceBudgets Rat}
    {event : PremisesEvent}
    {number : Nat}
    (ample : budgets.Ample (number + 1))
    (granted : event.IsGranted)
    (instant : Nat) :
    budgets.Grants instant event ∧ (budgets.following instant event).Ample number := by
  have less := ample.fewer (Nat.le_succ number)
  cases event with
  | traffic event =>
      cases event with
      | calls task call answer =>
          cases call with
          | spend budget => exact ample.attempt budget instant
          | askUser user =>
              obtain ⟨answers, kept⟩ := ample.askUser user instant
              exact ⟨(show answer = true from granted).trans answers.symm, kept⟩
          | _ => exact ⟨trivial, less⟩
      | _ => exact ⟨trivial, less⟩
  | waits number budget => exact granted.elim
  | _ => exact ⟨trivial, less⟩

end IssuanceBudgets

/-- What stands backstage, with other budgets. -/
def Backstage.under
    {α β : Type}
    (backstage : Backstage α)
    (budgets : IssuanceBudgets β) :
    Backstage β where
  budgets := budgets
  asked := backstage.asked
  staged := backstage.staged

namespace Premises

/-- The premises with other budgets: the same traffic, and the same calls of
authorities. -/
def under
    {α β : Type}
    (premises : Premises α)
    (budgets : IssuanceBudgets β) :
    Premises β where
  traffic := premises.traffic
  backstage := premises.backstage.under budgets

variable {α β : Type} [Quantity α] [Quantity β]
variable {gateway : Gateway} {scene : Scene} {backstage : Backstage α}
variable {premises later : Premises α} {event : PremisesEvent} {events : List PremisesEvent}

/-- A step can be taken under other budgets that grant it. -/
theorem Step.under
    {budgets : IssuanceBudgets β}
    (step : Step gateway premises event later)
    (grants : budgets.Grants premises.instant event) :
    Step gateway (premises.under budgets) event
      (later.under (budgets.following premises.instant event)) := by
  cases step with
  | @traffic event later inside admitted =>
      cases event with
      | calls number call answer =>
          cases call with
          | spend budget => exact .traffic inside grants
          | askUser user => exact .traffic inside grants
          | _ => exact .traffic inside admitted
      | _ => exact .traffic inside trivial
  | waits present left attempted => exact grants.elim
  | deploys response => exact .deploys (premises.under budgets) response
  | cleans response => exact .cleans (premises.under budgets) response
  | answers request httpsPort => exact .answers (premises.under budgets) request httpsPort

/-- While budgets are switched off, a step leaves them as they are, and nobody
waits or is refused. -/
theorem Step.disabled
    (disabled : premises.backstage.budgets.enabled = false)
    (step : Step gateway premises event later) :
    later.backstage.budgets = premises.backstage.budgets ∧ event.IsGranted := by
  cases step with
  | @traffic event later inside admitted =>
      cases event with
      | calls number call answer =>
          cases call with
          | spend budget =>
              refine ⟨?_, trivial⟩
              simp [following, Backstage.after, IssuanceBudgets.attempt_disabled disabled]
          | askUser user =>
              have isAnswer : answer = _ := admitted
              rw [IssuanceBudgets.askUser_disabled disabled] at isAnswer
              refine ⟨?_, isAnswer⟩
              simp [following, Backstage.after, IssuanceBudgets.askUser_disabled disabled]
          | _ => exact ⟨rfl, trivial⟩
      | _ => exact ⟨rfl, trivial⟩
  | waits present left attempted =>
      rw [IssuanceBudgets.attempt_disabled disabled] at attempted
      cases attempted
  | _ => exact ⟨rfl, trivial⟩

theorem Run.disabled
    (run : Run gateway (quiet scene backstage) events premises)
    (disabled : backstage.budgets.enabled = false) :
    premises.backstage.budgets = backstage.budgets ∧ ∀ event ∈ events, event.IsGranted := by
  induction run with
  | nil => exact ⟨rfl, List.forall_mem_nil _⟩
  | snoc _ step inductionHypothesis =>
      obtain ⟨same, granted⟩ := inductionHypothesis
      obtain ⟨kept, grantedNow⟩ := step.disabled (same ▸ disabled)
      refine ⟨kept.trans same, List.forall_mem_append.mpr ⟨granted, ?_⟩⟩
      exact List.forall_mem_singleton.mpr grantedNow

/-- A run in which nobody waits or is refused goes on alike under budgets that
are switched off. -/
theorem Run.under_disabled
    {budgets : IssuanceBudgets β}
    (run : Run gateway (quiet scene backstage) events premises)
    (disabled : budgets.enabled = false)
    (granted : ∀ event ∈ events, event.IsGranted) :
    Run gateway (quiet scene (backstage.under budgets)) events (premises.under budgets) := by
  induction run with
  | nil => exact .nil
  | @snoc events premises later event _ step inductionHypothesis =>
      obtain ⟨grantedBefore, grantedNow⟩ := List.forall_mem_append.mp granted
      obtain ⟨grants, kept⟩ :=
        IssuanceBudgets.grants_disabled disabled (List.forall_mem_singleton.mp grantedNow)
          premises.instant
      have stepUnder := step.under grants
      rw [kept] at stepUnder
      exact .snoc (inductionHypothesis grantedBefore) stepUnder

/-- A run in which nobody waits or is refused goes on alike under ample budgets. -/
theorem Run.under_ample
    {budgets : IssuanceBudgets Rat}
    {number : Nat}
    (run : Run gateway (quiet scene backstage) events premises)
    (granted : ∀ event ∈ events, event.IsGranted)
    (ample : budgets.Ample (events.length + number)) :
    ∃ left : IssuanceBudgets Rat,
      left.Ample number ∧
        Run gateway (quiet scene (backstage.under budgets)) events (premises.under left) := by
  induction run generalizing number with
  | nil => exact ⟨budgets, ample.fewer (Nat.le_add_left _ _), .nil⟩
  | @snoc events premises later event _ step inductionHypothesis =>
      have oneMore : (events ++ [event]).length + number = events.length + (number + 1) := by
        rw [List.length_append, List.length_singleton, Nat.add_assoc, Nat.add_comm 1]
      rw [oneMore] at ample
      obtain ⟨grantedBefore, grantedNow⟩ := List.forall_mem_append.mp granted
      obtain ⟨left, isAmple, before⟩ := inductionHypothesis grantedBefore ample
      obtain ⟨grants, kept⟩ :=
        isAmple.grants (List.forall_mem_singleton.mp grantedNow) premises.instant
      exact ⟨_, kept, .snoc before (step.under grants)⟩

end Premises

/-! ## Tokens -/

section Tokens

variable {α : Type} [Quantity α]

/-- Who does not have to try again has found a token and has taken it. -/
theorem TokenBucket.of_attempt_eq_none
    {bucket : TokenBucket α}
    {now : Nanoseconds}
    (taken : (bucket.attempt now).1 = none) :
    (bucket.refill now).hasToken = true ∧
      (bucket.attempt now).2 = (bucket.refill now).spend := by
  unfold attempt ask at taken ⊢
  by_cases filled : (bucket.refill now).hasToken = true
  · simp [filled]
  · simp [filled] at taken

omit [Quantity α] in
@[simp] theorem IssuanceBudgets.bucket_withBucket
    (budgets : IssuanceBudgets α)
    (budget : Budget)
    (bucket : TokenBucket α) :
    (budgets.withBucket budget bucket).bucket budget = bucket := by
  cases budget <;> rfl

/-- A token that is spent while there are limits was there, and is gone. -/
theorem Premises.Step.takes_token
    {gateway : Gateway}
    {premises later : Premises α}
    {number : Nat}
    {budget : Budget}
    (step : Step gateway premises (.traffic (.calls number (.spend budget) ())) later)
    (enabled : premises.backstage.budgets.enabled = true) :
    ((premises.backstage.budgets.bucket budget).refill premises.instant).hasToken = true ∧
      later.backstage.budgets.bucket budget =
        ((premises.backstage.budgets.bucket budget).refill premises.instant).spend := by
  cases step with
  | traffic inside admitted =>
      have taken : (premises.backstage.budgets.attempt budget premises.instant).1 = none :=
        admitted
      simp only [IssuanceBudgets.attempt, enabled, if_true] at taken
      obtain ⟨filled, left⟩ := TokenBucket.of_attempt_eq_none taken
      refine ⟨filled, ?_⟩
      simp [Premises.following, Backstage.after, IssuanceBudgets.attempt, enabled, left]

end Tokens

/-! ## Accounts -/

/-- What a request has spent that was answered. -/
structure Gateway.Accounts
    (gateway : Gateway)
    (request : ObtainRequest)
    (transcript : List Exchange)
    (result : Except ObtainError CertificateResource) :
    Prop where
  /-- Who finds the name taken spends nothing. -/
  busy :
    ∀ guardNumber, .busy guardNumber ∈ claimsIn transcript → expensesIn transcript = []
  /-- Without a client nothing is spent. -/
  noClient : gateway.client? request.role = none → expensesIn transcript = []
  /-- Without a name that the client can be asked for nothing is spent. -/
  noName :
    (∀ job, gateway.job? request = some job → job.issuance.domains = []) →
    expensesIn transcript = []
  /-- The owner of the name renews just what an authority has issued before, and
  a token is spent for each call. -/
  owner :
    ∀ job guardNumber,
      gateway.job? request = some job →
      .owner guardNumber ∈ claimsIn transcript →
      job.client ≠ none →
      job.issuance.domains ≠ [] →
      job.Settlement (expensesIn transcript) result ∧
        IssuanceJob.Balanced (expensesIn transcript) ∧
        (expensesIn transcript).filterMap Exchange.renewal? =
          (request.previous.filter fun previous => previous.origin = .acme).toList

/-- The accounts of a request that was answered, whatever its calls were
answered. -/
theorem Gateway.accounts_of_leads
    {gateway : Gateway}
    {request : ObtainRequest}
    {transcript : List Exchange}
    {result : Except ObtainError CertificateResource}
    (leads : (gateway.obtain request).Leads transcript (.done result)) :
    gateway.Accounts request transcript result := by
  cases isJob : gateway.job? request with
  | none =>
      -- A request without names makes no call at all.
      have silent : expensesIn transcript = [] := by
        rw [Gateway.obtain_eq, isJob] at leads
        rw [leads.of_done.2]
        rfl
      refine ⟨fun _ _ => silent, fun _ => silent, fun _ => silent, fun job _ other => ?_⟩
      cases isJob.symm.trans other
  | some job =>
      obtain ⟨sameRequest, isClient, -⟩ := Gateway.job?_eq_some isJob
      obtain ⟨progress, isDone, books⟩ := Gateway.books_of_leads isJob leads
      rw [IssuanceProgress.eq_ended_of_done isDone] at books
      rcases books with ⟨guardNumber, waited, silent⟩ | ⟨guardNumber, owned, settles⟩
      · refine ⟨fun _ _ => silent, fun _ => silent, fun _ => silent,
          fun other _ isOther claimed => ?_⟩
        simp [waited] at claimed
      · have hopeless (without : job.IsHopeless) : expensesIn transcript = [] :=
          settles.elim And.right fun hopeful => (hopeful.1 without).elim
        refine ⟨fun other claimed => ?_, fun noClient => ?_, fun noName => ?_,
          fun other _ isOther _ hasClient hasName => ?_⟩
        · simp [owned] at claimed
        · exact hopeless (Or.inl (isClient.trans noClient))
        · exact hopeless (Or.inr (noName job isJob))
        · cases isJob.symm.trans isOther
          rcases settles with ⟨without, -⟩ | ⟨-, settlement⟩
          · exact (without.elim hasClient hasName).elim
          · refine ⟨settlement, settlement.balanced, ?_⟩
            rw [settlement.renewals, IssuanceJob.previous, sameRequest]

namespace Premises

/-- The calls of a task on the premises so far. -/
def transcript
    (number : Nat)
    (events : List PremisesEvent) :
    List Exchange :=
  Traffic.transcript number (events.filterMap PremisesEvent.traffic?)

section Calls

variable {α : Type} [Quantity α]
variable {gateway : Gateway} {scene : Scene} {backstage : Backstage α}
variable {premises : Premises α} {events : List PremisesEvent}

/-- What is left of a task that obtains a certificate is what its calls have led
to. -/
theorem Run.leads_obtain
    {number : Nat}
    {task : GatewayTask (GatewayProgram TaskResult)}
    {request : ObtainRequest}
    {rest : GatewayProgram TaskResult}
    (run : Run gateway (quiet scene backstage) events premises)
    (present : premises.traffic.tasks[number]? = some task)
    (obtains : task.errand = .obtaining request)
    (left : task.rest = some rest) :
    ∃ inner,
      rest = inner.bind (fun result => .done (.obtained result)) ∧
        (gateway.obtain request).Leads (transcript number events) inner := by
  have leads := run.traffic.leads present left
  rw [obtains] at leads
  exact Program.Leads.of_map leads

/-- Before an authority is called, what the call costs has been paid. -/
theorem Run.paid_before
    {number : Nat}
    {task : GatewayTask (GatewayProgram TaskResult)}
    {request : ObtainRequest}
    {call : GatewayCall}
    {answer : call.Answer}
    {later : Premises α}
    (run : Run gateway (quiet scene backstage) events premises)
    (present : premises.traffic.tasks[number]? = some task)
    (obtains : task.errand = .obtaining request)
    (step : Step gateway premises (.traffic (.calls number call answer)) later) :
    (∀ role previous,
        call = .renew role previous →
        expensesIn (transcript number events) = [.token .request]) ∧
      ∀ role domains,
        call = .order role domains →
        ∃ earlier,
          expensesIn (transcript number events) =
            earlier ++ [.token .order, .token .request] := by
  cases step with
  | traffic inside admitted =>
      obtain ⟨acting, stage, next, there, left, moved, -⟩ := inside.called
      cases present.symm.trans there
      obtain ⟨inner, isRest, leads⟩ := run.leads_obtain present obtains left
      obtain ⟨following, rfl, -⟩ := moved
      cases inner with
      | done result => cases isRest
      | call upcoming next =>
          cases isRest
          cases isJob : gateway.job? request with
          | none =>
              rw [Gateway.obtain_eq, isJob] at leads
              cases leads.of_done.1
          | some job =>
              obtain ⟨progress, isProgress, books⟩ := Gateway.books_of_leads isJob leads
              obtain ⟨progressLater, moves, -⟩ :=
                IssuanceProgress.follows job isProgress.symm answer
              cases progress with
              | ended result => exact moves.elim
              | on stage =>
                  obtain ⟨inBooks, -⟩ := books
                  refine ⟨fun role previous isRenewal => ?_, fun role domains isOrder => ?_⟩
                  · subst isRenewal
                    cases moves <;> exact inBooks.2.2
                  · subst isOrder
                    cases moves <;>
                      (obtain ⟨-, attempt, -, paid⟩ := inBooks
                       exact ⟨attempt ++ job.consent, paid⟩)

/-- Every call of an authority is paid for, in all runs of the premises and
whatever stands behind them.  A request that was answered has accounts, and
before each of its calls of an authority stand the tokens for it.  While there
are limits, every token that is spent is taken from its bucket.  Without limits
the budgets stay as they are, nobody waits and nobody is refused; and a run in
which nobody waits or is refused is one without limits as well as one with
ample budgets, with the same traffic. -/
theorem authority_calls_are_paid
    (run : Run gateway (quiet scene backstage) events premises) :
    (∀ number task request,
        premises.traffic.tasks[number]? = some task →
        task.errand = .obtaining request →
        (∀ result,
          task.rest = some (.done (.obtained result)) →
          gateway.Accounts request (transcript number events) result) ∧
        ∀ call answer later,
          Step gateway premises (.traffic (.calls number call answer)) later →
          (∀ role previous,
            call = .renew role previous →
            expensesIn (transcript number events) = [.token .request]) ∧
          ∀ role domains,
            call = .order role domains →
            ∃ earlier,
              expensesIn (transcript number events) =
                earlier ++ [.token .order, .token .request]) ∧
      (∀ number budget later,
        Step gateway premises (.traffic (.calls number (.spend budget) ())) later →
        premises.backstage.budgets.enabled = true →
        ((premises.backstage.budgets.bucket budget).refill premises.instant).hasToken = true ∧
          later.backstage.budgets.bucket budget =
            ((premises.backstage.budgets.bucket budget).refill premises.instant).spend) ∧
      (backstage.budgets.enabled = false →
        premises.backstage.budgets = backstage.budgets ∧
          (∀ event ∈ events, event.IsGranted) ∧
          ∀ budget instant,
            backstage.budgets.attempt budget instant = (none, backstage.budgets)) ∧
      ((∀ event ∈ events, event.IsGranted) →
        (∀ off : IssuanceBudgets α,
          off.enabled = false →
          Run gateway (quiet scene (backstage.under off)) events (premises.under off)) ∧
        ∀ ample : IssuanceBudgets Rat,
          ample.Ample events.length →
          ∃ left : IssuanceBudgets Rat,
            Run gateway (quiet scene (backstage.under ample)) events (premises.under left)) := by
  refine ⟨fun number task request present obtains => ⟨fun result left => ?_,
      fun call answer later step => run.paid_before present obtains step⟩,
    fun number budget later step enabled => step.takes_token enabled,
    fun disabled => ?_, fun granted => ⟨fun off isOff => run.under_disabled isOff granted,
      fun ample isAmple => ?_⟩⟩
  · obtain ⟨inner, isOver, leads⟩ := run.leads_obtain present obtains left
    obtain ⟨value, rfl, isResult⟩ := Program.eq_done_of_map isOver
    cases isResult
    exact Gateway.accounts_of_leads leads
  · obtain ⟨same, granted⟩ := run.disabled disabled
    exact ⟨same, granted, fun budget => IssuanceBudgets.attempt_disabled disabled budget⟩
  · have enough : ample.Ample (events.length + 0) := isAmple
    obtain ⟨left, -, underAmple⟩ := run.under_ample granted enough
    exact ⟨left, underAmple⟩

end Calls

end Premises

/-! ## An issuance that pays -/

namespace GatewayTask

/-- The request that a task is to carry out. -/
def request? (task : GatewayTask (GatewayProgram TaskResult)) : Option ObtainRequest :=
  match task.errand with
  | .obtaining request => some request
  | _ => none

theorem errand_of_request?
    {task : GatewayTask (GatewayProgram TaskResult)}
    {request : ObtainRequest}
    (isRequest : task.request? = some request) :
    task.errand = .obtaining request := by
  unfold request? at isRequest
  split at isRequest
  · rename_i found isErrand
    cases isRequest
    exact isErrand
  · cases isRequest

end GatewayTask

namespace Backstage

variable {α : Type} [Quantity α]

/-- Whether a call can have an answer, as far as that is decided backstage, as a
test. -/
def admits
    (backstage : Backstage α)
    (instant : Nat) :
    (call : GatewayCall) → call.Answer → Bool
  | .spend budget, _ => (backstage.budgets.attempt budget instant).1 == none
  | .askUser user, answer => answer == (backstage.budgets.askUser user instant).1
  | .stagedAnswer name, answer => answer == (backstage.staged.get name instant).1
  | .purgeStaged, answer => answer == (backstage.staged.purge instant).1
  | _, _ => true

theorem admits_sound
    {backstage : Backstage α}
    {instant : Nat}
    {call : GatewayCall}
    {answer : call.Answer}
    (accepted : backstage.admits instant call answer = true) :
    backstage.Admits instant call answer := by
  cases call with
  | spend budget => exact eq_of_beq accepted
  | askUser user => exact eq_of_beq accepted
  | stagedAnswer name => exact eq_of_beq accepted
  | purgeStaged => exact eq_of_beq accepted
  | _ => trivial

end Backstage

namespace Premises

section Replay

variable {α : Type} [Quantity α]

/-- Whether an event of traffic can be, as far as that is decided backstage. -/
def admits
    (premises : Premises α) :
    TrafficEvent → Bool
  | .calls _ call answer => premises.backstage.admits premises.instant call answer
  | _ => true

theorem admits_sound
    {premises : Premises α}
    {event : TrafficEvent}
    (accepted : premises.admits event = true) :
    premises.Admits event := by
  cases event with
  | calls number call answer => exact Backstage.admits_sound accepted
  | _ => trivial

/-- Check events of traffic one after another, and what stands behind them. -/
def replay
    (gateway : Gateway) :
    Premises α → List TrafficEvent → Option (Premises α)
  | premises, [] => some premises
  | premises, event :: rest =>
      if premises.admits event then
        (Traffic.replayEvent gateway premises.traffic event).bind fun later =>
          replay gateway (premises.following event later) rest
      else
        none

/-- Accepted events are those of a run. -/
theorem run_of_replay
    {gateway : Gateway}
    {start premises later : Premises α}
    {earlier : List PremisesEvent}
    {events : List TrafficEvent}
    (run : Run gateway start earlier premises)
    (accepted : replay gateway premises events = some later) :
    Run gateway start (earlier ++ events.map .traffic) later := by
  induction events generalizing earlier premises with
  | nil =>
      cases accepted
      rw [List.map_nil, List.append_nil]
      exact run
  | cons event rest inductionHypothesis =>
      unfold replay at accepted
      split at accepted
      · rename_i admitted
        obtain ⟨next, first, others⟩ := Option.bind_eq_some_iff.mp accepted
        rw [List.map_cons, List.append_cons]
        exact inductionHypothesis
          (.snoc run (.traffic (Traffic.step_of_replayEvent first) (admits_sound admitted))) others
      · cases accepted

end Replay

/-- Alice's request to renew a certificate that an authority issued. -/
def renewalByAlice : ObtainRequest where
  domains := [SmallGateway.blog]
  previous := some (SmallGateway.certificate "old" 1700086400)
  user := some "alice"

/-- The renewal fails, alice agrees to pay for a fresh certificate, and it is
issued. -/
def paidIssuance : List TrafficEvent :=
  [ .arrives (.obtaining renewalByAlice)
  , .calls 0 (.claim SmallGateway.blog) (.owner 0)
  , .calls 0 (.spend .request) ()
  , .calls 0 (.renew .general (SmallGateway.certificate "old" 1700086400))
      (.error (.generation "refused"))
  , .calls 0 (.spend .failure) ()
  , .calls 0 (.askUser "alice") true
  , .calls 0 (.spend .order) ()
  , .calls 0 (.spend .request) ()
  , .calls 0 (.order .general [SmallGateway.blog])
      (.ok (SmallGateway.certificate "new" 1707776000))
  , .calls 0
      (.putRecord SmallGateway.blog (SmallGateway.certificate "new" 1707776000)) (.ok ())
  , .calls 0 (.release SmallGateway.blog) () ]

/-- Alice's issuance runs while there are limits, and the theorem applies: its
tokens and its calls balance. -/
theorem issuance_of_alice_is_paid :
    ∃ premises task,
      Run SmallGateway.gateway (quiet (SmallGateway.scene Catalog.empty) freshBackstage)
          (paidIssuance.map .traffic) premises ∧
        premises.traffic.tasks[0]? = some task ∧
        (expensesIn (transcript 0 (paidIssuance.map .traffic))).length = 7 ∧
        IssuanceJob.Balanced (expensesIn (transcript 0 (paidIssuance.map .traffic))) := by
  have replayed :
      ((replay SmallGateway.gateway
          (quiet (SmallGateway.scene Catalog.empty) freshBackstage) paidIssuance).bind
        fun premises =>
          premises.traffic.tasks[0]?.bind fun task =>
            task.request?.bind fun request =>
              task.obtained?.map fun resource => (request, resource)) =
        some (renewalByAlice, SmallGateway.certificate "new" 1707776000) := by
    decide +kernel
  obtain ⟨premises, accepted, found⟩ := Option.bind_eq_some_iff.mp replayed
  obtain ⟨task, present, ended⟩ := Option.bind_eq_some_iff.mp found
  obtain ⟨request, isRequest, obtained⟩ := Option.bind_eq_some_iff.mp ended
  obtain ⟨resource, isResource, same⟩ := Option.map_eq_some_iff.mp obtained
  cases same
  have run := run_of_replay .nil accepted
  rw [List.nil_append] at run
  obtain ⟨paid, -⟩ := authority_calls_are_paid run
  have accounts := (paid 0 task renewalByAlice present (GatewayTask.errand_of_request? isRequest)).1
    _ (GatewayTask.rest_of_obtained? isResource)
  obtain ⟨job, isJob, hasClient, hasName⟩ :
      ∃ job,
        SmallGateway.gateway.job? renewalByAlice = some job ∧
          job.client ≠ none ∧
          job.issuance.domains ≠ [] :=
    ⟨_, rfl, by decide, by decide⟩
  have claimed : LockClaim.owner 0 ∈ claimsIn (transcript 0 (paidIssuance.map .traffic)) := by
    decide +kernel
  obtain ⟨-, balanced, -⟩ := accounts.owner job 0 isJob claimed hasClient hasName
  exact ⟨premises, task, run, present, rfl, balanced⟩

end Premises

end OnDemandTls
