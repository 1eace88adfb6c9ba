import OnDemandTls.Acme.Client
import OnDemandTls.Proofs.Traffic.TaskStages

namespace OnDemandTls

/-!
# Conversations with an authority

A conversation has all calls of a client's program with their answers, from the first
to the last (`Program.Converses`).  Nothing is assumed about the answers, so what
holds of every conversation holds whatever an authority says and whichever handlers
fail.

A client that sees to the authorizations of an order deploys one answer for each that
still needs one, in their order (`AcmeClient.Answering`), and keeps account of those
that are deployed, so that it can clean them up at the end
(`AcmeClient.converses_satisfy`).
-/

/-- A call of a client with its answer. -/
structure AcmeExchange where
  call : AcmeCall
  answer : call.Answer

namespace AcmeExchange

/-- The authorization that an authority shows. -/
def shown? : AcmeExchange → Option Authorization
  | ⟨.authorization _ _, .ok authorization⟩ => some authorization
  | _ => none

/-- The answer to a challenge that is to be deployed, whether or not that works. -/
def attempted? : AcmeExchange → Option ChallengeResponse
  | ⟨.deploy response, _⟩ => some response
  | _ => none

/-- The answer to a challenge that is deployed with success. -/
def deployed? : AcmeExchange → Option ChallengeResponse
  | ⟨.deploy response, .ok ()⟩ => some response
  | _ => none

/-- The answer to a challenge that is to be cleaned up, whether or not that works. -/
def cleaned? : AcmeExchange → Option ChallengeResponse
  | ⟨.cleanup response, _⟩ => some response
  | _ => none

/-- The authorizations that an authority shows in a conversation. -/
def shownIn (conversation : List AcmeExchange) : List Authorization :=
  conversation.filterMap shown?

/-- The answers that are to be deployed in a conversation. -/
def attemptedIn (conversation : List AcmeExchange) : List ChallengeResponse :=
  conversation.filterMap attempted?

/-- The answers that are deployed in a conversation. -/
def deployedIn (conversation : List AcmeExchange) : List ChallengeResponse :=
  conversation.filterMap deployed?

/-- The answers that are to be cleaned up in a conversation. -/
def cleanedIn (conversation : List AcmeExchange) : List ChallengeResponse :=
  conversation.filterMap cleaned?

variable (front back : List AcmeExchange)

@[simp] theorem shownIn_append : shownIn (front ++ back) = shownIn front ++ shownIn back :=
  List.filterMap_append

@[simp] theorem attemptedIn_append :
    attemptedIn (front ++ back) = attemptedIn front ++ attemptedIn back :=
  List.filterMap_append

theorem attemptedIn_cons_eq_nil_iff
    {exchange : AcmeExchange}
    {rest : List AcmeExchange} :
    attemptedIn (exchange :: rest) = [] ↔ exchange.attempted? = none ∧ attemptedIn rest = [] := by
  rw [attemptedIn, List.filterMap_eq_nil_iff, List.forall_mem_cons, ← List.filterMap_eq_nil_iff]
  rfl

@[simp] theorem deployedIn_append :
    deployedIn (front ++ back) = deployedIn front ++ deployedIn back :=
  List.filterMap_append

@[simp] theorem cleanedIn_append :
    cleanedIn (front ++ back) = cleanedIn front ++ cleanedIn back :=
  List.filterMap_append

end AcmeExchange

namespace AcmeCall

/-- The answer to a challenge that a call has a handler deploy or clean up. -/
def response? : AcmeCall → Option ChallengeResponse
  | deploy response | cleanup response => some response
  | _ => none

/-- The calls that have nothing to do with challenges. -/
def IsAside : AcmeCall → Prop
  | authorization _ _ | deploy _ | cleanup _ => False
  | _ => True

end AcmeCall

theorem AcmeExchange.response?_of_cleaned
    {exchange : AcmeExchange}
    {response : ChallengeResponse}
    (cleaned : exchange.cleaned? = some response) :
    exchange.call.response? = some response := by
  obtain ⟨call, answer⟩ := exchange
  cases call with
  | cleanup response => exact cleaned
  | _ => cases cleaned

namespace Program

variable {α β : Type}

/-- A program comes to its end in a conversation. -/
inductive Converses : AcmeProgram α → List AcmeExchange → α → Prop where
  | done (value : α) :
      Converses (.done value) [] value
  | call
      {call : AcmeCall}
      {next : call.Answer → AcmeProgram α}
      {rest : List AcmeExchange}
      {value : α}
      (answer : call.Answer) :
      Converses (next answer) rest value →
      Converses (.call call next) (⟨call, answer⟩ :: rest) value

variable {conversation : List AcmeExchange}

/-- A program comes to its end, whatever it is answered, and on whatever the answers
depend that was said before. -/
theorem exists_converses
    (program : AcmeProgram α)
    (answers : List AcmeExchange → ∀ call : AcmeCall, call.Answer)
    (before : List AcmeExchange) :
    ∃ conversation value,
      program.Converses conversation value ∧
        ∀ front exchange back,
          conversation = front ++ exchange :: back →
          exchange.answer = answers (before ++ front) exchange.call := by
  induction program generalizing before with
  | done value => exact ⟨[], value, .done value, by simp⟩
  | call request next inductionHypothesis =>
      let first : AcmeExchange := ⟨request, answers before request⟩
      obtain ⟨rest, value, converses, answered⟩ :=
        inductionHypothesis first.answer (before ++ [first])
      refine ⟨first :: rest, value, .call first.answer converses, ?_⟩
      intro front exchange back split
      cases front with
      | nil =>
          obtain ⟨rfl, -⟩ := List.cons_eq_cons.mp split
          rw [List.append_nil]
      | cons other front =>
          obtain ⟨rfl, later⟩ := List.cons_eq_cons.mp split
          have same := answered front exchange back later
          rwa [List.append_assoc] at same

theorem converses_pure_iff {value result : α} :
    (pure value : AcmeProgram α).Converses conversation result ↔
      conversation = [] ∧ result = value := by
  constructor
  · intro converses
    cases converses with
    | done => exact ⟨rfl, rfl⟩
  · rintro ⟨rfl, rfl⟩
    exact .done _

/-- A conversation with one program after another is one with the first and then one
with the second. -/
theorem converses_bind_iff
    {program : AcmeProgram α}
    {next : α → AcmeProgram β}
    {result : β} :
    (program >>= next).Converses conversation result ↔
      ∃ first second value,
        conversation = first ++ second ∧
          program.Converses first value ∧
          (next value).Converses second result := by
  constructor
  · intro converses
    induction program generalizing conversation with
    | done value => exact ⟨[], conversation, value, rfl, .done value, converses⟩
    | call request rest inductionHypothesis =>
        cases converses with
        | call answer converses =>
            obtain ⟨first, second, value, rfl, begins, ends⟩ :=
              inductionHypothesis answer converses
            exact ⟨_ :: first, second, value, rfl, .call answer begins, ends⟩
  · rintro ⟨first, second, value, rfl, begins, ends⟩
    induction begins with
    | done value => exact ends
    | call answer _ inductionHypothesis => exact .call answer (inductionHypothesis ends)

/-- A conversation with a program that makes a call first. -/
theorem converses_ask_bind_iff
    {call : AcmeCall}
    {next : call.Answer → AcmeProgram β}
    {result : β} :
    (call.ask >>= next).Converses conversation result ↔
      ∃ answer rest,
        conversation = ⟨call, answer⟩ :: rest ∧ (next answer).Converses rest result := by
  constructor
  · intro converses
    cases converses with
    | call answer converses => exact ⟨answer, _, rfl, converses⟩
  · rintro ⟨answer, rest, rfl, converses⟩
    exact .call answer converses

theorem callsOnly_ask_bind
    {allowed : AcmeCall → Prop}
    {call : AcmeCall}
    {next : call.Answer → AcmeProgram β}
    (permitted : allowed call)
    (rest : ∀ answer, (next answer).CallsOnly (I := acmeCalls) allowed) :
    (call.ask >>= next).CallsOnly (I := acmeCalls) allowed :=
  .call permitted rest

theorem Converses.allowed
    {allowed : AcmeCall → Prop}
    {program : AcmeProgram α}
    {result : α}
    (converses : program.Converses conversation result)
    (only : program.CallsOnly (I := acmeCalls) allowed) :
    ∀ exchange ∈ conversation, allowed exchange.call := by
  induction converses with
  | done value => exact fun exchange member => (List.not_mem_nil member).elim
  | call answer _ inductionHypothesis =>
      intro exchange member
      rcases List.mem_cons.mp member with rfl | later
      · exact only.allowed_next
      · exact inductionHypothesis (only.rest answer) exchange later

end Program

namespace AcmeExchange

/-- A conversation in which no authorization is shown and nothing is deployed or
cleaned up. -/
structure IsAside (conversation : List AcmeExchange) : Prop where
  shown : shownIn conversation = []
  attempted : attemptedIn conversation = []
  deployed : deployedIn conversation = []
  cleaned : cleanedIn conversation = []

theorem isAside_of_calls
    {conversation : List AcmeExchange}
    (aside : ∀ exchange ∈ conversation, exchange.call.IsAside) :
    IsAside conversation := by
  have silent {α : Type} (view : AcmeExchange → Option α)
      (hides : ∀ call answer, AcmeCall.IsAside call → view ⟨call, answer⟩ = none) :
      conversation.filterMap view = [] :=
    List.filterMap_eq_nil_iff.mpr fun exchange member =>
      hides exchange.call exchange.answer (aside exchange member)
  constructor
  all_goals
    refine silent _ fun call answer isAside => ?_
    cases call <;> first | rfl | exact isAside.elim

theorem IsAside.append
    {front back : List AcmeExchange}
    (first : IsAside front)
    (second : IsAside back) :
    IsAside (front ++ back) where
  shown := by rw [shownIn_append, first.shown, second.shown, List.append_nil]
  attempted := by rw [attemptedIn_append, first.attempted, second.attempted, List.append_nil]
  deployed := by rw [deployedIn_append, first.deployed, second.deployed, List.append_nil]
  cleaned := by rw [cleanedIn_append, first.cleaned, second.cleaned, List.append_nil]

end AcmeExchange

/-! ## Waiting and collecting -/

namespace Polling

theorem callsOnly_untilFinal
    (order : Nat)
    (isFinal : OrderStatus → Bool)
    (deadline delays delay : Nat) :
    (untilFinal order isFinal deadline delays delay).CallsOnly (I := acmeCalls)
      AcmeCall.IsAside := by
  induction delays generalizing delay with
  | zero => exact .done _
  | succ delays inductionHypothesis =>
      refine Program.callsOnly_ask_bind trivial fun _ =>
        Program.callsOnly_ask_bind trivial fun now => ?_
      split
      · exact .done _
      · refine Program.callsOnly_ask_bind trivial fun state => ?_
        rcases state with fault | ⟨status, _ | problem⟩
        · exact .done _
        · simp only
          split
          · exact .done _
          · exact inductionHypothesis (2 * delay)
        · exact .done _

theorem callsOnly_await
    (order : Nat)
    (isFinal : OrderStatus → Bool) :
    (await order isFinal).CallsOnly (I := acmeCalls) AcmeCall.IsAside :=
  Program.callsOnly_ask_bind trivial fun start =>
    callsOnly_untilFinal order isFinal (start + patience) mostDelays firstDelay

end Polling

namespace AcmeClient

theorem callsOnly_awaitReady (order : Nat) :
    (awaitReady order).CallsOnly (I := acmeCalls) AcmeCall.IsAside := by
  refine (Polling.callsOnly_await order _).bind fun waited => ?_
  rcases waited with fault | status
  · exact .done _
  · cases status <;> exact .done _

theorem callsOnly_collect (order : Nat) :
    (collect order).CallsOnly (I := acmeCalls) AcmeCall.IsAside := by
  refine Program.callsOnly_ask_bind trivial fun made => ?_
  rcases made with fault | key
  · exact .done _
  · refine (Polling.callsOnly_await order _).bind fun waited => ?_
    rcases waited with fault | status
    · exact .done _
    · cases status with
      | valid =>
          refine Program.callsOnly_ask_bind trivial fun fetched => ?_
          rcases fetched with fault | chain <;> exact .done _
      | _ => exact .done _

/-! ## Answering -/

open AcmeExchange Program

variable {client : AcmeClient} {order index : Nat} {domains : List String}
variable {conversation front back : List AcmeExchange}
variable {already noted : List ChallengeResponse} {answered : Answered}

/-- The answer that an authorization is due: none if the authority is satisfied
already, or offers no challenge that the client answers. -/
def due?
    (client : AcmeClient)
    (authorization : Authorization) :
    Option ChallengeResponse :=
  if authorization.isValid then none else client.choose? authorization

/-- What comes of seeing to some authorizations.  Of those that are shown each one is
answered as it is due; what is deployed is noted behind what has been; nothing is
cleaned up yet; and where no challenge can be answered, that is the end. -/
structure Answering
    (client : AcmeClient)
    (already : List ChallengeResponse)
    (conversation : List AcmeExchange)
    (answered : Answered) :
    Prop where
  attempted : attemptedIn conversation = (shownIn conversation).filterMap client.due?
  deployed : answered.2 = already ++ deployedIn conversation
  cleaned : cleanedIn conversation = []
  refused :
    ∀ authorization ∈ shownIn conversation,
      authorization.isValid = false →
      client.choose? authorization = none →
      answered.1 =
        .error (.challengeFailed (.noSupportedType authorization.identifier client.responders))

theorem Answering.nothing
    (client : AcmeClient)
    (already : List ChallengeResponse)
    (result : Except AuthorityError Unit) :
    client.Answering already [] (result, already) where
  attempted := rfl
  deployed := (List.append_nil already).symm
  cleaned := rfl
  refused := nofun

/-- Only after one authorization has been seen to does the client go on to others. -/
theorem Answering.append
    (first : client.Answering already front (.ok (), noted))
    (second : client.Answering noted back answered) :
    client.Answering already (front ++ back) answered where
  attempted := by
    rw [attemptedIn_append, shownIn_append, List.filterMap_append, first.attempted,
      second.attempted]
  deployed := by
    have isNoted : noted = already ++ deployedIn front := first.deployed
    rw [second.deployed, isNoted, deployedIn_append, List.append_assoc]
  cleaned := by rw [cleanedIn_append, first.cleaned, second.cleaned, List.append_nil]
  refused := by
    intro authorization member isOpen unanswered
    rcases List.mem_append.mp (shownIn_append front back ▸ member) with before | later
    · cases first.refused authorization before isOpen unanswered
    · exact second.refused authorization later isOpen unanswered

/-- An answer is noted exactly if it is deployed, also if the authority then refuses
to check it. -/
theorem converses_respond
    {response : ChallengeResponse}
    (converses : (respond order index response already).Converses conversation answered) :
    shownIn conversation = [] ∧
      attemptedIn conversation = [response] ∧
      answered.2 = already ++ deployedIn conversation ∧
      cleanedIn conversation = [] := by
  obtain ⟨deploy, rest, rfl, deploying⟩ := converses_ask_bind_iff.mp converses
  rcases deploy with error | ⟨⟨⟩⟩
  · obtain ⟨rfl, rfl⟩ := converses_pure_iff.mp deploying
    exact ⟨rfl, rfl, (List.append_nil already).symm, rfl⟩
  · obtain ⟨ready, rest, rfl, marking⟩ := converses_ask_bind_iff.mp deploying
    rcases ready with fault | ⟨⟨⟩⟩
    · obtain ⟨rfl, rfl⟩ := converses_pure_iff.mp marking
      exact ⟨rfl, rfl, rfl, rfl⟩
    · obtain ⟨rfl, rfl⟩ := converses_pure_iff.mp marking
      exact ⟨rfl, rfl, rfl, rfl⟩

/-- One authorization is answered as it is due. -/
theorem converses_authorize
    (converses : (client.authorize order index already).Converses conversation answered) :
    client.Answering already conversation answered := by
  obtain ⟨shows, rest, rfl, seeing⟩ := converses_ask_bind_iff.mp converses
  rcases shows with fault | authorization
  · obtain ⟨rfl, rfl⟩ := converses_pure_iff.mp seeing
    exact { attempted := rfl, deployed := (List.append_nil already).symm, cleaned := rfl,
            refused := nofun }
  · have isShown (rest : List AcmeExchange) :
        shownIn (⟨.authorization order index, .ok authorization⟩ :: rest) =
          authorization :: shownIn rest := rfl
    simp only at seeing
    split at seeing
    · rename_i isValid
      obtain ⟨rfl, rfl⟩ := converses_pure_iff.mp seeing
      have skipped : client.due? authorization = none := if_pos isValid
      refine ⟨?_, (List.append_nil already).symm, rfl, ?_⟩
      · rw [isShown, List.filterMap_cons_none skipped]
        rfl
      · intro other member isOpen
        cases List.mem_singleton.mp member
        cases isValid.symm.trans isOpen
    · rename_i isOpen
      have isDue : client.due? authorization = client.choose? authorization := if_neg isOpen
      split at seeing
      · rename_i unanswered
        obtain ⟨rfl, rfl⟩ := converses_pure_iff.mp seeing
        refine ⟨?_, (List.append_nil already).symm, rfl, ?_⟩
        · rw [isShown, List.filterMap_cons_none (isDue.trans unanswered)]
          rfl
        · intro other member _ _
          cases List.mem_singleton.mp member
          rfl
      · rename_i response chosen
        obtain ⟨shown, attempted, deployed, cleaned⟩ := converses_respond seeing
        refine ⟨?_, deployed, cleaned, ?_⟩
        · rw [isShown, List.filterMap_cons_some (isDue.trans chosen), shown]
          exact attempted
        · intro other member _ unanswered
          rw [isShown, shown] at member
          cases List.mem_singleton.mp member
          cases chosen.symm.trans unanswered

/-- So are all authorizations, one after another, until one fails. -/
theorem converses_authorizeAll
    {indices : List Nat}
    (converses : (client.authorizeAll order indices already).Converses conversation answered) :
    client.Answering already conversation answered := by
  induction indices generalizing already conversation with
  | nil =>
      obtain ⟨rfl, rfl⟩ := converses_pure_iff.mp converses
      exact .nothing client already _
  | cons index rest inductionHypothesis =>
      obtain ⟨first, second, ⟨result, noted⟩, rfl, one, others⟩ := converses_bind_iff.mp converses
      have begins := converses_authorize one
      rcases result with error | ⟨⟨⟩⟩
      · obtain ⟨rfl, rfl⟩ := converses_pure_iff.mp others
        rwa [List.append_nil]
      · exact begins.append (inductionHypothesis others)

/-! ## Cleaning up -/

/-- All answers that are handed over are cleaned up, each once, and nothing else is
done. -/
theorem converses_cleanupAll
    {responses : List ChallengeResponse}
    {result : Unit}
    (converses : (cleanupAll responses).Converses conversation result) :
    cleanedIn conversation = responses ∧
      shownIn conversation = [] ∧
      attemptedIn conversation = [] ∧
      deployedIn conversation = [] := by
  induction responses generalizing conversation with
  | nil =>
      obtain ⟨rfl, -⟩ := converses_pure_iff.mp converses
      exact ⟨rfl, rfl, rfl, rfl⟩
  | cons response rest inductionHypothesis =>
      obtain ⟨answer, later, rfl, onward⟩ := converses_ask_bind_iff.mp converses
      obtain ⟨cleaned, others⟩ := inductionHypothesis onward
      exact ⟨congrArg (response :: ·) cleaned, others⟩

/-- A conversation in two parts.  In the first one authorizations are answered as they
are due, and nothing is cleaned up.  In the second one the answers that were deployed
are cleaned up in their order, each once, and nothing more is shown or deployed.  If
some authorization could not be answered, that is what comes of it. -/
structure Tidy
    {α : Type}
    (client : AcmeClient)
    (answering cleaning : List AcmeExchange)
    (result : Except AuthorityError α) :
    Prop where
  attempted : attemptedIn answering = (shownIn answering).filterMap client.due?
  notYet : cleanedIn answering = []
  cleaned : cleanedIn cleaning = deployedIn answering
  noneShown : shownIn cleaning = []
  noneAttempted : attemptedIn cleaning = []
  refused :
    ∀ authorization ∈ shownIn answering,
      authorization.isValid = false →
      client.choose? authorization = none →
      result =
        .error (.challengeFailed (.noSupportedType authorization.identifier client.responders))

/-- A conversation in which no authorization is asked for. -/
theorem tidy_of_isAside
    {α : Type}
    (client : AcmeClient)
    (result : Except AuthorityError α)
    (aside : IsAside conversation) :
    client.Tidy conversation [] result where
  attempted := by rw [aside.attempted, aside.shown, List.filterMap_nil]
  notYet := aside.cleaned
  cleaned := aside.deployed.symm
  noneShown := rfl
  noneAttempted := rfl
  refused := by
    rw [aside.shown]
    exact nofun

/-- Whatever comes of the authorizations of an order, and of waiting for it, in the end
all is cleaned up that was deployed. -/
theorem converses_satisfy
    {order : AcmeOrder}
    {result : Except AuthorityError Unit}
    (converses : (client.satisfy order).Converses conversation result) :
    ∃ answering cleaning,
      conversation = answering ++ cleaning ∧ client.Tidy answering cleaning result := by
  obtain ⟨first, afterwards, ⟨answered, deployed⟩, rfl, seeing, onward⟩ :=
    converses_bind_iff.mp converses
  have answers := converses_authorizeAll seeing
  -- Waiting for the order, if there is anything to wait for, comes before the cleanup.
  obtain ⟨second, third, rfl, cleaning, aside, failed⟩ :
      ∃ second third,
        afterwards = second ++ third ∧
          (cleanupAll deployed).Converses third () ∧
          IsAside second ∧
          ∀ error, answered = .error error → result = .error error := by
    rcases answered with error | ⟨⟨⟩⟩
    · obtain ⟨second, rest, outcome, rfl, skipping, ending⟩ := converses_bind_iff.mp onward
      obtain ⟨rfl, rfl⟩ := converses_pure_iff.mp skipping
      obtain ⟨third, last, nothing, rfl, cleaning, returning⟩ := converses_bind_iff.mp ending
      obtain ⟨rfl, rfl⟩ := converses_pure_iff.mp returning
      exact ⟨[], third, by simp, cleaning, ⟨rfl, rfl, rfl, rfl⟩, fun _ same => by
        rw [← Except.error.inj same]⟩
    · obtain ⟨second, rest, outcome, rfl, waiting, ending⟩ := converses_bind_iff.mp onward
      obtain ⟨third, last, nothing, rfl, cleaning, returning⟩ := converses_bind_iff.mp ending
      obtain ⟨rfl, rfl⟩ := converses_pure_iff.mp returning
      have waited := isAside_of_calls (waiting.allowed (callsOnly_awaitReady order.number))
      exact ⟨second, third, by simp, cleaning, waited, nofun⟩
  obtain ⟨cleaned, noneShown, noneAttempted, -⟩ := converses_cleanupAll cleaning
  have isDeployed : deployed = deployedIn first := answers.deployed
  refine ⟨first ++ second, third, (List.append_assoc _ _ _).symm, ?_⟩
  exact
    { attempted := by
        rw [attemptedIn_append, shownIn_append, aside.attempted, aside.shown, List.append_nil,
          List.append_nil, answers.attempted]
      notYet := by rw [cleanedIn_append, answers.cleaned, aside.cleaned, List.append_nil]
      cleaned := by rw [deployedIn_append, aside.deployed, List.append_nil, cleaned, isDeployed]
      noneShown := noneShown
      noneAttempted := noneAttempted
      refused := by
        intro authorization member isOpen unanswered
        rw [shownIn_append, aside.shown, List.append_nil] at member
        exact failed _ (answers.refused authorization member isOpen unanswered) }

/-- What is said before the authorizations and after the cleanup does not matter. -/
theorem Tidy.within
    {α β : Type}
    {answering cleaning : List AcmeExchange}
    {result : Except AuthorityError α}
    {outcome : Except AuthorityError β}
    (tidy : client.Tidy answering cleaning result)
    (before : IsAside front)
    (after : IsAside back)
    (fails : ∀ error, result = .error error → outcome = .error error) :
    client.Tidy (front ++ answering) (cleaning ++ back) outcome where
  attempted := by
    rw [attemptedIn_append, shownIn_append, before.attempted, before.shown, List.nil_append,
      List.nil_append, tidy.attempted]
  notYet := by rw [cleanedIn_append, before.cleaned, tidy.notYet, List.nil_append]
  cleaned := by
    rw [cleanedIn_append, deployedIn_append, before.deployed, after.cleaned, List.nil_append,
      List.append_nil, tidy.cleaned]
  noneShown := by rw [shownIn_append, tidy.noneShown, after.shown, List.nil_append]
  noneAttempted := by
    rw [attemptedIn_append, tidy.noneAttempted, after.attempted, List.nil_append]
  refused := by
    intro authorization member isOpen unanswered
    rw [shownIn_append, before.shown, List.nil_append] at member
    exact fails _ (tidy.refused authorization member isOpen unanswered)

/-- The same holds of a whole order, from its names to its certificate. -/
theorem converses_obtain
    {result : Except AuthorityError CertificateResource}
    (converses : (client.obtain domains).Converses conversation result) :
    ∃ answering cleaning,
      conversation = answering ++ cleaning ∧ client.Tidy answering cleaning result := by
  unfold obtain at converses
  cases domains with
  | nil =>
      obtain ⟨rfl, rfl⟩ := converses_pure_iff.mp converses
      exact ⟨[], [], rfl, tidy_of_isAside client _ ⟨rfl, rfl, rfl, rfl⟩⟩
  | cons canonical others =>
      obtain ⟨opened, rest, rfl, onward⟩ := converses_ask_bind_iff.mp converses
      rcases opened with fault | order
      · obtain ⟨rfl, rfl⟩ := converses_pure_iff.mp onward
        exact ⟨_, [], (List.append_nil _).symm, tidy_of_isAside client _ ⟨rfl, rfl, rfl, rfl⟩⟩
      · obtain ⟨first, second, satisfied, rfl, satisfying, collecting⟩ :=
          converses_bind_iff.mp onward
        obtain ⟨answering, cleaning, rfl, tidy⟩ := converses_satisfy satisfying
        obtain ⟨aside, fails⟩ :
            IsAside second ∧ ∀ error, satisfied = .error error → result = .error error := by
          rcases satisfied with error | ⟨⟨⟩⟩
          · obtain ⟨rfl, rfl⟩ := converses_pure_iff.mp collecting
            exact ⟨⟨rfl, rfl, rfl, rfl⟩, fun _ same => by rw [← Except.error.inj same]⟩
          · obtain ⟨third, last, collected, rfl, fetching, ending⟩ :=
              converses_bind_iff.mp collecting
            have fetched := isAside_of_calls (fetching.allowed (callsOnly_collect order.number))
            rcases collected with fault | ⟨chain, key⟩
            · obtain ⟨rfl, -⟩ := converses_pure_iff.mp ending
              exact ⟨fetched.append ⟨rfl, rfl, rfl, rfl⟩, nofun⟩
            · obtain ⟨rfl, -⟩ := converses_pure_iff.mp ending
              exact ⟨fetched.append ⟨rfl, rfl, rfl, rfl⟩, nofun⟩
        have before : IsAside [⟨.openOrder (canonical :: others), .ok order⟩] :=
          ⟨rfl, rfl, rfl, rfl⟩
        exact ⟨_, _, by simp, tidy.within before aside fails⟩

end AcmeClient

end OnDemandTls
