import Mathlib.Data.List.Forall2
import OnDemandTls.Proofs.Acme.Conversations
import OnDemandTls.Rehearsal.World

namespace OnDemandTls

/-!
# Cleaning up

A client answers each authorization through the first of its registered handlers whose
type the authority offers (`AcmeClient.AnswersThrough`), and cleans up through the same
handler.  Whatever the authority says and whichever handlers fail, all that was deployed
in a conversation is cleaned up in it.  So nothing of it is left among the staged
challenges, which others may change in between (`StagedChallenges.Course`).
-/

/-! ## Handlers -/

namespace Authorization

/-- Whether the authority offers challenges of a type. -/
def offers
    (authorization : Authorization)
    (type : ChallengeType) :
    Bool :=
  authorization.challenges.any fun challenge => challenge.type == type.name

theorem offers_of_find?
    {authorization : Authorization}
    {type : ChallengeType}
    {challenge : OfferedChallenge}
    (found : authorization.challenges.find? (·.type == type.name) = some challenge) :
    authorization.offers type = true :=
  List.any_eq_true.mpr ⟨challenge, List.mem_of_find?_eq_some found, by
    simpa using List.find?_some found⟩

theorem offers_eq_false_of_find?
    {authorization : Authorization}
    {type : ChallengeType}
    (missing : authorization.challenges.find? (·.type == type.name) = none) :
    authorization.offers type = false :=
  List.any_eq_false.mpr (List.find?_eq_none.mp missing)

end Authorization

namespace AcmeClient

variable {Handler : Type} {client : AcmeClient} {handlers : List (ChallengeType × Handler)}
variable {authorization : Authorization} {response : ChallengeResponse}

/-- The authority is not satisfied yet, and offers a challenge for which a handler is
registered. -/
def isAnswerable
    (handlers : List (ChallengeType × Handler))
    (authorization : Authorization) :
    Bool :=
  !authorization.isValid && handlers.any fun registered => authorization.offers registered.1

/-- A response answers an authorization through the first handler whose type is
offered.  That is the first handler of the response's type, and so the one that
deploys the response and cleans it up. -/
structure AnswersThrough
    (handlers : List (ChallengeType × Handler))
    (client : AcmeClient)
    (authorization : Authorization)
    (response : ChallengeResponse) :
    Prop where
  handler :
    ∃ handler,
      handlers.find? (fun registered => authorization.offers registered.1) =
          some (response.type, handler) ∧
        handlers.find? (fun registered => registered.1 = response.type) =
          some (response.type, handler)
  token :
    (authorization.challenges.find? (·.type == response.type.name)).map (·.token) =
      some response.token
  response :
    response =
      client.responseTo (HostName.withoutWildcards authorization.identifier) response.type
        response.token

/-- A client takes the first of its handlers whose type is offered. -/
theorem answersThrough_of_choose?
    (registered : client.responders = handlers.map Prod.fst)
    (chosen : client.choose? authorization = some response) :
    AnswersThrough handlers client authorization response := by
  unfold choose? at chosen
  rw [registered] at chosen
  clear registered
  induction handlers with
  | nil => cases chosen
  | cons first rest inductionHypothesis =>
      obtain ⟨type, handler⟩ := first
      rw [List.map_cons, List.findSome?_cons] at chosen
      split at chosen
      · rename_i answer isAnswer
        obtain ⟨challenge, found, rfl⟩ := Option.map_eq_some_iff.mp isAnswer
        obtain rfl := Option.some.inj chosen
        refine ⟨⟨handler, ?_, ?_⟩, ?_, rfl⟩
        · exact List.find?_cons_of_pos (Authorization.offers_of_find? found)
        · exact List.find?_cons_of_pos (decide_eq_true rfl)
        · exact congrArg (Option.map _) found
      · rename_i unanswered
        have missing := Option.map_eq_none_iff.mp unanswered
        have isOffered := Authorization.offers_eq_false_of_find? missing
        obtain ⟨⟨handler, firstOffered, firstOfType⟩, token, isResponse⟩ :=
          inductionHypothesis chosen
        -- A handler that is passed over has another type than the response, since its own
        -- type is not offered.
        have otherType : type ≠ response.type := by
          rintro rfl
          rw [missing] at token
          cases token
        refine ⟨⟨handler, ?_, ?_⟩, token, isResponse⟩
        · rwa [List.find?_cons_of_neg (by simp [isOffered])]
        · rwa [List.find?_cons_of_neg (by simpa using otherType)]

/-- Only if none of its handlers' types is offered a client has no answer. -/
theorem choose?_eq_none_iff
    (registered : client.responders = handlers.map Prod.fst) :
    client.choose? authorization = none ↔
      ∀ entry ∈ handlers, authorization.offers entry.1 = false := by
  unfold choose?
  rw [registered, List.findSome?_eq_none_iff, List.forall_mem_map]
  refine forall₂_congr fun entry _ => ?_
  rw [Option.map_eq_none_iff, List.find?_eq_none, Authorization.offers, List.any_eq_false]

theorem due?_of_isAnswerable
    (registered : client.responders = handlers.map Prod.fst)
    (answerable : isAnswerable handlers authorization = true) :
    ∃ response,
      client.due? authorization = some response ∧
        AnswersThrough handlers client authorization response := by
  obtain ⟨isOpen, offered⟩ := (Bool.and_eq_true _ _).mp answerable
  obtain ⟨entry, member, isOffered⟩ := List.any_eq_true.mp offered
  have isDue : client.due? authorization = client.choose? authorization :=
    if_neg (by simpa using isOpen)
  cases chosen : client.choose? authorization with
  | some response =>
      exact ⟨response, isDue.trans chosen, answersThrough_of_choose? registered chosen⟩
  | none =>
      have missing := (choose?_eq_none_iff registered).mp chosen entry member
      cases isOffered.symm.trans missing

theorem due?_of_not_isAnswerable
    (registered : client.responders = handlers.map Prod.fst)
    (unanswerable : isAnswerable handlers authorization = false) :
    client.due? authorization = none := by
  unfold due?
  split
  · rfl
  · rename_i isOpen
    rw [choose?_eq_none_iff registered]
    intro entry member
    have unoffered : (handlers.any fun entry => authorization.offers entry.1) = false := by
      simpa [isAnswerable, isOpen] using unanswerable
    exact Bool.eq_false_iff.mpr (List.any_eq_false.mp unoffered entry member)

/-- What is due are the answers to the authorizations that can be answered. -/
theorem forall₂_due
    (registered : client.responders = handlers.map Prod.fst)
    (shown : List Authorization) :
    List.Forall₂ (AnswersThrough handlers client) (shown.filter (isAnswerable handlers))
      (shown.filterMap client.due?) := by
  induction shown with
  | nil => exact .nil
  | cons authorization rest inductionHypothesis =>
      cases answerable : isAnswerable handlers authorization with
      | true =>
          obtain ⟨response, isDue, answers⟩ := due?_of_isAnswerable registered answerable
          rw [List.filter_cons_of_pos answerable, List.filterMap_cons_some isDue]
          exact .cons answers inductionHypothesis
      | false =>
          have isDue := due?_of_not_isAnswerable registered answerable
          rw [List.filter_cons_of_neg (by simp [answerable]), List.filterMap_cons_none isDue]
          exact inductionHypothesis

end AcmeClient

/-! ## Staged challenges in the course of a conversation -/

namespace StagedChallenges

open AcmeExchange

/-- What a call of a client makes of the staged challenges.  The handlers that stage
answers never fail; a handler for DNS challenges, and all that is not for a handler,
leaves what is staged. -/
inductive Handles (now : Nat) (staged : StagedChallenges) :
    AcmeExchange → StagedChallenges → Prop where
  | deploys
      {response : ChallengeResponse} :
      response.type ≠ .dns01 →
      Handles now staged ⟨.deploy response, .ok ()⟩ (response.stage staged now)
  | cleans
      {response : ChallengeResponse} :
      response.type ≠ .dns01 →
      Handles now staged ⟨.cleanup response, .ok ()⟩ (response.unstage staged)
  | elsewhere
      {exchange : AcmeExchange} :
      (∀ response, exchange.call.response? = some response → response.type = .dns01) →
      Handles now staged exchange staged

/-- The staged challenges before and after a conversation.  Its calls come at any
instants.  In between others may do anything but stage an answer under one key. -/
inductive Course (key : String) :
    StagedChallenges → List AcmeExchange → StagedChallenges → Prop where
  | nil
      (staged : StagedChallenges) :
      Course key staged [] staged
  | call
      (now : Nat)
      {earlier later last : StagedChallenges}
      {exchange : AcmeExchange}
      {rest : List AcmeExchange} :
      Handles now earlier exchange later →
      Course key later rest last →
      Course key earlier (exchange :: rest) last
  | others
      {earlier later last : StagedChallenges}
      {conversation : List AcmeExchange} :
      (earlier.entries.get? key = none → later.entries.get? key = none) →
      Course key later conversation last →
      Course key earlier conversation last

variable {now : Nat} {key : String} {earlier later last : StagedChallenges}
variable {exchange : AcmeExchange} {conversation front back : List AcmeExchange}

theorem Course.split (course : Course key earlier (front ++ back) last) :
    ∃ middle, Course key earlier front middle ∧ Course key middle back last := by
  generalize together : front ++ back = whole at course
  induction course generalizing front with
  | nil staged =>
      obtain ⟨rfl, rfl⟩ := List.append_eq_nil_iff.mp together
      exact ⟨staged, .nil staged, .nil staged⟩
  | @call now earlier later last exchange rest handles course inductionHypothesis =>
      cases front with
      | nil =>
          obtain rfl : back = exchange :: rest := together
          exact ⟨earlier, .nil earlier, .call now handles course⟩
      | cons first front =>
          obtain ⟨rfl, rfl⟩ := List.cons_eq_cons.mp together
          obtain ⟨middle, begins, ends⟩ := inductionHypothesis rfl
          exact ⟨middle, .call now handles begins, ends⟩
  | others unstaged course inductionHypothesis =>
      obtain ⟨middle, begins, ends⟩ := inductionHypothesis together
      exact ⟨middle, .others unstaged begins, ends⟩

/-- Without a deployment nothing comes to be staged. -/
theorem Handles.get?_eq_none
    (handles : Handles now earlier exchange later)
    (undeployed : exchange.attempted? = none)
    (absent : earlier.entries.get? key = none) :
    later.entries.get? key = none := by
  cases handles with
  | deploys staging => cases undeployed
  | elsewhere outside => exact absent
  | @cleans response staging =>
      unfold ChallengeResponse.unstage
      split
      · rename_i staged isStaged
        change (earlier.entries.erase staged).get? key = none
        rw [Catalog.get?_erase, absent, ite_self]
      · exact absent

/-- A response that is cleaned up is not staged any more. -/
theorem Handles.get?_of_cleaned
    {response : ChallengeResponse}
    (handles : Handles now earlier exchange later)
    (cleaned : exchange.cleaned? = some response)
    (isKey : response.stageKey? = some key) :
    later.entries.get? key = none := by
  cases handles with
  | deploys staging => cases cleaned
  | elsewhere outside =>
      have isElsewhere := outside response (AcmeExchange.response?_of_cleaned cleaned)
      rw [ChallengeResponse.stageKey?, isElsewhere] at isKey
      cases isKey
  | cleans staging =>
      obtain rfl := Option.some.inj cleaned
      rw [ChallengeResponse.unstage, isKey]
      change (earlier.entries.erase key).get? key = none
      rw [Catalog.get?_erase, if_pos rfl]

theorem Course.get?_eq_none
    (course : Course key earlier conversation last)
    (undeployed : attemptedIn conversation = [])
    (absent : earlier.entries.get? key = none) :
    last.entries.get? key = none := by
  induction course with
  | nil staged => exact absent
  | @call now earlier later last exchange rest handles course inductionHypothesis =>
      obtain ⟨first, others⟩ := attemptedIn_cons_eq_nil_iff.mp undeployed
      exact inductionHypothesis others (handles.get?_eq_none first absent)
  | others unstaged course inductionHypothesis =>
      exact inductionHypothesis undeployed (unstaged absent)

/-- After a conversation in which a response is cleaned up and nothing is deployed,
nothing is staged under the key of the response. -/
theorem Course.get?_of_cleaned
    {response : ChallengeResponse}
    (course : Course key earlier conversation last)
    (undeployed : attemptedIn conversation = [])
    (cleaned : response ∈ cleanedIn conversation)
    (isKey : response.stageKey? = some key) :
    last.entries.get? key = none := by
  induction course with
  | nil staged => cases cleaned
  | @call now earlier later last exchange rest handles course inductionHypothesis =>
      obtain ⟨-, others⟩ := attemptedIn_cons_eq_nil_iff.mp undeployed
      obtain ⟨cleanup, member, isCleaned⟩ := List.mem_filterMap.mp cleaned
      rcases List.mem_cons.mp member with rfl | inRest
      · exact course.get?_eq_none others (handles.get?_of_cleaned isCleaned isKey)
      · exact inductionHypothesis others (List.mem_filterMap.mpr ⟨cleanup, inRest, isCleaned⟩)
  | others unstaged course inductionHypothesis => exact inductionHypothesis undeployed cleaned

end StagedChallenges

/-- The calls of a client change the staged challenges of a rehearsed world in this
way. -/
theorem World.handles_of_performAcme
    {now : Nat}
    {call : AcmeCall}
    {answer : call.Answer}
    {world later : World}
    (performed : performAcme now call world = .answer answer later) :
    StagedChallenges.Handles now world.staged ⟨call, answer⟩ later.staged := by
  unfold performAcme at performed
  cases call with
  | deploy response =>
      obtain ⟨domain, type, token, keyAuthorization, dnsValue⟩ := response
      cases type with
      | dns01 =>
          obtain ⟨rfl, rfl⟩ := Reply.answer.inj performed
          refine .elsewhere fun response same => ?_
          obtain rfl := Option.some.inj same
          rfl
      | http01 | tlsAlpn01 =>
          obtain ⟨rfl, rfl⟩ := Reply.answer.inj performed
          exact .deploys nofun
  | cleanup response =>
      obtain ⟨domain, type, token, keyAuthorization, dnsValue⟩ := response
      cases type with
      | dns01 =>
          obtain ⟨rfl, rfl⟩ := Reply.answer.inj performed
          refine .elsewhere fun response same => ?_
          obtain rfl := Option.some.inj same
          rfl
      | http01 | tlsAlpn01 =>
          obtain ⟨rfl, rfl⟩ := Reply.answer.inj performed
          exact .cleans nofun
  | finalize number =>
      simp only at performed
      split at performed <;>
      · obtain ⟨-, rfl⟩ := Reply.answer.inj performed
        exact .elsewhere nofun
  | openOrder | authorization | markReady | orderState | download | milliseconds | pause =>
      obtain ⟨-, rfl⟩ := Reply.answer.inj performed
      exact .elsewhere nofun

/-! ## Whole orders -/

namespace AcmeClient

open AcmeExchange

/-- How a conversation ends in which answers were deployed.  Each authorization that is
shown and can be answered is answered through the first handler whose type is offered;
one that cannot be answered ends the order.  Then exactly the answers whose deployment
succeeded are cleaned up, one cleanup for each, and nothing is deployed any more; and no
key of theirs is left among the staged challenges. -/
structure CleansUp
    {Handler α : Type}
    (handlers : List (ChallengeType × Handler))
    (client : AcmeClient)
    (answering cleaning : List AcmeExchange)
    (result : Except AuthorityError α) :
    Prop where
  answered :
    List.Forall₂ (AnswersThrough handlers client)
      ((shownIn answering).filter (isAnswerable handlers)) (attemptedIn answering)
  unanswerable :
    ∀ authorization ∈ shownIn answering,
      authorization.isValid = false →
      (∀ entry ∈ handlers, authorization.offers entry.1 = false) →
      result =
        .error (.challengeFailed (.noSupportedType authorization.identifier client.responders))
  notYetCleaned : cleanedIn answering = []
  cleaned : cleanedIn cleaning = deployedIn answering
  noneShown : shownIn cleaning = []
  noneAttempted : attemptedIn cleaning = []
  unstaged :
    ∀ response ∈ deployedIn answering,
      ∀ key,
        response.stageKey? = some key →
        ∀ earlier last,
          StagedChallenges.Course key earlier (answering ++ cleaning) last →
          last.entries.get? key = none

/-- Whatever an authority says and whichever handlers fail, a client cleans up in the
end all that it deployed, and nothing else. -/
theorem obtain_cleansUp
    {Handler : Type}
    {handlers : List (ChallengeType × Handler)}
    {client : AcmeClient}
    {domains : List String}
    {conversation : List AcmeExchange}
    {result : Except AuthorityError CertificateResource}
    (registered : client.responders = handlers.map Prod.fst)
    (converses : (client.obtain domains).Converses conversation result) :
    ∃ answering cleaning,
      conversation = answering ++ cleaning ∧
        CleansUp handlers client answering cleaning result := by
  obtain ⟨answering, cleaning, rfl, tidy⟩ := converses_obtain converses
  refine ⟨answering, cleaning, rfl, ?_⟩
  exact
    { answered := tidy.attempted ▸ forall₂_due registered (shownIn answering)
      unanswerable := fun authorization member isOpen unoffered =>
        tidy.refused authorization member isOpen ((choose?_eq_none_iff registered).mpr unoffered)
      notYetCleaned := tidy.notYet
      cleaned := tidy.cleaned
      noneShown := tidy.noneShown
      noneAttempted := tidy.noneAttempted
      unstaged := by
        intro response deployed key isKey earlier last course
        obtain ⟨middle, -, sweeping⟩ := course.split
        rw [← tidy.cleaned] at deployed
        exact sweeping.get?_of_cleaned tidy.noneAttempted deployed isKey }

/-! ## An order that fails -/

namespace SmallOrder

/-- A client with two handlers, one for TLS and one for HTTP challenges. -/
def client : AcmeClient where
  thumbprint := "thumb"
  responders := [.tlsAlpn01, .http01]

/-- The answer to an HTTP challenge for one name. -/
def response : ChallengeResponse :=
  client.responseTo "blog.example.com" .http01 "tok"

/-- An authority that offers a DNS challenge and an HTTP challenge, and then refuses to
check what is deployed. -/
def conversation : List AcmeExchange :=
  [ ⟨.openOrder ["blog.example.com"], .ok ⟨0, 1⟩⟩,
    ⟨.authorization 0 0,
      .ok ⟨"blog.example.com", false, [⟨"dns-01", "tak"⟩, ⟨"http-01", "tok"⟩]⟩⟩,
    ⟨.deploy response, .ok ()⟩,
    ⟨.markReady 0 0 response, .error .timedOut⟩,
    ⟨.cleanup response, .ok ()⟩ ]

theorem converses :
    (client.obtain ["blog.example.com"]).Converses conversation
      (.error (.protocol .timedOut)) :=
  .call _ (.call _ (.call _ (.call _ (.call _ (.done _)))))

/-- The key under which the answer is staged. -/
def key : String :=
  HostName.httpChallengeKey "blog.example.com" "tok"

theorem course :
    ∃ last, StagedChallenges.Course key TimedCatalog.empty conversation last :=
  ⟨_, .call 0 (.elsewhere nofun) (.call 250 (.elsewhere nofun) (.call 500 (.deploys (by decide))
    (.call 750 (.elsewhere nofun) (.call 1000 (.cleans (by decide)) (.nil _)))))⟩

end SmallOrder

/-- The answer is deployed and cleaned up, and its key is not staged any more. -/
theorem failed_order_cleansUp :
    SmallOrder.client.responders = [(.tlsAlpn01, 0), (.http01, 1)].map Prod.fst ∧
      (SmallOrder.client.obtain ["blog.example.com"]).Converses SmallOrder.conversation
        (.error (.protocol .timedOut)) ∧
      ∃ answering cleaning,
        SmallOrder.conversation = answering ++ cleaning ∧
          CleansUp [(.tlsAlpn01, 0), (.http01, 1)] SmallOrder.client answering cleaning
            (.error (.protocol .timedOut) : Except AuthorityError CertificateResource) ∧
          deployedIn answering = [SmallOrder.response] ∧
          ∃ last,
            StagedChallenges.Course SmallOrder.key TimedCatalog.empty (answering ++ cleaning)
                last ∧
              last.entries.get? SmallOrder.key = none := by
  obtain ⟨last, course⟩ := SmallOrder.course
  have registered :
      SmallOrder.client.responders = [(.tlsAlpn01, 0), (.http01, 1)].map Prod.fst := rfl
  obtain ⟨answering, cleaning, split, cleansUp⟩ :=
    obtain_cleansUp registered SmallOrder.converses
  have cleaned : cleanedIn SmallOrder.conversation = [SmallOrder.response] := rfl
  rw [split, cleanedIn_append, cleansUp.notYetCleaned, cleansUp.cleaned, List.nil_append] at cleaned
  rw [split] at course
  have unstaged :=
    cleansUp.unstaged SmallOrder.response (cleaned ▸ List.mem_singleton_self _) SmallOrder.key rfl
      _ last course
  exact ⟨registered, SmallOrder.converses, answering, cleaning, split, cleansUp, cleaned, last,
    course, unstaged⟩

end AcmeClient

end OnDemandTls
