import Mathlib.Algebra.Ring.Nat
import Mathlib.Data.List.Basic
import OnDemandTls.Proofs.Staging.Premises
import OnDemandTls.Proofs.TimedCatalog

namespace OnDemandTls

/-!
# Places of staged answers

Answers to TLS challenges are staged for a name, and answers to HTTP challenges
for a name and a token.  Both kinds share one catalog, under keys that are
joined from names and tokens.  As long as nobody stages an answer for a name or
a token with a slash, no request finds the answer of another place
(`StagingPlace.eq_of_key_eq`), so what is found at a place is what has been
staged there last, for an hour (`Premises.Run.find?_iff_stands`).
-/

/-- Where the answer to a challenge is staged. -/
inductive StagingPlace where
  | tls (name : String)
  | http (name token : String)
  deriving DecidableEq, Repr

namespace StagingPlace

/-- The key of a place in the catalog of staged challenges. -/
def key : StagingPlace → String
  | tls name => name
  | http name token => HostName.httpChallengeKey name token

/-- A name and a token that answers may be staged for have no slash. -/
def Plain : StagingPlace → Prop
  | tls name => '/' ∉ name.toList
  | http name token => '/' ∉ name.toList ∧ '/' ∉ token.toList

/-- A client may ask for any token of any host, and for a validation handshake
with any name that has no slash. -/
def Askable : StagingPlace → Prop
  | tls name => '/' ∉ name.toList
  | http _ _ => True

theorem toList_httpChallengeKey (name token : String) :
    (HostName.httpChallengeKey name token).toList = name.toList ++ '/' :: token.toList := by
  simp [HostName.httpChallengeKey]

theorem slash_mem_httpChallengeKey (name token : String) :
    '/' ∈ (HostName.httpChallengeKey name token).toList := by
  rw [toList_httpChallengeKey]
  exact List.mem_append_right _ List.mem_cons_self

/-- Under the key of a place where answers may be staged, no client asks for
another place. -/
theorem eq_of_key_eq
    {staged asked : StagingPlace}
    (plain : staged.Plain)
    (askable : asked.Askable)
    (same : staged.key = asked.key) :
    staged = asked := by
  cases staged with
  | tls name =>
      cases asked with
      | tls other => exact congrArg tls same
      | http other token =>
          have slash := slash_mem_httpChallengeKey other token
          rw [show HostName.httpChallengeKey other token = name from same.symm] at slash
          exact (plain slash).elim
  | http name token =>
      cases asked with
      | tls other =>
          have slash := slash_mem_httpChallengeKey name token
          rw [show HostName.httpChallengeKey name token = other from same] at slash
          exact (askable slash).elim
      | http other otherToken =>
          have sameText : name.toList ++ '/' :: token.toList = other.toList ++ '/' :: otherToken.toList := by
            rw [← toList_httpChallengeKey, ← toList_httpChallengeKey]
            exact congrArg String.toList same
          obtain ⟨sameName, -, sameToken⟩ :=
            (List.append_cons_inj_of_notMem plain.1 plain.2).mp sameText
          rw [String.toList_inj.mp sameName, String.toList_inj.mp sameToken]

end StagingPlace

namespace ChallengeResponse

/-- The place where an answer is staged; answers to DNS challenges are not. -/
def place? (response : ChallengeResponse) : Option StagingPlace :=
  match response.type with
  | .tlsAlpn01 => some (.tls response.domain)
  | .http01 => some (.http response.domain response.token)
  | .dns01 => none

theorem stageKey?_eq (response : ChallengeResponse) :
    response.stageKey? = response.place?.map StagingPlace.key := by
  unfold stageKey? place?
  cases response.type <;> rfl

/-- The name of an answer is a host name in ASCII, and its token is in base64. -/
structure Plain (response : ChallengeResponse) : Prop where
  ascii : ∀ c ∈ response.domain.toList, c.toNat < 128
  domain : '/' ∉ response.domain.toList
  token : '/' ∉ response.token.toList

theorem Plain.place
    {response : ChallengeResponse}
    {place : StagingPlace}
    (plain : response.Plain)
    (isPlace : response.place? = some place) :
    place.Plain := by
  unfold place? at isPlace
  split at isPlace <;> cases isPlace
  · exact plain.domain
  · exact ⟨plain.domain, plain.token⟩

/-- The key of an answer is that of a place which a client asks for only if the
answer is staged there. -/
theorem Plain.stageKey?_eq_iff
    {response : ChallengeResponse}
    {asked : StagingPlace}
    (plain : response.Plain)
    (askable : asked.Askable) :
    response.stageKey? = some asked.key ↔ response.place? = some asked := by
  rw [stageKey?_eq, Option.map_eq_some_iff]
  constructor
  · rintro ⟨place, isPlace, sameKey⟩
    rw [isPlace, StagingPlace.eq_of_key_eq (plain.place isPlace) askable sameKey]
  · intro isPlace
    exact ⟨asked, isPlace, rfl⟩

end ChallengeResponse

namespace PremisesEvent

/-- The answer that an event makes visible or removes. -/
def response? : PremisesEvent → Option ChallengeResponse
  | deploys response | cleans response => some response
  | traffic _ | waits _ _ | answers _ _ => none

/-- The place where an event stages an answer or removes one. -/
def place? (event : PremisesEvent) : Option StagingPlace :=
  event.response?.bind ChallengeResponse.place?

/-- The milliseconds that go by in some events. -/
def elapsed (events : List PremisesEvent) : Nat :=
  (events.map milliseconds).sum

/-- All answers that events make visible or remove are for plain names and
tokens. -/
def AllPlain (events : List PremisesEvent) : Prop :=
  ∀ event ∈ events, ∀ response, event.response? = some response → response.Plain

/-- An answer stands at a place: among the events that stage something there or
remove it, the last one has staged that answer, and after another `wait` it is
less than an hour ago. -/
def Stands
    (place : StagingPlace)
    (answer : String)
    (wait : Nat)
    (events : List PremisesEvent) :
    Prop :=
  ∃ front response back,
    events = front ++ .deploys response :: back ∧
      response.place? = some place ∧
      response.keyAuthorization = answer ∧
      (∀ event ∈ back, event.place? ≠ some place) ∧
      elapsed back + wait < StagedChallenges.lifetime

theorem elapsed_nil : elapsed [] = 0 :=
  rfl

theorem elapsed_snoc
    (events : List PremisesEvent)
    (event : PremisesEvent) :
    elapsed (events ++ [event]) = elapsed events + event.milliseconds := by
  simp [elapsed]

theorem not_stands_nil
    (place : StagingPlace)
    (answer : String)
    (wait : Nat) :
    ¬ Stands place answer wait [] := by
  rintro ⟨front, response, back, nothing, -⟩
  exact (List.append_ne_nil_of_right_ne_nil _ (List.cons_ne_nil _ _) nothing.symm).elim

variable {place : StagingPlace} {answer : String} {wait : Nat}
variable {events : List PremisesEvent} {event : PremisesEvent}

/-- What stands after one event more has just been staged, or has stood before and
has grown older. -/
theorem stands_snoc :
    Stands place answer wait (events ++ [event]) ↔
      (∃ response,
        event = .deploys response ∧
          response.place? = some place ∧
          response.keyAuthorization = answer ∧
          wait < StagedChallenges.lifetime) ∨
      (event.place? ≠ some place ∧ Stands place answer (event.milliseconds + wait) events) := by
  constructor
  · rintro ⟨front, response, back, together, isPlace, isAnswer, unchanged, recent⟩
    rcases List.eq_nil_or_concat back with rfl | ⟨rest, last, rfl⟩
    · obtain ⟨-, sameEvent⟩ := List.append_inj' together rfl
      refine Or.inl ⟨response, List.head_eq_of_cons_eq sameEvent, isPlace, isAnswer, ?_⟩
      rwa [elapsed_nil, Nat.zero_add] at recent
    · rw [List.concat_eq_append, ← List.cons_append, ← List.append_assoc] at together
      obtain ⟨rfl, sameEvent⟩ := List.append_inj' together rfl
      obtain rfl := List.head_eq_of_cons_eq sameEvent
      rw [List.concat_eq_append] at unchanged recent
      refine Or.inr ⟨unchanged _ (List.mem_append_right _ (List.mem_singleton_self _)),
        front, response, rest, rfl, isPlace, isAnswer, fun event member => ?_, ?_⟩
      · exact unchanged event (List.mem_append_left _ member)
      · rw [elapsed_snoc] at recent
        omega
  · rintro (⟨response, rfl, isPlace, isAnswer, recent⟩ | ⟨elsewhere, stands⟩)
    · refine ⟨events, response, [], rfl, isPlace, isAnswer, ?_, ?_⟩
      · exact fun event member => (List.not_mem_nil member).elim
      · rwa [elapsed_nil, Nat.zero_add]
    · obtain ⟨front, response, back, rfl, isPlace, isAnswer, unchanged, recent⟩ := stands
      refine ⟨front, response, back ++ [event], ?_, isPlace, isAnswer, fun later member => ?_, ?_⟩
      · rw [List.append_assoc, List.cons_append]
      · rcases List.mem_append.mp member with before | atEnd
        · exact unchanged later before
        · rw [List.mem_singleton.mp atEnd]
          exact elsewhere
      · rw [elapsed_snoc]
        omega

end PremisesEvent

/-- The answer to a request does not change what is found from then on. -/
theorem PlainAnswer.find?_respond
    (request : PlainRequest)
    (httpsPort : UInt16)
    (challenges : StagedChallenges)
    (key : String)
    {now later : Nat}
    (notBefore : now ≤ later) :
    (respond request httpsPort challenges now).2.find? key later = challenges.find? key later := by
  unfold respond
  split
  · rfl
  · rename_i host _
    split
    · rename_i token _
      simp only [TimedCatalog.get]
      split <;> exact challenges.find?_drop (HostName.httpChallengeKey host token) key notBefore
    · simp only
      split <;> rfl

namespace Premises

variable {α : Type} [Quantity α] {gateway : Gateway} {premises later : Premises α}
variable {event : PremisesEvent} {key : String}

/-- Only answers that are made visible or removed under a key change what is found
under it, now and later. -/
theorem Step.find?_of_other
    (step : Step gateway premises event later)
    (other : ∀ response, event.response? = some response → response.stageKey? ≠ some key)
    (wait : Nat) :
    later.staged.find? key (later.instant + wait) =
      premises.staged.find? key (premises.instant + (event.milliseconds + wait)) := by
  rw [step.instant_eq, Nat.add_assoc]
  have notBefore := Nat.le_add_right premises.instant (event.milliseconds + wait)
  generalize premises.instant + (event.milliseconds + wait) = moment at notBefore ⊢
  cases step with
  | @traffic inTraffic _ inside admitted =>
      cases inTraffic with
      | calls number call answer =>
          cases call with
          | stagedAnswer name => exact premises.staged.find?_drop name key notBefore
          | purgeStaged => exact premises.staged.find?_purge key notBefore
          | _ => rfl
      | _ => rfl
  | waits present left attempted => rfl
  | deploys response =>
      change (response.stage premises.staged premises.instant).find? key moment = _
      unfold ChallengeResponse.stage
      split
      · rename_i staged isStaged
        have differs : key ≠ staged := fun same => other response rfl (same ▸ isStaged)
        rw [TimedCatalog.find?_file, if_neg differs]
      · rfl
  | cleans response =>
      change (response.unstage premises.staged).find? key moment = _
      unfold ChallengeResponse.unstage
      split
      · rename_i staged isStaged
        have differs : key ≠ staged := fun same => other response rfl (same ▸ isStaged)
        rw [TimedCatalog.find?_remove, if_neg differs]
      · rfl
  | answers request httpsPort =>
      exact PlainAnswer.find?_respond request httpsPort premises.staged key notBefore

/-- An answer that is made visible is found under its key for an hour. -/
theorem Step.find?_of_deploys
    {response : ChallengeResponse}
    (step : Step gateway premises (.deploys response) later)
    (isKey : response.stageKey? = some key)
    (wait : Nat) :
    later.staged.find? key (later.instant + wait) =
      if wait < StagedChallenges.lifetime then some response.keyAuthorization else none := by
  cases step with
  | deploys =>
      change (response.stage premises.staged premises.instant).find? key (premises.instant + wait) = _
      unfold ChallengeResponse.stage
      rw [isKey]
      simp only
      rw [TimedCatalog.find?_file, if_pos rfl]
      simp only [Nat.add_lt_add_iff_left]

/-- An answer that is removed is not found under its key. -/
theorem Step.find?_of_cleans
    {response : ChallengeResponse}
    (step : Step gateway premises (.cleans response) later)
    (isKey : response.stageKey? = some key)
    (wait : Nat) :
    later.staged.find? key (later.instant + wait) = none := by
  cases step with
  | cleans =>
      change (response.unstage premises.staged).find? key (premises.instant + wait) = _
      unfold ChallengeResponse.unstage
      rw [isKey]
      simp only
      rw [TimedCatalog.find?_remove, if_pos rfl]

/-- What is found at a place, now and later, is what stands there. -/
theorem Run.find?_iff_stands
    {start : Premises α}
    {events : List PremisesEvent}
    (run : Run gateway start events premises)
    (empty : start.staged = TimedCatalog.empty)
    (plain : PremisesEvent.AllPlain events)
    {place : StagingPlace}
    (askable : place.Askable)
    (answer : String)
    (wait : Nat) :
    premises.staged.find? place.key (premises.instant + wait) = some answer ↔
      PremisesEvent.Stands place answer wait events := by
  induction run generalizing wait with
  | nil =>
      rw [empty, TimedCatalog.find?_empty]
      exact iff_of_false nofun (PremisesEvent.not_stands_nil place answer wait)
  | @snoc events premises later event _ step inductionHypothesis =>
      have plainBefore : PremisesEvent.AllPlain events :=
        fun event member => plain event (List.mem_append_left _ member)
      have plainNow : ∀ response, event.response? = some response → response.Plain :=
        plain event (List.mem_append_right _ (List.mem_singleton_self _))
      rw [PremisesEvent.stands_snoc]
      by_cases here : event.place? = some place
      · obtain ⟨response, isResponse, isPlace⟩ := Option.bind_eq_some_iff.mp here
        have isKey := (plainNow response isResponse).stageKey?_eq_iff askable |>.mpr isPlace
        cases event with
        | traffic event => cases isResponse
        | waits task budget => cases isResponse
        | answers request httpsPort => cases isResponse
        | deploys same =>
            cases isResponse
            rw [step.find?_of_deploys isKey]
            simp [here, isPlace, and_comm]
        | cleans same =>
            cases isResponse
            rw [step.find?_of_cleans isKey]
            simp [here]
      · have other (response : ChallengeResponse) (isResponse : event.response? = some response) :
            response.stageKey? ≠ some place.key := by
          intro isKey
          have isPlace := ((plainNow response isResponse).stageKey?_eq_iff askable).mp isKey
          exact here (Option.bind_eq_some_iff.mpr ⟨response, isResponse, isPlace⟩)
        rw [step.find?_of_other other, inductionHypothesis plainBefore]
        constructor
        · exact fun stands => Or.inr ⟨here, stands⟩
        · rintro (⟨response, rfl, isPlace, -⟩ | ⟨-, stands⟩)
          · exact (here isPlace).elim
          · exact stands

end Premises

end OnDemandTls
