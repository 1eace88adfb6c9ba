import OnDemandTls.Proofs.Staging.Isolation
import OnDemandTls.Proofs.Staging.Places

namespace OnDemandTls

/-!
# Answers to challenges

Plain requests under the challenge path and validation handshakes are answered
with what stands at their places, and with nothing else
(`Premises.staged_answers_are_exact`).
-/

/-- A certificate can be for any name in ASCII. -/
theorem SubjectName.exists_of_ascii
    {name : String}
    (ascii : ∀ c ∈ name.toList, c.toNat < 128) :
    ∃ subject, SubjectName.ofText? name = some subject := by
  unfold SubjectName.ofText?
  split
  · exact ⟨_, rfl⟩
  · rw [if_pos (by simpa using ascii)]
    exact ⟨_, rfl⟩

/-- A key answers the challenge for a name: its only certificate is for this name and
nothing else, and has the digest of a key authorization in the extension that no
program may overlook. -/
def CertifiedKey.AnswersChallenge
    (certified : CertifiedKey)
    (name keyAuthorization : String) :
    Prop :=
  ∃ (subject : SubjectName) (certificate : Certificate),
    SubjectName.ofText? name = some subject ∧
      certified.certificates = [certificate.write .sample] ∧
      certificate.extensions =
        [ Certificate.alternativeNames [subject]
        , { identifier := Identifier.acmeIdentifier
            critical := true
            value :=
              Der.tagged Der.octetStringTag
                (Sha256.digest keyAuthorization.toUTF8.data.toList) } ]

namespace ValidationCertificate

theorem answersChallenge_of_make?
    {name keyAuthorization : String}
    {certified : CertifiedKey}
    (made : make? name keyAuthorization = some certified) :
    certified.AnswersChallenge name keyAuthorization := by
  obtain ⟨subject, isSubject, rfl⟩ := Option.map_eq_some_iff.mp made
  exact ⟨subject, certificate subject keyAuthorization, isSubject, rfl, rfl⟩

end ValidationCertificate

namespace PremisesEvent

variable {place : StagingPlace} {answer : String} {wait : Nat} {events : List PremisesEvent}

/-- The answer that stands at a place has been staged there. -/
theorem Stands.deployed (stands : Stands place answer wait events) :
    ∃ response,
      .deploys response ∈ events ∧
        response.place? = some place ∧
        response.keyAuthorization = answer := by
  obtain ⟨front, response, back, rfl, isPlace, isAnswer, -⟩ := stands
  exact ⟨response, List.mem_append_right _ List.mem_cons_self, isPlace, isAnswer⟩

/-- A certificate can be made for a name for which an answer stands. -/
theorem Stands.make?_eq_some
    {name : String}
    (stands : Stands (.tls name) answer wait events)
    (plain : AllPlain events) :
    ∃ certified, ValidationCertificate.make? name answer = some certified := by
  obtain ⟨response, member, isPlace, -⟩ := stands.deployed
  have ascii := (plain _ member response rfl).ascii
  have isName : response.domain = name := by
    unfold ChallengeResponse.place? at isPlace
    split at isPlace <;> cases isPlace
    rfl
  obtain ⟨subject, isSubject⟩ := SubjectName.exists_of_ascii (isName ▸ ascii)
  exact ⟨_, congrArg (Option.map _) isSubject⟩

end PremisesEvent

namespace PlainAnswer

/-- A request under the challenge path is answered with what is found for its
host and token. -/
theorem respond_challenge
    {request : PlainRequest}
    {name token : String}
    (isHost : request.host? = some name)
    (isToken : token? request.target.path = some token)
    (httpsPort : UInt16)
    (challenges : StagedChallenges)
    (now : Nat) :
    (respond request httpsPort challenges now).1 =
      match challenges.find? (StagingPlace.http name token).key now with
      | some answer => .text 200 answer
      | none => .text 404 "No challenge for this token" := by
  unfold respond
  simp only [isHost, isToken, TimedCatalog.get, StagingPlace.key]
  split <;> simp_all

/-- A request is answered alike from challenges in which the same is found for its
host and token. -/
theorem respond_eq_of_find?
    {request : PlainRequest}
    {challenges challengesOther : StagedChallenges}
    {now nowOther : Nat}
    (same :
      ∀ name token,
        request.host? = some name →
        token? request.target.path = some token →
        challenges.find? (StagingPlace.http name token).key now =
          challengesOther.find? (StagingPlace.http name token).key nowOther)
    (httpsPort : UInt16) :
    (respond request httpsPort challenges now).1 =
      (respond request httpsPort challengesOther nowOther).1 := by
  cases isHost : request.host? with
  | none =>
      unfold respond
      rw [isHost]
  | some name =>
      cases isToken : token? request.target.path with
      | some token =>
          rw [respond_challenge isHost isToken, respond_challenge isHost isToken,
            same name token isHost isToken]
      | none =>
          unfold respond
          simp only [isHost, isToken]
          split <;> rfl

end PlainAnswer

namespace Premises

variable {α : Type} [Quantity α] {gateway : Gateway} {scene : Scene} {backstage : Backstage α}
variable {events : List PremisesEvent} {start premises later : Premises α}

open PremisesEvent (AllPlain Stands)

/-- What is found at a place right now is what stands there. -/
theorem Run.find?_now
    (run : Run gateway start events premises)
    (empty : start.staged = TimedCatalog.empty)
    (plain : AllPlain events)
    (place : StagingPlace)
    (askable : place.Askable)
    (answer : String) :
    premises.staged.find? place.key premises.instant = some answer ↔
      Stands place answer 0 events :=
  run.find?_iff_stands empty plain askable answer 0

/-- A request under the challenge path gets the answer that stands for its host
and token, and otherwise a refusal. -/
theorem Run.respond_challenge
    (run : Run gateway start events premises)
    (empty : start.staged = TimedCatalog.empty)
    (plain : AllPlain events)
    {request : PlainRequest}
    {name token : String}
    (isHost : request.host? = some name)
    (isToken : PlainAnswer.token? request.target.path = some token)
    (httpsPort : UInt16) :
    (∀ answer,
      (PlainAnswer.respond request httpsPort premises.staged premises.instant).1 =
          .text 200 answer ↔
        Stands (.http name token) answer 0 events) ∧
      ((∀ answer, ¬ Stands (.http name token) answer 0 events) →
        (PlainAnswer.respond request httpsPort premises.staged premises.instant).1 =
          .text 404 "No challenge for this token") := by
  have place := run.find?_now empty plain (.http name token) trivial
  rw [PlainAnswer.respond_challenge isHost isToken]
  cases found : premises.staged.find? (StagingPlace.http name token).key premises.instant with
  | none =>
      rw [found] at place
      refine ⟨fun answer => ?_, fun _ => rfl⟩
      rw [← place answer]
      simp
  | some staged =>
      rw [found] at place
      refine ⟨fun answer => ?_, fun nothing => ?_⟩
      · rw [← place answer]
        simp
      · exact (nothing staged ((place staged).mp rfl)).elim

/-- A validation handshake ends with a certificate for the key authorization that
stands for its name, and otherwise with an error. -/
theorem Run.validationResult_of_stands
    (run : Run gateway start events premises)
    (empty : start.staged = TimedCatalog.empty)
    (plain : AllPlain events)
    {name : String}
    (slashless : '/' ∉ name.toList) :
    let result := Gateway.validationResult name (premises.staged.find? name premises.instant)
    (∀ keyAuthorization,
      Stands (.tls name) keyAuthorization 0 events →
      ∃ certified,
        ValidationCertificate.make? name keyAuthorization = some certified ∧
          certified.AnswersChallenge name keyAuthorization ∧
          result = .ok certified) ∧
      (∀ certified,
        result = .ok certified →
        ∃ keyAuthorization,
          Stands (.tls name) keyAuthorization 0 events ∧
            ValidationCertificate.make? name keyAuthorization = some certified ∧
            certified.AnswersChallenge name keyAuthorization) ∧
      ((∀ keyAuthorization, ¬ Stands (.tls name) keyAuthorization 0 events) →
        result = .error (.noChallenge name)) := by
  intro result
  have place (keyAuthorization : String) :
      premises.staged.find? name premises.instant = some keyAuthorization ↔
        Stands (.tls name) keyAuthorization 0 events :=
    run.find?_now empty plain (.tls name) slashless keyAuthorization
  refine ⟨fun keyAuthorization stands => ?_, fun certified ends => ?_, fun nothing => ?_⟩
  · obtain ⟨certified, made⟩ := stands.make?_eq_some plain
    refine ⟨certified, made, ValidationCertificate.answersChallenge_of_make? made, ?_⟩
    simp only [result, (place keyAuthorization).mpr stands, Gateway.validationResult, made]
  · obtain ⟨keyAuthorization, subject, found, isSubject, rfl⟩ :=
      Gateway.validationResult_eq_ok_iff.mp ends
    have made : ValidationCertificate.make? name keyAuthorization = some _ :=
      congrArg (Option.map _) isSubject
    exact ⟨keyAuthorization, (place keyAuthorization).mp found, made,
      ValidationCertificate.answersChallenge_of_make? made⟩
  · cases found : premises.staged.find? name premises.instant with
    | none => simp only [result, found, Gateway.validationResult]
    | some keyAuthorization =>
        exact (nothing keyAuthorization ((place keyAuthorization).mp found)).elim

/-- What is staged or removed at one place leaves the answers at all others. -/
theorem Step.other_answers
    {event : PremisesEvent}
    {response : ChallengeResponse}
    (step : Step gateway premises event later)
    (isResponse : event.response? = some response)
    (plain : response.Plain)
    {place : StagingPlace}
    (askable : place.Askable)
    (elsewhere : response.place? ≠ some place) :
    later.staged.find? place.key later.instant =
      premises.staged.find? place.key premises.instant := by
  have other (same : ChallengeResponse) (isSame : event.response? = some same) :
      same.stageKey? ≠ some place.key := by
    cases isResponse.symm.trans isSame
    exact fun isKey => elsewhere ((plain.stageKey?_eq_iff askable).mp isKey)
  have timeless : event.milliseconds = 0 := by cases event <;> first | rfl | cases isResponse
  have found := step.find?_of_other other 0
  rwa [timeless] at found

/-- The premises of a gateway that begins with nothing staged, in all runs in which
answers are made visible and removed for names in ASCII and tokens, both without
slashes.

A request under the challenge path is answered with the key authorization that
was the last to be staged for exactly its host and token, if that was less than an
hour ago and has not been removed since, and it is refused otherwise.  A
validation handshake ends with a certificate that is for its name and has the digest
of the key authorization that stands so for exactly this name, and with an error if
none does.  What is made visible or
removed at one place leaves the answers at all others, whatever hosts and paths
clients ask for. -/
theorem staged_answers_are_exact
    (run : Run gateway (quiet scene backstage) events premises)
    (empty : backstage.staged = TimedCatalog.empty)
    (plain : AllPlain events) :
    (∀ request httpsPort name token,
      request.host? = some name →
      PlainAnswer.token? request.target.path = some token →
      (∀ answer,
        (PlainAnswer.respond request httpsPort premises.staged premises.instant).1 =
            .text 200 answer ↔
          Stands (.http name token) answer 0 events) ∧
        ((∀ answer, ¬ Stands (.http name token) answer 0 events) →
          (PlainAnswer.respond request httpsPort premises.staged premises.instant).1 =
            .text 404 "No challenge for this token")) ∧
      (∀ number task serverName protocols name call answer later,
        premises.traffic.tasks[number]? = some task →
        task.errand = .resolving serverName protocols →
        validationProtocol ∈ protocols →
        Gateway.askedName? serverName = some name →
        '/' ∉ name.toList →
        Step gateway premises (.traffic (.calls number call answer)) later →
        ∃ result,
          later.traffic.tasks[number]? =
              some { task with rest := some (.done (.resolved result)) } ∧
            (∀ keyAuthorization,
              Stands (.tls name) keyAuthorization 0 events →
              ∃ certified,
                ValidationCertificate.make? name keyAuthorization = some certified ∧
                  certified.AnswersChallenge name keyAuthorization ∧
                  result = .ok certified) ∧
            (∀ certified,
              result = .ok certified →
              ∃ keyAuthorization,
                Stands (.tls name) keyAuthorization 0 events ∧
                  ValidationCertificate.make? name keyAuthorization = some certified ∧
                  certified.AnswersChallenge name keyAuthorization) ∧
            ((∀ keyAuthorization, ¬ Stands (.tls name) keyAuthorization 0 events) →
              result = .error (.noChallenge name))) ∧
      ∀ event response later,
        event.response? = some response →
        response.Plain →
        Step gateway premises event later →
        (∀ request httpsPort,
          (∀ name token,
            request.host? = some name →
            PlainAnswer.token? request.target.path = some token →
            response.place? ≠ some (.http name token)) →
          (PlainAnswer.respond request httpsPort later.staged later.instant).1 =
            (PlainAnswer.respond request httpsPort premises.staged premises.instant).1) ∧
          ∀ name,
            '/' ∉ name.toList →
            response.place? ≠ some (.tls name) →
            later.staged.find? name later.instant =
              premises.staged.find? name premises.instant := by
  refine ⟨fun request httpsPort name token isHost isToken => ?_,
    fun number task serverName protocols name call answer later present isHandshake validates
      isName slashless step => ?_,
    fun event response later isResponse isPlain step => ⟨fun request httpsPort elsewhere => ?_,
      fun name slashless elsewhere => ?_⟩⟩
  · exact run.respond_challenge empty plain isHost isToken httpsPort
  · have progress := (run.traffic.validationProgress present isHandshake validates).2
    obtain ⟨sameName, result, isSame, rfl, presentLater, -⟩ := step.validates present progress
    cases isName.symm.trans isSame
    exact ⟨_, presentLater, run.validationResult_of_stands empty plain slashless⟩
  · refine PlainAnswer.respond_eq_of_find? (fun name token isHost isToken => ?_) httpsPort
    exact step.other_answers isResponse isPlain trivial (elsewhere name token isHost isToken)
  · have askable : StagingPlace.Askable (.tls name) := slashless
    exact step.other_answers isResponse isPlain askable elsewhere

/-- The answer to an HTTP challenge for the custom domain. -/
def blogHttpResponse : ChallengeResponse :=
  { blogResponse with type := .http01, keyAuthorization := "token.http" }

/-- An authority validates the custom domain in both ways within a second. -/
def doubleVisit : List PremisesEvent :=
  [ .deploys blogHttpResponse
  , .deploys blogResponse
  , .traffic (.passes 1000)
  , .traffic (.arrives (.resolving (some SmallGateway.blog) [validationProtocol])) ]

/-- A request for the token. -/
def tokenRequest : PlainRequest where
  target := .origin ⟨"/.well-known/acme-challenge/token", none⟩
  hostHeader := some "Blog.Example.com:80".toUTF8.data.toList

/-- The theorem applies to the request and the handshake of the visit, each of
which gets its own answer. -/
theorem double_visit_is_answered :
    ∃ premises later task certified,
      Run SmallGateway.gateway (quiet (SmallGateway.scene Catalog.empty) freshBackstage)
          doubleVisit premises ∧
        (PlainAnswer.respond tokenRequest 443 premises.staged premises.instant).1 =
          .text 200 "token.http" ∧
        Step SmallGateway.gateway premises
          (.traffic
            (.calls 0 (.stagedAnswer SmallGateway.blog)
              (premises.staged.find? SmallGateway.blog premises.instant))) later ∧
        later.traffic.tasks[0]? = some task ∧
        task.rest = some (.done (.resolved (.ok certified))) ∧
        ValidationCertificate.make? SmallGateway.blog "token.thumbprint" = some certified ∧
        certified.AnswersChallenge SmallGateway.blog "token.thumbprint" := by
  let handshake : Errand := .resolving (some SmallGateway.blog) [validationProtocol]
  obtain ⟨premises, run, there⟩ :
      ∃ premises,
        Run SmallGateway.gateway (quiet (SmallGateway.scene Catalog.empty) freshBackstage)
            doubleVisit premises ∧
          premises.traffic.tasks[0]? =
            some (Traffic.newTask SmallGateway.gateway.behaviour handshake) :=
    ⟨_, .snoc (.snoc (.snoc (.snoc .nil (.deploys _ _)) (.deploys _ _))
      (.traffic (.passes _ 1000) trivial)) (.traffic (.arrives _ _) trivial), rfl⟩
  have allAscii : (blogResponse.domain.toList.all fun c => c.toNat < 128) = true := by decide
  have plainResponse : blogResponse.Plain :=
    { ascii := fun c member => of_decide_eq_true (List.all_eq_true.mp allAscii c member)
      domain := by decide
      token := by decide }
  have plain : AllPlain doubleVisit := by
    intro event member response isResponse
    simp only [doubleVisit, List.mem_cons, List.not_mem_nil, or_false] at member
    rcases member with rfl | rfl | rfl | rfl <;> cases isResponse
    · exact ⟨plainResponse.ascii, plainResponse.domain, plainResponse.token⟩
    · exact plainResponse
  obtain ⟨answering, validating, -⟩ := staged_answers_are_exact run rfl plain
  have isHost : tokenRequest.host? = some SmallGateway.blog := by decide +kernel
  have isToken : PlainAnswer.token? tokenRequest.target.path = some "token" := by decide +kernel
  have standsHttp : Stands (.http SmallGateway.blog "token") "token.http" 0 doubleVisit :=
    ⟨[], blogHttpResponse, _, rfl, rfl, rfl, by decide, by decide⟩
  have standsTls : Stands (.tls SmallGateway.blog) "token.thumbprint" 0 doubleVisit :=
    ⟨[.deploys blogHttpResponse], blogResponse, _, rfl, rfl, rfl, by decide, by decide⟩
  have asked : Gateway.askedName? (some SmallGateway.blog) = some SmallGateway.blog := by
    decide +kernel
  have left :
      handshake.program SmallGateway.gateway = Gateway.validation SmallGateway.blog := by
    rw [ValidationProgress.program_eq _ (by decide), asked]
  obtain ⟨later, step⟩ :
      ∃ later, Step SmallGateway.gateway premises _ later :=
    validation_goes_on there (congrArg some left)
  obtain ⟨result, present, gets, -⟩ :=
    validating 0 _ _ _ _ _ _ later there rfl (by decide) asked (by decide) step
  obtain ⟨certified, made, answers, rfl⟩ := gets _ standsTls
  exact ⟨premises, later, _, certified, run,
    ((answering tokenRequest 443 _ _ isHost isToken).1 _).mpr standsHttp, step, present, rfl, made,
    answers⟩

end Premises

end OnDemandTls
