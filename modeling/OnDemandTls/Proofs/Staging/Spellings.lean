import OnDemandTls.Proofs.Armour
import OnDemandTls.Proofs.Http.RequestHost
import OnDemandTls.Proofs.PrimaryNames
import OnDemandTls.Proofs.Traffic.AskedNames

namespace OnDemandTls

/-!
# Spellings of challenged names

An answer to a challenge is staged under its name as that is written, but clients are
served in lower case, however they spell a name.  So the answer for a name in lower
case is found under every spelling, and the answer for any other name is found under
none, not even under its own (`Premises.staged_answer_is_found_if_folded`).  Orders are
placed for names in lower case; renewals take the names from the leaf as they are.
-/

/-! ## Case -/

namespace Text

/-- A character before the letters is the lower case of itself only. -/
theorem toLower_eq_iff_of_mark
    {c mark : Char}
    (isMark : mark.toNat < 65) :
    c.toLower = mark ↔ c = mark := by
  by_cases capital : 65 ≤ c.toNat ∧ c.toNat ≤ 90
  · have place := toNat_toLower capital
    refine iff_of_false ?_ ?_ <;>
    · rintro rfl
      omega
  · rw [toLower_eq_self capital]

theorem isVisible_toLower_iff {c : Char} :
    PlainRequest.IsVisible c.toLower ↔ PlainRequest.IsVisible c := by
  by_cases capital : 65 ≤ c.toNat ∧ c.toNat ≤ 90
  · have place := toNat_toLower capital
    unfold PlainRequest.IsVisible
    omega
  · rw [toLower_eq_self capital]

end Text

namespace HostName

variable {name spelling : String}

/-- A name has visible characters only, none of them a colon, and no dot at its end. -/
structure IsPlain (name : String) : Prop where
  nonempty : name.toList ≠ []
  visible : ∀ c ∈ name.toList, PlainRequest.IsVisible c ∧ c ≠ ':'
  rootless : name.toList.getLast? ≠ some '.'

/-- Two spellings of a name are the same but for the case of their letters. -/
def IsSpelling (spelling name : String) : Prop :=
  Text.lower spelling.toList = Text.lower name.toList

instance (spelling name : String) : Decidable (IsSpelling spelling name) :=
  inferInstanceAs (Decidable (Text.lower spelling.toList = Text.lower name.toList))

theorem IsSpelling.exists_mem
    {c : Char}
    (spelled : IsSpelling spelling name)
    (member : c ∈ spelling.toList) :
    ∃ other ∈ name.toList, other.toLower = c.toLower := by
  have lowered : c.toLower ∈ Text.lower name.toList := by
    rw [← spelled]
    exact List.mem_map_of_mem member
  exact List.mem_map.mp lowered

/-- All spellings of a plain name are plain. -/
theorem IsPlain.of_isSpelling
    (plain : IsPlain name)
    (spelled : IsSpelling spelling name) :
    IsPlain spelling where
  nonempty := by
    intro empty
    rw [IsSpelling, empty] at spelled
    exact plain.nonempty (List.map_eq_nil_iff.mp spelled.symm)
  visible := by
    intro c member
    obtain ⟨other, inName, sameCase⟩ := spelled.exists_mem member
    obtain ⟨visible, noColon⟩ := plain.visible other inName
    refine ⟨Text.isVisible_toLower_iff.mp ?_, fun isColon => noColon ?_⟩
    · rw [← sameCase]
      exact Text.isVisible_toLower_iff.mpr visible
    · subst isColon
      exact (Text.toLower_eq_iff_of_mark (by decide)).mp sameCase
  rootless := by
    intro dotted
    have last := congrArg List.getLast? spelled
    rw [Text.lower, Text.lower, List.getLast?_map, List.getLast?_map, dotted] at last
    obtain ⟨c, isLast, lowered⟩ := Option.map_eq_some_iff.mp last.symm
    have isDot : c = '.' := (Text.toLower_eq_iff_of_mark (by decide)).mp lowered
    exact plain.rootless (isDot ▸ isLast)

theorem IsPlain.fold_eq (plain : IsPlain name) :
    fold name = String.ofList (Text.lower name.toList) := by
  rw [fold, PlainRequest.trim_of_isVisible fun c member => (plain.visible c member).1]

/-- A name that is asked for in any spelling is the name in lower case. -/
theorem IsPlain.asked_eq
    (plain : IsPlain name)
    (spelled : IsSpelling spelling name) :
    asked spelling = fold name := by
  have plainToo := plain.of_isSpelling spelled
  have rooted : Text.dropEndWhile (· == '.') spelling.toList = spelling.toList := by
    refine Text.dropEndWhile_eq_self fun c last => ?_
    exact beq_eq_false_iff_ne.mpr fun isDot => plainToo.rootless (isDot ▸ last)
  rw [plain.fold_eq, ← spelled, asked, dropTrailingDots,
    PlainRequest.trim_of_isVisible fun c member => (plainToo.visible c member).1, rooted]

theorem IsPlain.askedName?_eq
    (plain : IsPlain name)
    (spelled : IsSpelling spelling name) :
    Gateway.askedName? (some spelling) = some (fold name) := by
  have nonempty : fold name ≠ "" := by
    rw [plain.fold_eq]
    intro empty
    have nothing := congrArg String.toList empty
    rw [String.toList_ofList] at nothing
    exact plain.nonempty (List.map_eq_nil_iff.mp nothing)
  rw [Gateway.askedName?, Option.map_some, plain.asked_eq spelled]
  exact Option.filter_eq_some_iff.mpr ⟨rfl, decide_eq_true nonempty⟩

/-- A request that names a host in any spelling is for the host in lower case. -/
theorem IsPlain.host?_eq
    {request : PlainRequest}
    (plain : IsPlain name)
    (spelled : IsSpelling spelling name)
    (names : request.Names spelling.toList) :
    request.host? = some (fold name) := by
  have plainToo := plain.of_isSpelling spelled
  rw [names.host?_eq (.name plainToo.nonempty plainToo.visible), spelled, plain.fold_eq]

end HostName

namespace Gateway

open HostName

variable {gateway : Gateway} {request : ObtainRequest} {role : AuthorityRole}

/-- Orders are placed for names in lower case. -/
theorem fold_eq_self_of_order
    {domains : List String}
    {name : String}
    (makes : (gateway.obtain request).Makes (.order role domains))
    (member : name ∈ domains) :
    fold name = name := by
  obtain ⟨-, client, -, rfl, -⟩ := makes_order_iff_provable.mp makes
  have inRequest : name ∈ request.domains.map fold := by
    unfold provableNames Issuance.provable at member
    split at member
    · cases member
    · rename_i first rest isRequest
      split at member
      · rw [isRequest]
        exact List.mem_cons_of_mem _ member
      · exact member
  obtain ⟨written, -, rfl⟩ := List.mem_map.mp inRequest
  exact fold_fold written

end Gateway

/-- A name without the wildcards before it is in lower case with them. -/
theorem HostName.IsPlain.fold_withoutWildcards
    {name : String}
    (plain : IsPlain (withoutWildcards name))
    (folded : fold name = name) :
    fold (withoutWildcards name) = withoutWildcards name := by
  have lowered : Text.lower name.toList = name.toList := by
    rw [← folded, fold, String.toList_ofList, Text.lower_lower]
  have behind := (dropWildcards_suffix name.toList).sublist
  have dotted : Text.lower ('.' :: name.toList) = '.' :: name.toList :=
    congrArg (List.cons '.') lowered
  have kept := Text.lower_of_sublist behind dotted
  rw [plain.fold_eq, withoutWildcards, String.toList_ofList]
  exact congrArg String.ofList (List.tail_eq_of_cons_eq kept)

/-- The answer to a request for a token under which something is staged, or nothing. -/
def PlainAnswer.toToken (found : Option String) : PlainAnswer :=
  match found with
  | some answer => .text 200 answer
  | none => .text 404 "No challenge for this token"

/-! ## Premises -/

namespace Premises

open HostName

variable {α : Type} [Quantity α] {gateway : Gateway} {start staged premises : Premises α}
variable {events : List PremisesEvent} {response : ChallengeResponse} {key : String}
variable {number : Nat} {task : GatewayTask (GatewayProgram TaskResult)}

/-- As long as nothing is made visible or removed under a key, what is found under it
only grows older. -/
theorem Run.find?_of_others
    (run : Run gateway start events premises)
    (others :
      ∀ event ∈ events, ∀ response, event.response? = some response → response.stageKey? ≠ some key)
    (wait : Nat) :
    premises.staged.find? key (premises.instant + wait) =
      start.staged.find? key (start.instant + (PremisesEvent.elapsed events + wait)) := by
  induction run generalizing wait with
  | nil => rw [PremisesEvent.elapsed_nil, Nat.zero_add]
  | @snoc events premises later event _ step inductionHypothesis =>
      have before := inductionHypothesis fun event member =>
        others event (List.mem_append_left _ member)
      have last := others event (List.mem_append_right _ (List.mem_singleton_self _))
      rw [step.find?_of_other last, before, PremisesEvent.elapsed_snoc, Nat.add_assoc]

/-- A validation handshake that has just begun comes to a result with its only call. -/
structure Validates
    (gateway : Gateway)
    (premises : Premises α)
    (number : Nat)
    (task : GatewayTask (GatewayProgram TaskResult))
    (result : Except ResolveError CertifiedKey) :
    Prop where
  goesOn :
    ∃ call answer later,
      Step gateway premises (.traffic (.calls number call answer)) later
  ends :
    ∀ call answer later,
      Step gateway premises (.traffic (.calls number call answer)) later →
      later.traffic.tasks[number]? = some { task with rest := some (.done (.resolved result)) }

theorem validates_of_begins
    {serverName : Option String}
    {protocols : List String}
    {name : String}
    (present : premises.traffic.tasks[number]? = some task)
    (begins : task.rest = some ((Errand.resolving serverName protocols).program gateway))
    (validating : validationProtocol ∈ protocols)
    (isName : Gateway.askedName? serverName = some name) :
    Validates gateway premises number task
      (Gateway.validationResult name (premises.staged.find? name premises.instant)) := by
  have left : task.rest = some (Gateway.validation name) := by
    rw [begins, ValidationProgress.program_eq gateway validating, isName]
  have progress : ValidationProgress (Gateway.askedName? serverName) task.rest := by
    rw [isName, left]
    exact .pending name
  refine ⟨?_, fun call answer later step => ?_⟩
  · obtain ⟨later, step⟩ := validation_goes_on present left
    exact ⟨_, _, later, step⟩
  · obtain ⟨sameName, result, isSame, rfl, presentLater, -⟩ := step.validates present progress
    cases isName.symm.trans isSame
    exact presentLater

/-- What becomes of all clients that look for an answer, in whatever spelling they ask
for its name: the result of validation handshakes, and the answer to requests for its
token. -/
structure AnswersSpellings
    (gateway : Gateway)
    (premises : Premises α)
    (response : ChallengeResponse)
    (result : Except ResolveError CertifiedKey)
    (answer : PlainAnswer) :
    Prop where
  handshakes :
    response.type = .tlsAlpn01 →
    ∀ number task spelling protocols,
      IsSpelling spelling response.domain →
      validationProtocol ∈ protocols →
      premises.traffic.tasks[number]? = some task →
      task.rest = some ((Errand.resolving (some spelling) protocols).program gateway) →
      Validates gateway premises number task result
  requests :
    response.type = .http01 →
    ∀ (request : PlainRequest) httpsPort spelling,
      IsSpelling spelling response.domain →
      request.Names spelling.toList →
      PlainAnswer.token? request.target.path = some response.token →
      (PlainAnswer.respond request httpsPort premises.staged premises.instant).1 = answer

/-- All spellings are looked up under the key that the answer has in lower case. -/
theorem answersSpellings_of_find?
    {found : Option String}
    (plain : IsPlain response.domain)
    (isFound :
      ∀ key,
        { response with domain := fold response.domain }.stageKey? = some key →
        premises.staged.find? key premises.instant = found) :
    AnswersSpellings gateway premises response
      (Gateway.validationResult (fold response.domain) found) (.toToken found) where
  handshakes := by
    intro isTls number task spelling protocols spelled validating present begins
    rw [← isFound (fold response.domain) (by rw [ChallengeResponse.stageKey?, isTls])]
    exact validates_of_begins present begins validating (plain.askedName?_eq spelled)
  requests := by
    intro isHttp request httpsPort spelling spelled names isToken
    have answered :=
      PlainAnswer.respond_challenge (plain.host?_eq spelled names) isToken httpsPort
        premises.staged premises.instant
    rwa [isFound (StagingPlace.http (fold response.domain) response.token).key
      (by rw [ChallengeResponse.stageKey?, isHttp]; rfl)] at answered

/-- An answer is staged, and for less than an hour nothing else is staged or removed
under its key.

If its name is in lower case, as all names are that orders are placed for, then it is
found under every spelling: validation handshakes get a certificate for its key
authorization, and requests for its token get its key authorization.

If its name has a capital letter, as the names on a leaf may have, it is found under no
spelling at all, unless something is staged for the name in lower case. -/
theorem staged_answer_is_found_if_folded
    (deployed : Step gateway start (.deploys response) staged)
    (run : Run gateway staged events premises)
    (undisturbed :
      ∀ event ∈ events,
        ∀ other, event.response? = some other → other.stageKey? ≠ response.stageKey?)
    (recent : PremisesEvent.elapsed events < StagedChallenges.lifetime)
    (plain : IsPlain response.domain) :
    (∀ request role domains name,
      (gateway.obtain request).Makes (.order role domains) →
      name ∈ domains →
      response.domain = withoutWildcards name →
      fold response.domain = response.domain) ∧
    (fold response.domain = response.domain →
      ∃ certified,
        ValidationCertificate.make? response.domain response.keyAuthorization = some certified ∧
          AnswersSpellings gateway premises response (.ok certified)
            (.text 200 response.keyAuthorization)) ∧
    (fold response.domain ≠ response.domain →
      (∀ key,
        { response with domain := fold response.domain }.stageKey? = some key →
        premises.staged.find? key premises.instant = none) →
      AnswersSpellings gateway premises response
        (.error (.noChallenge (fold response.domain)))
        (.text 404 "No challenge for this token")) := by
  refine ⟨fun request role domains name makes member isDomain => ?_, fun folded => ?_,
    fun _ unstaged => ?_⟩
  · rw [isDomain] at plain ⊢
    exact plain.fold_withoutWildcards (Gateway.fold_eq_self_of_order makes member)
  · have isFound (key : String)
        (isKey : { response with domain := fold response.domain }.stageKey? = some key) :
        premises.staged.find? key premises.instant = some response.keyAuthorization := by
      rw [folded] at isKey
      have others : ∀ event ∈ events,
          ∀ other, event.response? = some other → other.stageKey? ≠ some key :=
        isKey ▸ undisturbed
      have aged := run.find?_of_others others 0
      rwa [Nat.add_zero, Nat.add_zero, deployed.find?_of_deploys isKey, if_pos recent] at aged
    have ascii : ∀ c ∈ response.domain.toList, c.toNat < 128 := fun c member =>
      Nat.lt_of_le_of_lt (plain.visible c member).1.2 (by decide)
    obtain ⟨subject, isSubject⟩ := SubjectName.exists_of_ascii ascii
    obtain ⟨certified, made⟩ :
        ∃ certified,
          ValidationCertificate.make? response.domain response.keyAuthorization =
            some certified :=
      ⟨_, congrArg (Option.map _) isSubject⟩
    have answers : AnswersSpellings gateway premises response _ _ :=
      answersSpellings_of_find? plain isFound
    rw [folded, Gateway.validationResult, made] at answers
    exact ⟨certified, made, answers⟩
  · exact answersSpellings_of_find? plain unstaged

/-- After a second an authority validates the custom domain, which it spells in
capitals. -/
def capitalVisit : List PremisesEvent :=
  [ .traffic (.passes 1000)
  , .traffic (.arrives (.resolving (some "BLOG.Example.COM") [validationProtocol])) ]

/-- The theorem applies to the visit: the answer was staged in lower case. -/
theorem answer_in_lower_case_is_found :
    ∃ staged premises task certified,
      Step SmallGateway.gateway (quiet (SmallGateway.scene Catalog.empty) freshBackstage)
          (.deploys blogResponse) staged ∧
        Run SmallGateway.gateway staged capitalVisit premises ∧
        PremisesEvent.elapsed capitalVisit < StagedChallenges.lifetime ∧
        IsPlain blogResponse.domain ∧
        fold blogResponse.domain = blogResponse.domain ∧
        premises.traffic.tasks[0]? = some task ∧
        ValidationCertificate.make? SmallGateway.blog "token.thumbprint" = some certified ∧
        Validates SmallGateway.gateway premises 0 task (.ok certified) := by
  let handshake : Errand := .resolving (some "BLOG.Example.COM") [validationProtocol]
  have visible : ∀ c ∈ blogResponse.domain.toList, PlainRequest.IsVisible c ∧ c ≠ ':' :=
    List.all_iff_forall_prop.mp (by decide)
  have plain : IsPlain blogResponse.domain := ⟨by decide, visible, by decide⟩
  have folded : fold blogResponse.domain = blogResponse.domain := by decide +kernel
  have recent : PremisesEvent.elapsed capitalVisit < StagedChallenges.lifetime := by decide
  obtain ⟨staged, premises, deployed, run, there⟩ :
      ∃ staged premises,
        Step SmallGateway.gateway (quiet (SmallGateway.scene Catalog.empty) freshBackstage)
            (.deploys blogResponse) staged ∧
          Run SmallGateway.gateway staged capitalVisit premises ∧
          premises.traffic.tasks[0]? =
            some (Traffic.newTask SmallGateway.gateway.behaviour handshake) :=
    ⟨_, _, .deploys _ _,
      .snoc (.snoc .nil (.traffic (.passes _ 1000) trivial)) (.traffic (.arrives _ _) trivial), rfl⟩
  have undisturbed :
      ∀ event ∈ capitalVisit,
        ∀ other, event.response? = some other → other.stageKey? ≠ blogResponse.stageKey? := by
    intro event member other isOther
    simp only [capitalVisit, List.mem_cons, List.not_mem_nil, or_false] at member
    rcases member with rfl | rfl <;> cases isOther
  obtain ⟨-, found, -⟩ := staged_answer_is_found_if_folded deployed run undisturbed recent plain
  obtain ⟨certified, made, answers⟩ := found folded
  have validates :=
    answers.handshakes rfl 0 _ "BLOG.Example.COM" [validationProtocol] (by decide +kernel)
      (List.mem_singleton_self _) there rfl
  exact ⟨staged, premises, _, certified, deployed, run, recent, plain, folded, there, made,
    validates⟩

end Premises

/-! ## Renewals -/

namespace SmallGateway

/-- The custom domain as an authority may write it. -/
def capitalBlog : String := "Blog.Example.com"

/-- A leaf for the custom domain in capitals. -/
def capitalLeaf : Certificate where
  issuer := []
  subject := []
  notBefore := 1692000000
  notAfter := 1700086400
  extensions := [Certificate.alternativeNames [.host capitalBlog]]

/-- The certificate that has the leaf. -/
def capitalCertificate : CertificateResource :=
  certificate (capitalLeaf.text .sample) capitalLeaf.notAfter

theorem renewalDomains_capitalCertificate :
    capitalCertificate.renewalDomains = .ok [capitalBlog] := by
  have chain := CertificateResource.chainOf_text capitalLeaf .sample
  have isRead : Certificate.read? (capitalLeaf.write .sample) = some capitalLeaf := by
    decide +kernel
  have hostNames : capitalLeaf.hostNames = [capitalBlog] := by decide +kernel
  have named : capitalLeaf.hostNames ≠ [] := hostNames ▸ List.cons_ne_nil _ _
  have isLeaf : capitalCertificate.leafDomains = .ok capitalLeaf.hostNames :=
    CertificateResource.leafDomains_of_parts chain isRead named
  rw [CertificateResource.renewalDomains, isLeaf, hostNames]
  rfl

/-- A request that has the certificate renewed. -/
def capitalRenewal : ObtainRequest where
  domains := [blog]
  previous := some capitalCertificate

end SmallGateway

namespace Premises

open HostName

/-- The answer to a TLS challenge for the name as it stands on the leaf. -/
def capitalResponse : ChallengeResponse :=
  { blogResponse with domain := SmallGateway.capitalBlog }

/-- The answer to an HTTP challenge for the same name. -/
def capitalHttpResponse : ChallengeResponse :=
  { blogHttpResponse with domain := SmallGateway.capitalBlog }

/-- The renewal of the leaf asks for the name in capitals.  An authority that validates it
finds neither of the answers staged for it, even in the same spelling. -/
theorem answer_in_capitals_is_not_found :
    SmallGateway.gateway.AsksFor SmallGateway.capitalRenewal .general
        [SmallGateway.capitalBlog] ∧
      IsPlain SmallGateway.capitalBlog ∧
      ∃ premises task,
        Run SmallGateway.gateway (quiet (SmallGateway.scene Catalog.empty) freshBackstage)
            [ .deploys capitalResponse
            , .deploys capitalHttpResponse
            , .traffic
                (.arrives (.resolving (some SmallGateway.capitalBlog) [validationProtocol])) ]
            premises ∧
          premises.traffic.tasks[0]? = some task ∧
          Validates SmallGateway.gateway premises 0 task
            (.error (.noChallenge SmallGateway.blog)) ∧
          tokenRequest.Names SmallGateway.capitalBlog.toList ∧
          (PlainAnswer.respond tokenRequest 443 premises.staged premises.instant).1 =
            .text 404 "No challenge for this token" := by
  let handshake : Errand := .resolving (some SmallGateway.capitalBlog) [validationProtocol]
  have isClient :
      SmallGateway.gateway.client? SmallGateway.capitalRenewal.role = some ⟨false⟩ := rfl
  have isPrevious :
      Gateway.issuedPrevious SmallGateway.capitalRenewal = some SmallGateway.capitalCertificate :=
    rfl
  have hopeful : Gateway.provableNames ⟨false⟩ SmallGateway.capitalRenewal ≠ [] := by
    rw [show Gateway.provableNames ⟨false⟩ SmallGateway.capitalRenewal = [SmallGateway.blog] by
      decide +kernel]
    exact List.cons_ne_nil _ _
  have asks :=
    (Gateway.asksFor_iff isClient).mpr
      ⟨hopeful, rfl,
        Or.inr ⟨_, isPrevious, SmallGateway.renewalDomains_capitalCertificate⟩⟩
  have visible : ∀ c ∈ SmallGateway.capitalBlog.toList, PlainRequest.IsVisible c ∧ c ≠ ':' :=
    List.all_iff_forall_prop.mp (by decide)
  have plain : IsPlain SmallGateway.capitalBlog := ⟨by decide, visible, by decide⟩
  obtain ⟨premises, run, there, noTls, noHttp⟩ :
      ∃ premises : Premises Rat,
        Run SmallGateway.gateway (quiet (SmallGateway.scene Catalog.empty) freshBackstage)
            [ .deploys capitalResponse
            , .deploys capitalHttpResponse
            , .traffic (.arrives handshake) ]
            premises ∧
          premises.traffic.tasks[0]? =
            some (Traffic.newTask SmallGateway.gateway.behaviour handshake) ∧
          premises.staged.find? SmallGateway.blog premises.instant = none ∧
          premises.staged.find? (StagingPlace.http SmallGateway.blog "token").key
            premises.instant = none :=
    ⟨_, .snoc (.snoc (.snoc .nil (.deploys _ _)) (.deploys _ _)) (.traffic (.arrives _ _) trivial),
      rfl, by decide +kernel, by decide +kernel⟩
  have asked : Gateway.askedName? (some SmallGateway.capitalBlog) = some SmallGateway.blog := by
    decide +kernel
  have validates := validates_of_begins there rfl (List.mem_singleton_self _) asked
  rw [noTls] at validates
  have port : ∀ c ∈ "80".toList, c.isDigit = true := List.all_eq_true.mp (by decide)
  have names : tokenRequest.Names SmallGateway.capitalBlog.toList := .header (.port port) rfl
  have isHost : tokenRequest.host? = some SmallGateway.blog := by decide +kernel
  have isToken : PlainAnswer.token? tokenRequest.target.path = some "token" := by decide +kernel
  have answered :=
    PlainAnswer.respond_challenge isHost isToken 443 premises.staged premises.instant
  rw [noHttp] at answered
  exact ⟨asks, plain, premises, _, run, there, validates, names, answered⟩

end Premises

end OnDemandTls
