import OnDemandTls.Proofs.PrimaryNames
import OnDemandTls.Proofs.Traffic.AskedNames
import OnDemandTls.Proofs.Traffic.Retry

namespace OnDemandTls

/-!
# Names of renewals

A handshake that finds nothing stored asks for the name that it is for; the renewal
of a stored certificate asks for the store key, which is all that is left of the name
then.  A store key keeps every name but a wildcard, whose star it drops.  So a renewal
orders what the first handshake has ordered unless the name is a wildcard; of a
wildcard it orders the name with its dot, also through a client that would not have
been asked for the wildcard.
-/

namespace GatewayCall

/-- The calls that ask an authority, or start what may ask one. -/
def Requests : GatewayCall → Prop
  | startObtaining _ => True
  | call => call.AsksAuthority

theorem AsksAuthority.requests
    {call : GatewayCall}
    (asks : call.AsksAuthority) :
    call.Requests := by
  cases call <;> first | exact asks | exact asks.elim

end GatewayCall

namespace Program

variable {α β : Type} {call : GatewayCall}

theorem CallsOnly.of_makes
    {allowed : GatewayCall → Prop}
    {program : GatewayProgram α}
    (only : program.CallsOnly allowed)
    (makes : program.Makes call) :
    allowed call := by
  induction makes with
  | now next => exact only.allowed_next
  | later answer _ inductionHypothesis => exact inductionHypothesis (only.rest answer)

theorem Makes.bind
    {program : GatewayProgram α}
    (makes : program.Makes call)
    (next : α → GatewayProgram β) :
    (program.bind next).Makes call := by
  induction makes with
  | now rest => exact .now _
  | later answer _ inductionHypothesis => exact .later answer inductionHypothesis

/-- What follows a program is of no account for the calls that it does not make. -/
theorem makes_bind_iff
    {allowed : GatewayCall → Prop}
    {program : GatewayProgram α}
    {next : α → GatewayProgram β}
    (only : ∀ value, (next value).CallsOnly allowed)
    (other : ¬ allowed call) :
    (program.bind next).Makes call ↔ program.Makes call := by
  refine ⟨fun makes => ?_, fun makes => makes.bind next⟩
  induction program with
  | done value => exact absurd ((only value).of_makes makes) other
  | call request rest inductionHypothesis =>
      cases makes with
      | now => exact .now rest
      | later answer makes => exact .later answer (inductionHypothesis answer makes)

end Program

namespace HandshakeStage

variable {target : ServingTarget} {name : String}

theorem callsOnly_serving (resource : CertificateResource) :
    (serving target name resource).CallsOnly fun call : GatewayCall => ¬ call.Requests := by
  unfold serving
  cases resource.certifiedKey with
  | error reason => exact .done _
  | ok certified => exact .call id fun _ => .done _

theorem callsOnly_afterObtaining (result : Except ObtainError CertificateResource) :
    (afterObtaining target name result).CallsOnly fun call : GatewayCall => ¬ call.Requests := by
  cases result with
  | ok resource => exact callsOnly_serving resource
  | error reason =>
      refine .call id fun second => ?_
      simp only
      cases Mock.make name reason.message second with
      | error error => exact .done _
      | ok mock => exact .call id fun _ => callsOnly_serving mock

/-- A handshake that has found a certificate starts its renewal when it is due. -/
theorem dating_makes_iff
    {gateway : Gateway}
    {record : CertificateResource}
    {call : GatewayCall}
    (requests : call.Requests) :
    ((dating target name record).program gateway).Makes call ↔
      ∃ second request,
        Gateway.renewalRequest? target.key record second = some request ∧
          call = .startObtaining request := by
  constructor
  · intro makes
    cases makes with
    | now => exact requests.elim
    | later second makes =>
        simp only at makes
        split at makes
        · exact absurd requests ((callsOnly_serving record).of_makes makes)
        · rename_i request due
          cases makes with
          | now => exact ⟨second, request, due, rfl⟩
          | later number makes =>
              exact absurd requests ((callsOnly_serving record).of_makes makes)
  · rintro ⟨second, request, due, rfl⟩
    refine .later second ?_
    simp only [due]
    exact .now _

end HandshakeStage

namespace Gateway

open HostName

variable {gateway : Gateway} {name : String} {claim : DomainClaim}

/-- What the first handshake for a custom domain asks for. -/
def firstRequest
    (name : String)
    (claim : DomainClaim) :
    ObtainRequest where
  domains := [name]
  user := some claim.owner

theorem obtain_firstRequest
    (gateway : Gateway)
    (name : String)
    (claim : DomainClaim) :
    gateway.obtain (firstRequest name claim) =
      IssuanceStage.claiming.program (gateway.clientJob (customTarget name claim) name) := by
  rw [obtain_eq, firstRequest, show some claim.owner = (customTarget name claim).user from rfl,
    job?_client]

/-- A handshake for a custom domain requests a certificate for it, or starts the
renewal of the one that it has found. -/
theorem resolveTarget_makes_iff
    {call : GatewayCall}
    (requests : call.Requests) :
    (gateway.resolveTarget (customTarget name claim) name).Makes call ↔
      (gateway.obtain (firstRequest name claim)).Makes call ∨
        ∃ record second request,
          renewalRequest? (storeKey name) record second = some request ∧
            call = .startObtaining request := by
  rw [HandshakeStage.resolveTarget_eq, HandshakeStage.program, HandshakeStage.stored_bind,
    obtain_firstRequest]
  constructor
  · intro makes
    cases makes with
    | now => exact requests.elim
    | later ready makes =>
        cases ready with
        | some certified => cases makes
        | none =>
            cases makes with
            | now => exact requests.elim
            | later stored makes =>
                rcases stored with error | _ | record
                · cases makes
                · refine Or.inl ?_
                  exact (Program.makes_bind_iff HandshakeStage.callsOnly_afterObtaining
                    (not_not_intro requests)).mp makes
                · obtain ⟨second, request, due, isStart⟩ :=
                    (HandshakeStage.dating_makes_iff requests).mp makes
                  exact Or.inr ⟨record, second, request, due, isStart⟩
  · rintro (makes | ⟨record, second, request, due, rfl⟩)
    · exact .later none (.later (.ok none) (makes.bind _))
    · refine .later none (.later (.ok (some record)) ?_)
      exact (HandshakeStage.dating_makes_iff requests).mpr ⟨second, request, due, rfl⟩

theorem program_of_entitled
    {errand : Errand}
    (entitled : errand.Entitled gateway name claim) :
    errand.program gateway =
      (gateway.resolveTarget (customTarget name claim) name).bind fun result =>
        .done (.resolved result) := by
  obtain ⟨serverName, protocols, rfl, asks, noValidation⟩ := entitled.asks
  have isTarget := classify_of_claimed entitled.custom entitled.claimed entitled.authorized
  have isName : (Option.map asked (some serverName)).filter (· ≠ "") = some name := by
    simp [asks, entitled.named]
  rw [Errand.program, resolve, isName]
  simp only [noValidation, isTarget]
  rfl

/-- An entitled handshake requests a certificate for its name, or starts the renewal
of the one that it has found. -/
theorem entitled_makes_iff
    {errand : Errand}
    {call : GatewayCall}
    (entitled : errand.Entitled gateway name claim)
    (requests : call.Requests) :
    (errand.program gateway).Makes call ↔
      (gateway.obtain (firstRequest name claim)).Makes call ∨
        ∃ record second request,
          renewalRequest? (storeKey name) record second = some request ∧
            call = .startObtaining request := by
  have silent (result : Except ResolveError CertifiedKey) :
      (Program.done (TaskResult.resolved result) : GatewayProgram TaskResult).CallsOnly
        fun _ => False :=
    .done _
  rw [program_of_entitled entitled, ← resolveTarget_makes_iff requests]
  exact Program.makes_bind_iff silent id

/-! ## Wildcards -/

theorem head?_storeKey_of_isWildcard
    (wildcard : IsWildcard (fold name)) :
    (storeKey name).toList.head? = some '.' := by
  rw [IsWildcard, fold, String.toList_ofList] at wildcard
  obtain ⟨rest, shape⟩ := wildcard
  rw [storeKey, String.toList_ofList, ← shape]
  rfl

/-- The store key of a wildcard can be asked for without proving a wildcard. -/
theorem provable_storeKey_of_isWildcard
    (wildcard : IsWildcard (fold name))
    (supportsWildcards : Bool) :
    Issuance.provable supportsWildcards [storeKey name] = [storeKey name] := by
  have head := head?_storeKey_of_isWildcard wildcard
  simp [Issuance.provable, head]

/-- A renewal orders other names than the first handshake exactly for a wildcard. -/
theorem provable_storeKey_eq_iff
    {supportsWildcards : Bool} :
    Issuance.provable supportsWildcards [storeKey name] =
        Issuance.provable supportsWildcards [fold name] ↔
      ¬ IsWildcard (fold name) := by
  constructor
  · intro same wildcard
    have member : storeKey name ∈ Issuance.provable supportsWildcards [fold name] := by
      rw [← same, provable_storeKey_of_isWildcard wildcard]
      exact List.mem_singleton_self _
    have isName := List.mem_singleton.mp (mem_of_mem_provable member)
    exact storeKey_eq_fold_iff.mp isName wildcard
  · intro plain
    rw [storeKey_eq_fold_iff.mpr plain]

/-! ## Renewals of custom domains -/

theorem not_makes_start
    {request other : ObtainRequest} :
    ¬ (gateway.obtain request).Makes (.startObtaining other) := by
  intro makes
  cases isJob : gateway.job? request with
  | none => exact not_makes_of_no_job isJob makes
  | some job => exact allows_of_makes isJob makes

section Entitled

variable {errand : Errand} (entitled : errand.Entitled gateway name claim)

include entitled

/-- What an entitled handshake starts is the renewal of a certificate that is due. -/
theorem entitled_starts_iff
    {request : ObtainRequest} :
    (errand.program gateway).Makes (.startObtaining request) ↔
      ∃ record second,
        CertificateResource.renewalDecision record second = .due ∧
          request = record.renewal (storeKey name) := by
  have requests : (GatewayCall.startObtaining request).Requests := trivial
  rw [entitled_makes_iff entitled requests]
  constructor
  · rintro (makes | ⟨record, second, other, due, same⟩)
    · exact absurd makes not_makes_start
    · cases same
      exact ⟨record, second, renewalRequest?_eq_some_iff.mp due⟩
  · rintro ⟨record, second, due⟩
    exact Or.inr ⟨record, second, request, renewalRequest?_eq_some_iff.mpr due, rfl⟩

theorem entitled_orders_iff
    {role : AuthorityRole}
    {domains : List String} :
    (errand.program gateway).Makes (.order role domains) ↔
      role = .general ∧
        ∃ client,
          gateway.general = some client ∧
            domains = Issuance.provable client.supportsWildcards [fold name] ∧ domains ≠ [] := by
  have requests : (GatewayCall.order role domains).Requests := trivial
  rw [entitled_makes_iff entitled requests, makes_order_iff_provable]
  constructor
  · rintro (ordered | ⟨record, second, request, due, same⟩)
    · exact ordered
    · cases same
  · exact Or.inl

theorem renewal_orders_iff
    {request : ObtainRequest}
    {role : AuthorityRole}
    {domains : List String}
    (starts : (errand.program gateway).Makes (.startObtaining request)) :
    (gateway.obtain request).Makes (.order role domains) ↔
      role = .general ∧
        ∃ client,
          gateway.general = some client ∧
            domains = Issuance.provable client.supportsWildcards [storeKey name] ∧
            domains ≠ [] := by
  obtain ⟨record, second, -, rfl⟩ := (entitled_starts_iff entitled).mp starts
  have names (client : AuthorityClient) :
      provableNames client (record.renewal (storeKey name)) =
        Issuance.provable client.supportsWildcards [storeKey name] := by
    simp [provableNames, CertificateResource.renewal]
  simp only [makes_order_iff_provable, names]
  rfl

end Entitled

/-- When a handshake for a custom domain starts a renewal and that comes to a fresh
order, however it does, the order is for the store key of the name, while the first
handshake orders the name itself.  These are the same lists, and the renewal of a
name for which nobody would be asked asks nobody, exactly if there is no client or
the name is no wildcard. -/
theorem renewal_orders_as_first_handshake_iff
    {errand : Errand}
    (entitled : errand.Entitled gateway name claim) :
    let handshake := errand.program gateway
    (∀ role domains,
      handshake.Makes (.order role domains) ↔
        role = .general ∧
          ∃ client,
            gateway.general = some client ∧
              domains = Issuance.provable client.supportsWildcards [fold name] ∧
              domains ≠ []) ∧
    (∀ request,
      handshake.Makes (.startObtaining request) →
      ∀ role domains,
        (gateway.obtain request).Makes (.order role domains) ↔
          role = .general ∧
            ∃ client,
              gateway.general = some client ∧
                domains = Issuance.provable client.supportsWildcards [storeKey name] ∧
                domains ≠ []) ∧
    ((∀ request,
      handshake.Makes (.startObtaining request) →
      (∀ role domains,
        (gateway.obtain request).Makes (.order role domains) →
        handshake.Makes (.order role domains)) ∧
      ((∀ call, call.AsksAuthority → ¬ handshake.Makes call) →
        ∀ call, call.AsksAuthority → ¬ (gateway.obtain request).Makes call)) ↔
      gateway.general = none ∨ ¬ IsWildcard name) := by
  obtain ⟨serverName, -, -, asks, -⟩ := entitled.asks
  have isWildcard : IsWildcard (fold name) ↔ IsWildcard name := by
    rw [← asks]
    exact isWildcard_fold_asked serverName
  intro handshake
  refine ⟨fun role domains => entitled_orders_iff entitled,
    fun request starts role domains => renewal_orders_iff entitled starts, ⟨?differs, ?agrees⟩⟩
  case differs =>
    intro alike
    cases hasClient : gateway.general with
    | none => exact Or.inl rfl
    | some client =>
        refine Or.inr fun wildcard => ?_
        have starred := isWildcard.mpr wildcard
        have kept := provable_storeKey_of_isWildcard starred client.supportsWildcards
        have starts : handshake.Makes (.startObtaining _) :=
          (entitled_starts_iff entitled).mpr ⟨SmallGateway.certificate "" 0, 0, by decide, rfl⟩
        have renewed := (renewal_orders_iff entitled starts).mpr
          ⟨rfl, client, hasClient, kept.symm, List.cons_ne_nil _ _⟩
        obtain ⟨-, same, isSame, first, -⟩ :=
          (entitled_orders_iff entitled).mp ((alike _ starts).1 _ _ renewed)
        cases hasClient.symm.trans isSame
        exact provable_storeKey_eq_iff.mp (kept.trans first) starred
  case agrees =>
    rintro (noClient | plain) request starts
    · have silent (call : GatewayCall) (asks : call.AsksAuthority) :
          ¬ (gateway.obtain request).Makes call := by
        obtain ⟨record, second, -, rfl⟩ := (entitled_starts_iff entitled).mp starts
        exact not_asks_of_no_client noClient asks
      exact ⟨fun role domains ordered => absurd ordered (silent _ trivial),
        fun _ call asks => silent call asks⟩
    · have alike (role : AuthorityRole) (domains : List String)
          (ordered : (gateway.obtain request).Makes (.order role domains)) :
          handshake.Makes (.order role domains) := by
        rw [renewal_orders_iff entitled starts] at ordered
        simp only [provable_storeKey_eq_iff.mpr fun starred => plain (isWildcard.mp starred)]
          at ordered
        exact (entitled_orders_iff entitled).mpr ordered
      refine ⟨alike, fun silent call asks makes => ?_⟩
      obtain ⟨role, domains, ordered⟩ := makes_order_of_asks asks makes
      exact silent (.order role domains) trivial (alike role domains ordered)

/-- A handshake for the custom domain of the small gateway. -/
def blogHandshake : Errand :=
  .resolving (some SmallGateway.blog) []

/-- Whatever certificate of the small gateway's custom domain is due, its renewal
orders the name that the first handshake orders. -/
theorem plain_name_is_renewed_as_ordered :
    let first := blogHandshake.program SmallGateway.gateway
    blogHandshake.Entitled SmallGateway.gateway SmallGateway.blog
        ⟨"alice", "pages", "pages", true⟩ ∧
      first.Makes (.order .general [SmallGateway.blog]) ∧
      ∀ request,
        first.Makes (.startObtaining request) →
        (SmallGateway.gateway.obtain request).Makes (.order .general [SmallGateway.blog]) ∧
          ∀ role domains,
            (SmallGateway.gateway.obtain request).Makes (.order role domains) →
            first.Makes (.order role domains) := by
  have entitled :
      blogHandshake.Entitled SmallGateway.gateway SmallGateway.blog
        ⟨"alice", "pages", "pages", true⟩ :=
    ⟨⟨SmallGateway.blog, [], rfl, by decide +kernel, rfl⟩, by decide, by decide +kernel,
      by decide +kernel, rfl⟩
  obtain ⟨ordered, renewed, alike⟩ := renewal_orders_as_first_handshake_iff entitled
  have isFirst : Issuance.provable false [fold SmallGateway.blog] = [SmallGateway.blog] := by
    decide +kernel
  have isRenewed : Issuance.provable false [storeKey SmallGateway.blog] = [SmallGateway.blog] := by
    decide +kernel
  have plain : ¬ IsWildcard SmallGateway.blog := by decide +kernel
  refine ⟨entitled, ?_, fun request starts => ⟨?_, ?_⟩⟩
  · exact (ordered _ _).mpr ⟨rfl, ⟨false⟩, rfl, isFirst.symm, List.cons_ne_nil _ _⟩
  · exact (renewed request starts _ _).mpr
      ⟨rfl, ⟨false⟩, rfl, isRenewed.symm, List.cons_ne_nil _ _⟩
  · exact (alike.mpr (Or.inr plain) request starts).1

/-- A handshake for the wildcard name of the shop. -/
def shopHandshake : Errand :=
  .resolving (some Traffic.shopWildcard) []

/-- The gateway of the shop with a client that may prove wildcards. -/
def shopGatewayWith (supportsWildcards : Bool) : Gateway :=
  { Traffic.shopGateway with general := some ⟨supportsWildcards⟩ }

theorem entitled_shopHandshake (supportsWildcards : Bool) :
    shopHandshake.Entitled (shopGatewayWith supportsWildcards) Traffic.shopWildcard
      Traffic.shopClaim :=
  let entitled := Traffic.entitled_shopWildcard
  ⟨entitled.asks, entitled.named, entitled.custom, entitled.claimed, entitled.authorized⟩

/-- What the renewal of the shop's certificate orders, and the first handshake. -/
theorem shopHandshake_orders (supportsWildcards : Bool) :
    let gateway := shopGatewayWith supportsWildcards
    let first := shopHandshake.program gateway
    let renewal := Traffic.shortCertificate.renewal Traffic.shopKey
    first.Makes (.startObtaining renewal) ∧
      (gateway.obtain renewal).Makes (.order .general [".shop.example.com"]) ∧
      (∀ role domains,
        first.Makes (.order role domains) ↔
          supportsWildcards = true ∧ role = .general ∧ domains = ["*.shop.example.com"]) ∧
      (supportsWildcards = false → ∀ call, call.AsksAuthority → ¬ first.Makes call) := by
  intro gateway first renewal
  have entitled := entitled_shopHandshake supportsWildcards
  have starts : first.Makes (.startObtaining renewal) :=
    (entitled_starts_iff entitled).mpr
      ⟨Traffic.shortCertificate, 1700000000, by decide +kernel, by decide +kernel⟩
  have orders (role : AuthorityRole) (domains : List String) :
      first.Makes (.order role domains) ↔
        supportsWildcards = true ∧ role = .general ∧ domains = ["*.shop.example.com"] := by
    have isName : fold Traffic.shopWildcard = "*.shop.example.com" := by decide +kernel
    rw [entitled_orders_iff entitled, isName]
    cases supportsWildcards with
    | false =>
        have unprovable : Issuance.provable false ["*.shop.example.com"] = [] := by decide +kernel
        simp [shopGatewayWith, unprovable]
    | true =>
        constructor
        · rintro ⟨isRole, client, isClient, same, -⟩
          cases isClient
          exact ⟨rfl, isRole, same⟩
        · rintro ⟨-, isRole, rfl⟩
          exact ⟨isRole, ⟨true⟩, rfl, rfl, List.cons_ne_nil _ _⟩
  refine ⟨starts, ?_, orders, fun unprovable call asks makes => ?_⟩
  · refine (renewal_orders_iff entitled starts).mpr ⟨rfl, _, rfl, ?_, List.cons_ne_nil _ _⟩
    cases supportsWildcards <;> decide +kernel
  · rcases (entitled_makes_iff entitled asks.requests).mp makes with
      makes | ⟨record, second, request, due, rfl⟩
    · obtain ⟨role, domains, ordered⟩ := makes_order_of_asks asks makes
      have requests : (GatewayCall.order role domains).Requests := trivial
      have isFirst := (entitled_makes_iff entitled requests).mpr (Or.inl ordered)
      exact absurd ((orders role domains).mp isFirst).1 (by simp [unprovable])
    · exact asks

/-- The renewal of a wildcard orders the name with its dot.  The first handshake asks
nobody if the client proves no wildcards, and orders the wildcard if it does. -/
theorem wildcard_is_renewed_as_dotted_name :
    let unable := shopGatewayWith false
    let able := shopGatewayWith true
    let renewal := Traffic.shortCertificate.renewal Traffic.shopKey
    (shopHandshake.Entitled unable Traffic.shopWildcard Traffic.shopClaim ∧
      (shopHandshake.program unable).Makes (.startObtaining renewal) ∧
      (unable.obtain renewal).Makes (.order .general [".shop.example.com"]) ∧
      ∀ call, GatewayCall.AsksAuthority call → ¬ (shopHandshake.program unable).Makes call) ∧
    (shopHandshake.Entitled able Traffic.shopWildcard Traffic.shopClaim ∧
      (shopHandshake.program able).Makes (.startObtaining renewal) ∧
      (able.obtain renewal).Makes (.order .general [".shop.example.com"]) ∧
      ∀ role domains,
        (shopHandshake.program able).Makes (.order role domains) ↔
          role = .general ∧ domains = ["*.shop.example.com"]) := by
  intro unable able renewal
  obtain ⟨starts, orders, -, silent⟩ := shopHandshake_orders false
  obtain ⟨startsToo, ordersToo, first, -⟩ := shopHandshake_orders true
  refine ⟨⟨entitled_shopHandshake false, starts, orders, silent rfl⟩,
    entitled_shopHandshake true, startsToo, ordersToo, fun role domains => ?_⟩
  rw [first, and_iff_right rfl]

end Gateway

end OnDemandTls
