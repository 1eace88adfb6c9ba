import OnDemandTls.Proofs.NormalForms
import OnDemandTls.Proofs.Traffic.Expenses
import OnDemandTls.Proofs.Traffic.HandOff

namespace OnDemandTls

/-!
# Names that authorities are asked for

An authority is asked for names in two ways: a fresh order has those of the
request, and a renewal has those of the leaf that is to be renewed.  Which calls a
program comes to depends on the answers to the calls before (`Program.Makes`); here
are the orders and renewals that a request can come to, and from that, when a client
that proves no wildcards is asked for one all the same.
-/

/-- A program makes a call if the calls before it are answered in some way. -/
inductive Program.Makes {α : Type} : GatewayProgram α → GatewayCall → Prop where
  | now
      {call : GatewayCall}
      (next : call.Answer → GatewayProgram α) :
      Makes (.call call next) call
  | later
      {call other : GatewayCall}
      {next : other.Answer → GatewayProgram α}
      (answer : other.Answer) :
      Makes (next answer) call →
      Makes (.call other next) call

/-- What is left of a program makes no calls but those of the program. -/
theorem Program.Leads.makes
    {α : Type}
    {program rest : GatewayProgram α}
    {transcript : List Exchange}
    {call : GatewayCall}
    (leads : program.Leads transcript rest) :
    rest.Makes call → program.Makes call := by
  induction leads with
  | nil => exact id
  | snoc answer _ inductionHypothesis => exact fun makes => inductionHypothesis (.later answer makes)

/-- In a run a task makes no calls but those that its program makes. -/
theorem Traffic.Run.makes
    {gateway : Gateway}
    {scene : Scene}
    {events : List TrafficEvent}
    {traffic later : Traffic (GatewayProgram TaskResult)}
    {number : Nat}
    {call : GatewayCall}
    {answer : call.Answer}
    (run : Run gateway.behaviour (quiet scene) events traffic)
    (step : Step gateway.behaviour traffic (.calls number call answer) later) :
    ∃ task,
      traffic.tasks[number]? = some task ∧ (task.errand.program gateway).Makes call := by
  obtain ⟨task, stage, rest, present, left, ⟨next, rfl, -⟩, -⟩ := step.called
  exact ⟨task, present, (run.leads present left).makes (.now next)⟩

namespace Issuance

open HostName

/-- Where the first name is dropped if it cannot be proved, wildcards are left only
behind the first name. -/
theorem exists_wildcard_provable_iff
    {names : List String} :
    (∃ name ∈ provable false names, IsWildcard name) ↔ ∃ name ∈ names.tail, IsWildcard name := by
  cases names with
  | nil => simp [provable]
  | cons first rest =>
      by_cases starred : first.toList.head? = some '*'
      · simp [provable, starred]
      · have plain : ¬ IsWildcard first := by
          rintro ⟨behind, shape⟩
          exact starred (by rw [← shape]; rfl)
        simp [provable, starred, plain]

end Issuance

namespace CertificateResource

/-- A renewal asks for the names of the leaf, perhaps in another order. -/
theorem perm_renewalDomains
    {previous : CertificateResource}
    {leaf : List String}
    (isLeaf : previous.leafDomains = .ok leaf) :
    ∃ names, previous.renewalDomains = .ok names ∧ names.Perm leaf := by
  refine ⟨_, by rw [renewalDomains, isLeaf]; rfl, ?_⟩
  by_cases listed : previous.domain ∈ leaf
  · simpa [listed] using (List.perm_cons_erase listed).symm
  · simp [listed]

theorem exists_wildcard_renewalDomains_iff
    {previous : CertificateResource} :
    (∃ names, previous.renewalDomains = .ok names ∧ ∃ name ∈ names, HostName.IsWildcard name) ↔
      ∃ leaf, previous.leafDomains = .ok leaf ∧ ∃ name ∈ leaf, HostName.IsWildcard name := by
  cases isLeaf : previous.leafDomains with
  | error error => simp [renewalDomains, isLeaf, Except.map]
  | ok leaf =>
      obtain ⟨names, isRenewal, perm⟩ := perm_renewalDomains isLeaf
      simp [isRenewal, perm.mem_iff]

end CertificateResource

namespace GatewayCall

/-- The names that an authority is asked for in a call: those of an order, or
those of the leaf that is renewed. -/
def namesAsked? : GatewayCall → Option (AuthorityRole × List String)
  | order role domains => some (role, domains)
  | renew role previous => previous.renewalDomains.toOption.map fun domains => (role, domains)
  | _ => none

end GatewayCall

namespace IssuanceStage

variable {job : IssuanceJob} {stage : IssuanceStage}
variable {call other : GatewayCall}

theorem makes_of_moves
    {answer : call.Answer}
    {later : IssuanceProgress}
    (moves : stage.Moves job call answer later) :
    (stage.program job).Makes call := by
  obtain ⟨next, upcoming, -⟩ := program_of_moves moves
  rw [upcoming]
  exact .now next

theorem makes_of_later
    {answer : other.Answer}
    {later : IssuanceStage}
    (moves : stage.Moves job other answer (.on later))
    (makes : (later.program job).Makes call) :
    (stage.program job).Makes call := by
  obtain ⟨next, upcoming, isLater⟩ := program_of_moves moves
  rw [show later.program job = next answer from isLater] at makes
  rw [upcoming]
  exact .later answer makes

end IssuanceStage

namespace IssuanceJob

/-- Whoever has somebody to ask and names to ask for begins with the renewal of
what an authority issued before, or with a fresh order. -/
theorem firstStage_of_hopeful
    {job : IssuanceJob}
    (hopeful : ¬ job.IsHopeless) :
    job.firstStage =
      match job.previous with
      | some previous => .payingRenewal previous
      | none => job.freshStage := by
  unfold firstStage
  split
  · rename_i noClient
    exact (hopeful (Or.inl (Option.isNone_iff_eq_none.mp noClient))).elim
  · split
    · rename_i nameless
      exact (hopeful (Or.inr (List.isEmpty_iff.mp nameless))).elim
    · cases job.previous <;> rfl

section Hopeful

variable {job : IssuanceJob} (hopeful : ¬ job.IsHopeless)

include hopeful

theorem makes_renewal
    {previous : CertificateResource}
    (isPrevious : job.previous = some previous) :
    (IssuanceStage.claiming.program job).Makes (.renew job.request.role previous) := by
  refine IssuanceStage.makes_of_later (.owner 0) ?_
  rw [firstStage_of_hopeful hopeful, isPrevious]
  exact IssuanceStage.makes_of_later (.paidRenewal previous)
    (IssuanceStage.makes_of_moves (.notRenewed previous (.orderFailed .noDomains)))

/-- An order is placed at once, or when a renewal has failed. -/
theorem makes_order :
    (IssuanceStage.claiming.program job).Makes
      (.order job.request.role job.issuance.domains) := by
  have ordering :
      (IssuanceStage.ordering.program job).Makes
        (.order job.request.role job.issuance.domains) :=
    IssuanceStage.makes_of_moves (.refused (.orderFailed .noDomains))
  have paying :=
    IssuanceStage.makes_of_later .paidOrder (IssuanceStage.makes_of_later .paidRequest ordering)
  have fresh :
      (job.freshStage.program job).Makes (.order job.request.role job.issuance.domains) := by
    unfold freshStage
    cases job.request.user with
    | none => exact paying
    | some user => exact IssuanceStage.makes_of_later (.granted user) paying
  refine IssuanceStage.makes_of_later (.owner 0) ?_
  rw [firstStage_of_hopeful hopeful]
  cases job.previous with
  | none => exact fresh
  | some previous =>
      refine IssuanceStage.makes_of_later (.paidRenewal previous) ?_
      refine IssuanceStage.makes_of_later (.notRenewed previous (.orderFailed .noDomains)) ?_
      exact IssuanceStage.makes_of_later .paidFailure fresh

end Hopeful

end IssuanceJob

namespace IssuanceJob

/-- An issuance asks an authority for its own names, or to renew its own
certificate, and only if there is somebody and something to ask for; and it starts
nothing. -/
def Allows
    (job : IssuanceJob) :
    GatewayCall → Prop
  | .order role domains =>
      ¬ job.IsHopeless ∧ role = job.request.role ∧ domains = job.issuance.domains
  | .renew role previous =>
      ¬ job.IsHopeless ∧ role = job.request.role ∧ job.previous = some previous
  | .startObtaining _ => False
  | _ => True

end IssuanceJob

theorem IssuanceStage.allows_of_moves
    {job : IssuanceJob}
    {stage : IssuanceStage}
    {expenses : List Exchange}
    {call : GatewayCall}
    {answer : call.Answer}
    {later : IssuanceProgress}
    (books : stage.Books job expenses)
    (moves : stage.Moves job call answer later) :
    job.Allows call := by
  cases moves with
  | renewed previous issued | notRenewed previous reason => exact ⟨books.1, rfl, books.2.1⟩
  | ordered issued | refused reason => exact ⟨books.1, rfl, rfl⟩
  | _ => trivial

theorem IssuanceProgress.allows_of_makes
    {job : IssuanceJob}
    {progress : IssuanceProgress}
    {transcript : List Exchange}
    {call : GatewayCall}
    (books : progress.Books job transcript)
    (makes : (progress.program job).Makes call) :
    job.Allows call := by
  generalize isProgram : progress.program job = program at makes
  induction makes generalizing progress transcript with
  | @now call next =>
      cases progress with
      | ended result => cases isProgram
      | on stage =>
          obtain ⟨later, moves, -⟩ := IssuanceStage.moves_of_program isProgram call.someAnswer
          exact IssuanceStage.allows_of_moves books.1 moves
  | later answer _ inductionHypothesis =>
      obtain ⟨later, moves, isLater⟩ := IssuanceProgress.follows job isProgram answer
      exact inductionHypothesis (IssuanceProgress.books_moves books moves) isLater.symm

namespace Gateway

open HostName

variable {gateway : Gateway} {request : ObtainRequest} {job : IssuanceJob}

theorem allows_of_makes
    {call : GatewayCall}
    (isJob : gateway.job? request = some job)
    (makes : (gateway.obtain request).Makes call) :
    job.Allows call := by
  have books : (IssuanceProgress.on .claiming).Books job [] := ⟨rfl, rfl⟩
  rw [obtain_eq, isJob] at makes
  exact IssuanceProgress.allows_of_makes books makes

/-- The order that a request can come to. -/
theorem makes_order_iff
    {role : AuthorityRole}
    {domains : List String}
    (isJob : gateway.job? request = some job) :
    (gateway.obtain request).Makes (.order role domains) ↔
      ¬ job.IsHopeless ∧ role = job.request.role ∧ domains = job.issuance.domains := by
  refine ⟨allows_of_makes isJob, ?_⟩
  rintro ⟨hopeful, rfl, rfl⟩
  rw [obtain_eq, isJob]
  exact job.makes_order hopeful

/-- The renewal that a request can come to. -/
theorem makes_renewal_iff
    {role : AuthorityRole}
    {previous : CertificateResource}
    (isJob : gateway.job? request = some job) :
    (gateway.obtain request).Makes (.renew role previous) ↔
      ¬ job.IsHopeless ∧ role = job.request.role ∧ job.previous = some previous := by
  refine ⟨allows_of_makes isJob, ?_⟩
  rintro ⟨hopeful, rfl, isPrevious⟩
  rw [obtain_eq, isJob]
  exact job.makes_renewal hopeful isPrevious

theorem not_makes_of_no_job
    {call : GatewayCall}
    (noJob : gateway.job? request = none) :
    ¬ (gateway.obtain request).Makes call := by
  intro makes
  rw [obtain_eq, noJob] at makes
  cases makes

/-! ## Clients that prove no wildcards -/

/-- A request can have an authority asked for some names. -/
def AsksFor
    (gateway : Gateway)
    (request : ObtainRequest)
    (role : AuthorityRole)
    (names : List String) :
    Prop :=
  ∃ call, (gateway.obtain request).Makes call ∧ call.namesAsked? = some (role, names)

/-- The names of a request that its client can be asked for, in their normal
form. -/
def provableNames
    (client : AuthorityClient)
    (request : ObtainRequest) :
    List String :=
  Issuance.provable client.supportsWildcards (request.domains.map fold)

/-- The certificate that a request has renewed first: one that an authority
issued. -/
def issuedPrevious (request : ObtainRequest) : Option CertificateResource :=
  request.previous.filter fun resource => resource.origin = .acme

section Client

variable {client : AuthorityClient} (isClient : gateway.client? request.role = some client)

include isClient

/-- What a request to a client asks for; without names there is nothing. -/
theorem job?_of_client :
    gateway.job? request = none ∧ request.domains = [] ∨
      ∃ job,
        gateway.job? request = some job ∧
          job.request = request ∧
          (job.IsHopeless ↔ provableNames client request = []) ∧
          job.issuance.domains = provableNames client request := by
  unfold job? Issuance.ofRequest? provableNames
  cases named : request.domains with
  | nil => exact Or.inl ⟨rfl, rfl⟩
  | cons first rest =>
      refine Or.inr ⟨_, rfl, rfl, ?_, ?_⟩
      · simp [IssuanceJob.IsHopeless, isClient]
      · simp [isClient]

theorem makes_order_iff_of_client
    {role : AuthorityRole}
    {domains : List String} :
    (gateway.obtain request).Makes (.order role domains) ↔
      provableNames client request ≠ [] ∧
        role = request.role ∧ domains = provableNames client request := by
  rcases job?_of_client isClient with ⟨noJob, nameless⟩ | ⟨job, isJob, rfl, hopeless, names⟩
  · refine iff_of_false (not_makes_of_no_job noJob) fun hopeful => hopeful.1 ?_
    rw [provableNames, nameless]
    rfl
  · rw [makes_order_iff isJob, hopeless, names]

theorem makes_renewal_iff_of_client
    {role : AuthorityRole}
    {previous : CertificateResource} :
    (gateway.obtain request).Makes (.renew role previous) ↔
      provableNames client request ≠ [] ∧
        role = request.role ∧ issuedPrevious request = some previous := by
  rcases job?_of_client isClient with ⟨noJob, nameless⟩ | ⟨job, isJob, rfl, hopeless, names⟩
  · refine iff_of_false (not_makes_of_no_job noJob) fun hopeful => hopeful.1 ?_
    rw [provableNames, nameless]
    rfl
  · rw [makes_renewal_iff isJob, hopeless]
    rfl

/-- The lists of names that an authority can be asked for. -/
theorem asksFor_iff
    {role : AuthorityRole}
    {names : List String} :
    gateway.AsksFor request role names ↔
      provableNames client request ≠ [] ∧
        role = request.role ∧
        (names = provableNames client request ∨
          ∃ previous,
            issuedPrevious request = some previous ∧ previous.renewalDomains = .ok names) := by
  constructor
  · rintro ⟨call, makes, isAsked⟩
    cases call with
    | order role domains =>
        cases isAsked
        obtain ⟨hopeful, isRole, isDomains⟩ := (makes_order_iff_of_client isClient).mp makes
        exact ⟨hopeful, isRole, Or.inl isDomains⟩
    | renew role previous =>
        obtain ⟨hopeful, isRole, isPrevious⟩ := (makes_renewal_iff_of_client isClient).mp makes
        simp only [GatewayCall.namesAsked?] at isAsked
        cases isLeaf : previous.renewalDomains with
        | error error => simp [isLeaf, Except.toOption] at isAsked
        | ok domains =>
            rw [isLeaf] at isAsked
            cases isAsked
            exact ⟨hopeful, isRole, Or.inr ⟨previous, isPrevious, isLeaf⟩⟩
    | _ => cases isAsked
  · rintro ⟨hopeful, rfl, rfl | ⟨previous, isPrevious, isLeaf⟩⟩
    · exact ⟨_, (makes_order_iff_of_client isClient).mpr ⟨hopeful, rfl, rfl⟩, rfl⟩
    · refine ⟨_, (makes_renewal_iff_of_client isClient).mpr ⟨hopeful, rfl, isPrevious⟩, ?_⟩
      simp [GatewayCall.namesAsked?, isLeaf, Except.toOption]

/-- What a client that proves no wildcards is asked for.  A fresh order has the names
of the request in normal form, without the first one if that begins with a star; a
renewal has the names on the leaf of the certificate of the request, if an authority
issued it.  So the client is asked for a wildcard, whatever the calls are answered,
only if one stands behind the first name or on that leaf; and if one does, and a name
is left to ask for, some answers lead to it. -/
theorem unprovable_wildcard_is_asked_iff
    (noWildcards : client.supportsWildcards = false) :
    let names := Issuance.provable false (request.domains.map fold)
    let previous := request.previous.filter fun resource => resource.origin = .acme
    (∀ role asked,
      gateway.AsksFor request role asked →
      role = request.role ∧
        (asked = names ∨
          ∃ resource, previous = some resource ∧ resource.renewalDomains = .ok asked)) ∧
    ((∃ role asked, gateway.AsksFor request role asked ∧ ∃ name ∈ asked, IsWildcard name) ↔
      (∃ name ∈ request.domains.tail, IsWildcard (fold name)) ∨
        names ≠ [] ∧
          ∃ resource leaf,
            previous = some resource ∧
              resource.leafDomains = .ok leaf ∧ ∃ name ∈ leaf, IsWildcard name) := by
  intro names previous
  have isNames : provableNames client request = names := by rw [provableNames, noWildcards]
  have asksFor (role : AuthorityRole) (asked : List String) :
      gateway.AsksFor request role asked ↔
        names ≠ [] ∧
          role = request.role ∧
          (asked = names ∨
            ∃ resource, previous = some resource ∧ resource.renewalDomains = .ok asked) := by
    rw [asksFor_iff isClient, isNames]
    rfl
  have inOrder :
      (∃ name ∈ names, IsWildcard name) ↔
        ∃ name ∈ request.domains.tail, IsWildcard (fold name) := by
    rw [Issuance.exists_wildcard_provable_iff, ← List.map_tail]
    constructor
    · rintro ⟨name, member, starred⟩
      obtain ⟨given, there, rfl⟩ := List.mem_map.mp member
      exact ⟨given, there, starred⟩
    · rintro ⟨given, member, starred⟩
      exact ⟨fold given, List.mem_map_of_mem member, starred⟩
  refine ⟨?lists, ?wildcard, ?reached⟩
  case lists => exact fun role asked asks => ((asksFor role asked).mp asks).2
  case wildcard =>
    rintro ⟨role, asked, asks, starred⟩
    obtain ⟨hopeful, -, rfl | ⟨resource, isPrevious, isLeaf⟩⟩ := (asksFor role asked).mp asks
    · exact Or.inl (inOrder.mp starred)
    · obtain ⟨leaf, isNamed, starred⟩ :=
        CertificateResource.exists_wildcard_renewalDomains_iff.mp ⟨asked, isLeaf, starred⟩
      exact Or.inr ⟨hopeful, resource, leaf, isPrevious, isNamed, starred⟩
  case reached =>
    rintro (behind | ⟨hopeful, resource, leaf, isPrevious, isNamed, starred⟩)
    · obtain ⟨name, member, starred⟩ := inOrder.mpr behind
      have hopeful : names ≠ [] := List.ne_nil_of_mem member
      exact ⟨_, names, (asksFor _ names).mpr ⟨hopeful, rfl, Or.inl rfl⟩, name, member, starred⟩
    · obtain ⟨asked, isLeaf, starred⟩ :=
        CertificateResource.exists_wildcard_renewalDomains_iff.mpr ⟨leaf, isNamed, starred⟩
      exact ⟨_, asked, (asksFor _ asked).mpr ⟨hopeful, rfl, Or.inr ⟨resource, isPrevious, isLeaf⟩⟩,
        starred⟩

end Client

/-- A request for the primary certificate through a client that proves no
wildcards. -/
def pagesRequest : ObtainRequest where
  domains := ["*.Pages.example.org", "pages.example.org"]

/-- The wildcard comes first, so the client is asked for the other name only. -/
theorem first_wildcard_is_dropped :
    SmallGateway.gateway.client? pagesRequest.role = some ⟨false⟩ ∧
      (∀ role asked,
        SmallGateway.gateway.AsksFor pagesRequest role asked →
        asked = ["pages.example.org"]) ∧
      ¬ ∃ role asked,
        SmallGateway.gateway.AsksFor pagesRequest role asked ∧ ∃ name ∈ asked, IsWildcard name := by
  have isClient : SmallGateway.gateway.client? pagesRequest.role = some ⟨false⟩ := rfl
  obtain ⟨lists, wildcards⟩ := unprovable_wildcard_is_asked_iff isClient rfl
  have isNames :
      Issuance.provable false (pagesRequest.domains.map fold) = ["pages.example.org"] := by
    decide +kernel
  refine ⟨isClient, fun role asked asks => ?_, fun starred => ?_⟩
  · rcases (lists role asked asks).2 with same | ⟨resource, isPrevious, -⟩
    · exact same.trans isNames
    · cases isPrevious
  · rcases wildcards.mp starred with ⟨name, member, starred⟩ | ⟨-, resource, leaf, isPrevious, -⟩
    · obtain rfl := List.mem_singleton.mp member
      exact absurd starred (by decide +kernel)
    · cases isPrevious

/-- A request that has a wildcard behind its first name. -/
def mixedRequest : ObtainRequest where
  domains := ["a.example.com", "*.b.example.com"]

/-- The client proves no wildcards and is asked for one. -/
theorem second_wildcard_is_ordered :
    SmallGateway.gateway.client? mixedRequest.role = some ⟨false⟩ ∧
      SmallGateway.gateway.AsksFor mixedRequest .general ["a.example.com", "*.b.example.com"] ∧
      IsWildcard "*.b.example.com" := by
  have isClient : SmallGateway.gateway.client? mixedRequest.role = some ⟨false⟩ := rfl
  have isNames :
      provableNames ⟨false⟩ mixedRequest = ["a.example.com", "*.b.example.com"] := by
    decide +kernel
  refine ⟨isClient, (asksFor_iff isClient).mpr ⟨?_, rfl, Or.inl isNames.symm⟩, by decide +kernel⟩
  rw [isNames]
  exact List.cons_ne_nil _ _

/-! ## Requests through any client -/

theorem not_asks_of_no_client
    {call : GatewayCall}
    (noClient : gateway.client? request.role = none)
    (asks : call.AsksAuthority) :
    ¬ (gateway.obtain request).Makes call := by
  cases isJob : gateway.job? request with
  | none => exact not_makes_of_no_job isJob
  | some job =>
      intro makes
      obtain ⟨-, isClient, -⟩ := job?_eq_some isJob
      have hopeless : job.IsHopeless := Or.inl (isClient.trans noClient)
      have allowed := allows_of_makes isJob makes
      cases call with
      | order role domains => exact allowed.1 hopeless
      | renew role previous => exact allowed.1 hopeless
      | _ => exact asks

/-- An order is placed for the names that the client of the request can be asked
for. -/
theorem makes_order_iff_provable
    {role : AuthorityRole}
    {domains : List String} :
    (gateway.obtain request).Makes (.order role domains) ↔
      role = request.role ∧
        ∃ client,
          gateway.client? request.role = some client ∧
            domains = provableNames client request ∧ domains ≠ [] := by
  cases isClient : gateway.client? request.role with
  | none =>
      refine iff_of_false (not_asks_of_no_client isClient trivial) ?_
      rintro ⟨-, client, missing, -⟩
      cases missing
  | some client =>
      rw [makes_order_iff_of_client isClient]
      constructor
      · rintro ⟨hopeful, isRole, rfl⟩
        exact ⟨isRole, client, rfl, rfl, hopeful⟩
      · rintro ⟨isRole, same, isSame, rfl, hopeful⟩
        cases isSame
        exact ⟨hopeful, isRole, rfl⟩

/-- Whoever asks an authority may come to a fresh order. -/
theorem makes_order_of_asks
    {call : GatewayCall}
    (asks : call.AsksAuthority)
    (makes : (gateway.obtain request).Makes call) :
    ∃ role domains, (gateway.obtain request).Makes (.order role domains) := by
  cases isJob : gateway.job? request with
  | none => exact absurd makes (not_makes_of_no_job isJob)
  | some job =>
      have hopeful : ¬ job.IsHopeless := by
        have allowed := allows_of_makes isJob makes
        cases call with
        | order role domains => exact allowed.1
        | renew role previous => exact allowed.1
        | _ => exact asks.elim
      exact ⟨_, _, (makes_order_iff isJob).mpr ⟨hopeful, rfl, rfl⟩⟩

/-- An authority can be asked if there is one, and a name to ask it for. -/
theorem exists_asks_iff :
    (∃ call, GatewayCall.AsksAuthority call ∧ (gateway.obtain request).Makes call) ↔
      ∃ client, gateway.client? request.role = some client ∧ provableNames client request ≠ [] := by
  constructor
  · rintro ⟨call, asks, makes⟩
    obtain ⟨role, domains, ordered⟩ := makes_order_of_asks asks makes
    obtain ⟨-, client, isClient, rfl, hopeful⟩ := makes_order_iff_provable.mp ordered
    exact ⟨client, isClient, hopeful⟩
  · rintro ⟨client, isClient, hopeful⟩
    have ordered := makes_order_iff_provable.mpr ⟨rfl, client, isClient, rfl, hopeful⟩
    exact ⟨.order request.role (provableNames client request), trivial, ordered⟩

end Gateway

end OnDemandTls
