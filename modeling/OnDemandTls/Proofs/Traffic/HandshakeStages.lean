import OnDemandTls.Gateway.Resolution
import OnDemandTls.Proofs.Traffic.IssuanceStages

namespace OnDemandTls

/-!
# Stages of a handshake

The program that chooses the certificate for a handshake as a machine with one
stage for each of its calls.  While a certificate is obtained for the client,
the stages are those of the issuance.  The machine and the program agree call by
call: `HandshakeStage.moves_of_program` and `HandshakeStage.program_of_moves`.
-/

/-- Where the program that chooses a certificate stands: before which call. -/
inductive HandshakeStage where
  /-- A validation handshake asks for its staged answer. -/
  | validating (name : String)
  | seekingReady (target : ServingTarget) (name : String)
  | seekingRecord (target : ServingTarget) (name : String)
  /-- The time decides whether a stored certificate is renewed on the side. -/
  | dating (target : ServingTarget) (name : String) (resource : CertificateResource)
  | launching
      (target : ServingTarget)
      (name : String)
      (resource : CertificateResource)
      (request : ObtainRequest)
  | obtaining (target : ServingTarget) (name : String) (stage : IssuanceStage)
  /-- Nothing was obtained; the client gets a mock. -/
  | datingFallback (target : ServingTarget) (name : String) (reason : ObtainError)
  | storingFallback
      (target : ServingTarget)
      (name : String)
      (reason : ObtainError)
      (mock : CertificateResource)
  | keeping (key : String) (certified : CertifiedKey)
  | finished (result : Except ResolveError CertifiedKey)

namespace Gateway

/-- The issuance for a client that waits. -/
def clientJob
    (gateway : Gateway)
    (target : ServingTarget)
    (name : String) :
    IssuanceJob :=
  let domains :=
    Issuance.provable ((gateway.general.map AuthorityClient.supportsWildcards).getD false)
      [HostName.fold name]
  { client := gateway.general
    issuance :=
      { key := HostName.storeKey (HostName.fold name)
        subject :=
          match domains with
          | subject :: _ => subject
          | [] =>
              String.ofList
                (HostName.dropLeadingDots (HostName.storeKey (HostName.fold name)).toList)
        domains := domains }
    request := { domains := [name], user := target.user } }

/-- What a client asks for is always an issuance. -/
theorem job?_client
    (gateway : Gateway)
    (target : ServingTarget)
    (name : String) :
    gateway.job? { domains := [name], user := target.user } =
      some (gateway.clientJob target name) := by
  unfold job? clientJob Issuance.ofRequest? client?
  cases gateway.general <;> rfl

/-- How a validation handshake ends, given the staged answer or its absence. -/
def validationResult
    (name : String) :
    Option String → Except ResolveError CertifiedKey
  | none => .error (.noChallenge name)
  | some keyAuthorization =>
      match ValidationCertificate.make? name keyAuthorization with
      | none => .error .challenge
      | some certified => .ok certified

/-- A validation handshake asks for its staged answer and ends. -/
theorem resolveChallenge_eq (name : String) :
    resolveChallenge name =
      .call (.stagedAnswer name) fun answer => .done (validationResult name answer) := by
  refine congrArg (Program.call (I := gatewayCalls) (GatewayCall.stagedAnswer name))
    (funext fun answer => ?_)
  cases answer with
  | none => rfl
  | some keyAuthorization =>
      unfold validationResult
      simp only [Program.bind]
      cases ValidationCertificate.make? name keyAuthorization <;> rfl

end Gateway

namespace HandshakeStage

/-- What follows once there is a resource to serve. -/
def serve
    (target : ServingTarget)
    (name : String)
    (resource : CertificateResource) :
    HandshakeStage :=
  match resource.certifiedKey with
  | .error reason => .finished (.error (.unusable name reason))
  | .ok certified => .keeping target.key certified

/-- What follows the answer to a validation handshake. -/
def validated
    (name : String) :
    Option String → HandshakeStage
  | none => .finished (.error (.noChallenge name))
  | some keyAuthorization =>
      match ValidationCertificate.make? name keyAuthorization with
      | none => .finished (.error .challenge)
      | some certified => .finished (.ok certified)

/-- What follows when nothing is stored. -/
def missing
    (target : ServingTarget)
    (name : String) :
    HandshakeStage :=
  if target.primary then
    .finished (.error .noPrimaryCertificate)
  else if target.issuanceAllowed then
    .obtaining target name .claiming
  else
    .finished (.error (.issuanceNotAllowed name))

/-- What follows when a certificate is stored. -/
def found
    (target : ServingTarget)
    (name : String)
    (resource : CertificateResource) :
    HandshakeStage :=
  if target.primary then serve target name resource else .dating target name resource

/-- What follows when the time of a stored certificate is known. -/
def dated
    (target : ServingTarget)
    (name : String)
    (resource : CertificateResource)
    (second : Int) :
    HandshakeStage :=
  match Gateway.renewalRequest? target.key resource second with
  | none => serve target name resource
  | some request => .launching target name resource request

/-- What follows a step of the issuance for a client that waits. -/
def proceed
    (target : ServingTarget)
    (name : String) :
    IssuanceProgress → HandshakeStage
  | .on stage => .obtaining target name stage
  | .ended (.ok resource) => serve target name resource
  | .ended (.error reason) => .datingFallback target name reason

def opening
    (gateway : Gateway)
    (serverName : Option String)
    (protocols : List String) :
    HandshakeStage :=
  match (serverName.map HostName.asked).filter (· ≠ "") with
  | none => .finished (.error .missingName)
  | some name =>
      if protocols.contains validationProtocol then
        .validating name
      else
        .seekingReady (gateway.classify name) name

/-- The end of a handshake that has a resource to serve. -/
def serving
    (target : ServingTarget)
    (name : String)
    (resource : CertificateResource) :
    GatewayProgram (Except ResolveError CertifiedKey) :=
  match resource.certifiedKey with
  | .error reason => .done (.error (.unusable name reason))
  | .ok certified => .call (.keepReady target.key certified) fun _ => .done (.ok certified)

/-- The end of a handshake whose resource may be missing. -/
def conclude
    (target : ServingTarget)
    (name : String) :
    Except ResolveError CertificateResource →
      GatewayProgram (Except ResolveError CertifiedKey)
  | .error error => .done (.error error)
  | .ok resource => serving target name resource

/-- A mock for a client that could get nothing else. -/
def fallBack
    (target : ServingTarget)
    (name : String)
    (reason : ObtainError) :
    GatewayProgram (Except ResolveError CertifiedKey) :=
  .call .clock fun second =>
    match Mock.make name reason.message second with
    | .error error => .done (.error (.certificate (.mock error)))
    | .ok mock => .call (.putRecord target.key mock) fun _ => serving target name mock

/-- What follows the issuance for a client that waits. -/
def afterObtaining
    (target : ServingTarget)
    (name : String) :
    Except ObtainError CertificateResource →
      GatewayProgram (Except ResolveError CertifiedKey)
  | .ok resource => serving target name resource
  | .error reason => fallBack target name reason

/-- What is left of the program at a stage. -/
def program
    (gateway : Gateway) :
    HandshakeStage → GatewayProgram (Except ResolveError CertifiedKey)
  | validating name => Gateway.resolveChallenge name
  | seekingReady target name => gateway.resolveTarget target name
  | seekingRecord target name => (gateway.stored target name).bind (conclude target name)
  | dating target name resource =>
      .call .clock fun second =>
        match Gateway.renewalRequest? target.key resource second with
        | none => serving target name resource
        | some request => .call (.startObtaining request) fun _ => serving target name resource
  | launching target name resource request =>
      .call (.startObtaining request) fun _ => serving target name resource
  | obtaining target name stage =>
      (stage.program (gateway.clientJob target name)).bind (afterObtaining target name)
  | datingFallback target name reason => fallBack target name reason
  | storingFallback target name _ mock =>
      .call (.putRecord target.key mock) fun _ => serving target name mock
  | keeping key certified => .call (.keepReady key certified) fun _ => .done (.ok certified)
  | finished result => .done result

/-- The calls of a handshake and where their answers lead. -/
inductive Moves (gateway : Gateway) :
    HandshakeStage → (call : GatewayCall) → call.Answer → HandshakeStage → Prop where
  | validated (name : String) (answer : Option String) :
      Moves gateway (.validating name) (.stagedAnswer name) answer (validated name answer)
  | ready (target : ServingTarget) (name : String) (certified : CertifiedKey) :
      Moves gateway (.seekingReady target name) (.findReady target.key) (some certified)
        (.finished (.ok certified))
  | notReady (target : ServingTarget) (name : String) :
      Moves gateway (.seekingReady target name) (.findReady target.key) none
        (.seekingRecord target name)
  | unreadable (target : ServingTarget) (name : String) (error : StoreError) :
      Moves gateway (.seekingRecord target name) (.findRecord target.key) (.error error)
        (.finished (.error (.store error)))
  | found (target : ServingTarget) (name : String) (resource : CertificateResource) :
      Moves gateway (.seekingRecord target name) (.findRecord target.key) (.ok (some resource))
        (found target name resource)
  | missing (target : ServingTarget) (name : String) :
      Moves gateway (.seekingRecord target name) (.findRecord target.key) (.ok none)
        (missing target name)
  | dated
      (target : ServingTarget)
      (name : String)
      (resource : CertificateResource)
      (second : Int) :
      Moves gateway (.dating target name resource) .clock second
        (dated target name resource second)
  | launched
      (target : ServingTarget)
      (name : String)
      (resource : CertificateResource)
      (request : ObtainRequest)
      (number : Nat) :
      Moves gateway (.launching target name resource request) (.startObtaining request) number
        (serve target name resource)
  | issuance
      {target : ServingTarget}
      {name : String}
      {stage : IssuanceStage}
      {call : GatewayCall}
      {answer : call.Answer}
      {later : IssuanceProgress} :
      IssuanceStage.Moves (gateway.clientJob target name) stage call answer later →
      Moves gateway (.obtaining target name stage) call answer (proceed target name later)
  | fallback
      {target : ServingTarget}
      {name : String}
      {reason : ObtainError}
      {second : Int}
      {mock : CertificateResource} :
      Mock.make name reason.message second = .ok mock →
      Moves gateway (.datingFallback target name reason) .clock second
        (.storingFallback target name reason mock)
  | noFallback
      {target : ServingTarget}
      {name : String}
      {reason : ObtainError}
      {second : Int}
      {error : MockError} :
      Mock.make name reason.message second = .error error →
      Moves gateway (.datingFallback target name reason) .clock second
        (.finished (.error (.certificate (.mock error))))
  | fallbackStored
      (target : ServingTarget)
      (name : String)
      (reason : ObtainError)
      (mock : CertificateResource)
      (answer : Except StoreError Unit) :
      Moves gateway (.storingFallback target name reason mock) (.putRecord target.key mock) answer
        (serve target name mock)
  | kept (key : String) (certified : CertifiedKey) :
      Moves gateway (.keeping key certified) (.keepReady key certified) ()
        (.finished (.ok certified))

/-! ## Programs of stages -/

@[simp] theorem program_serve
    (gateway : Gateway)
    (target : ServingTarget)
    (name : String)
    (resource : CertificateResource) :
    (serve target name resource).program gateway = serving target name resource := by
  unfold serve serving
  cases resource.certifiedKey <;> rfl

@[simp] theorem program_proceed
    (gateway : Gateway)
    (target : ServingTarget)
    (name : String)
    (progress : IssuanceProgress) :
    (proceed target name progress).program gateway =
      (progress.program (gateway.clientJob target name)).bind (afterObtaining target name) := by
  cases progress with
  | on stage => rfl
  | ended result =>
      cases result with
      | ok resource => exact program_serve gateway target name resource
      | error reason => rfl

theorem program_opening
    (gateway : Gateway)
    (serverName : Option String)
    (protocols : List String) :
    (opening gateway serverName protocols).program gateway =
      gateway.resolve serverName protocols := by
  unfold opening Gateway.resolve
  cases (serverName.map HostName.asked).filter (· ≠ "") with
  | none => rfl
  | some name =>
      simp only
      split <;> rfl

theorem persistMock_bind
    (target : ServingTarget)
    (name : String)
    (reason : ObtainError) :
    ((Gateway.persistMock target.key name reason.message).bind fun
        | .ok mock => .done (.ok mock)
        | .error error => .done (.error (.certificate error))).bind (conclude target name) =
      fallBack target name reason := by
  refine congrArg (Program.call (I := gatewayCalls) GatewayCall.clock) (funext fun second => ?_)
  simp only [Program.bind]
  cases Mock.make name reason.message second <;> rfl

/-- What is obtained while a client waits begins with a claim. -/
theorem obtainForClient_bind
    (gateway : Gateway)
    (target : ServingTarget)
    (name : String) :
    (gateway.obtainForClient target name).bind (conclude target name) =
      (HandshakeStage.obtaining target name .claiming).program gateway := by
  have begins :
      gateway.obtain { domains := [name], user := target.user } =
        IssuanceStage.claiming.program (gateway.clientJob target name) := by
    rw [gateway.obtain_eq, gateway.job?_client]
  change Program.bind (Program.bind (gateway.obtain _) _) _ = _
  rw [begins, Program.bind_bind]
  refine congrArg (Program.bind _) (funext fun result => ?_)
  cases result with
  | ok resource => rfl
  | error reason => exact persistMock_bind target name reason

@[simp] theorem program_missing
    (gateway : Gateway)
    (target : ServingTarget)
    (name : String) :
    (missing target name).program gateway =
      Program.bind
        (if target.primary then
          .done (.error .noPrimaryCertificate)
        else if target.issuanceAllowed then
          gateway.obtainForClient target name
        else
          .done (.error (.issuanceNotAllowed name)))
        (conclude target name) := by
  unfold missing
  split
  · rfl
  · split
    · exact (obtainForClient_bind gateway target name).symm
    · rfl

@[simp] theorem program_dated
    (gateway : Gateway)
    (target : ServingTarget)
    (name : String)
    (resource : CertificateResource)
    (second : Int) :
    (dated target name resource second).program gateway =
      match Gateway.renewalRequest? target.key resource second with
      | none => serving target name resource
      | some request => .call (.startObtaining request) fun _ => serving target name resource := by
  unfold dated
  cases Gateway.renewalRequest? target.key resource second with
  | none => exact program_serve gateway target name resource
  | some request => rfl

theorem program_found
    (gateway : Gateway)
    (target : ServingTarget)
    (name : String)
    (resource : CertificateResource) :
    (found target name resource).program gateway =
      Program.bind
        (if target.primary then
          .done (.ok resource)
        else
          Program.call (I := gatewayCalls) GatewayCall.clock fun second =>
            (Gateway.start (Gateway.renewalRequest? target.key resource second)).bind
              fun _ => .done (.ok resource))
        (conclude target name) := by
  unfold found
  split
  · exact program_serve gateway target name resource
  · refine congrArg (Program.call (I := gatewayCalls) GatewayCall.clock)
      (funext fun second => ?_)
    simp only
    cases Gateway.renewalRequest? target.key resource second <;> rfl

/-- A handshake without a ready certificate looks for a stored one. -/
theorem resolveTarget_eq
    (gateway : Gateway)
    (target : ServingTarget)
    (name : String) :
    gateway.resolveTarget target name =
      .call (.findReady target.key) fun
        | some certified => .done (.ok certified)
        | none => (HandshakeStage.seekingRecord target name).program gateway := by
  refine congrArg (Program.call (I := gatewayCalls) (GatewayCall.findReady target.key))
    (funext fun answer => ?_)
  cases answer with
  | some certified => rfl
  | none =>
      refine congrArg (Program.bind (gateway.stored target name)) (funext fun result => ?_)
      cases result with
      | error error => rfl
      | ok resource =>
          unfold conclude serving
          cases resource.certifiedKey <;> rfl

/-- What is stored decides how a handshake goes on. -/
theorem stored_bind
    (gateway : Gateway)
    (target : ServingTarget)
    (name : String) :
    (gateway.stored target name).bind (conclude target name) =
      .call (.findRecord target.key) fun
        | .error error => .done (.error (.store error))
        | .ok (some resource) => (found target name resource).program gateway
        | .ok none => (missing target name).program gateway := by
  refine congrArg (Program.call (I := gatewayCalls) (GatewayCall.findRecord target.key))
    (funext fun answer => ?_)
  cases answer with
  | error error => rfl
  | ok stored =>
      cases stored with
      | none => exact (program_missing gateway target name).symm
      | some resource => exact (program_found gateway target name resource).symm

theorem program_validated
    (gateway : Gateway)
    (name : String)
    (answer : Option String) :
    (validated name answer).program gateway = .done (Gateway.validationResult name answer) := by
  cases answer with
  | none => rfl
  | some keyAuthorization =>
      simp only [validated, Gateway.validationResult]
      cases ValidationCertificate.make? name keyAuthorization <;> rfl

/-- A staged answer, or its absence, decides a validation handshake. -/
theorem resolveChallenge_eq
    (gateway : Gateway)
    (name : String) :
    Gateway.resolveChallenge name =
      .call (.stagedAnswer name) fun answer => (validated name answer).program gateway := by
  simp only [Gateway.resolveChallenge_eq, program_validated]

/-! ## The machine and the program -/

/-- Every answer to the next call of the program is a move of the machine. -/
theorem moves_of_program
    {gateway : Gateway}
    {stage : HandshakeStage}
    {call : GatewayCall}
    {next : call.Answer → GatewayProgram (Except ResolveError CertifiedKey)}
    (upcoming : stage.program gateway = .call call next)
    (answer : call.Answer) :
    ∃ later, Moves gateway stage call answer later ∧ next answer = later.program gateway := by
  cases stage with
  | validating name =>
      rw [program, resolveChallenge_eq gateway] at upcoming
      cases upcoming
      exact ⟨_, .validated name answer, rfl⟩
  | seekingReady target name =>
      rw [program, resolveTarget_eq] at upcoming
      cases upcoming
      cases answer with
      | some certified => exact ⟨_, .ready target name certified, rfl⟩
      | none => exact ⟨_, .notReady target name, rfl⟩
  | seekingRecord target name =>
      rw [program, stored_bind] at upcoming
      cases upcoming
      cases answer with
      | error error => exact ⟨_, .unreadable target name error, rfl⟩
      | ok stored =>
          cases stored with
          | some resource => exact ⟨_, .found target name resource, rfl⟩
          | none => exact ⟨_, .missing target name, rfl⟩
  | dating target name resource =>
      cases upcoming
      exact ⟨_, .dated target name resource answer,
        (program_dated gateway target name resource answer).symm⟩
  | launching target name resource request =>
      cases upcoming
      exact ⟨_, .launched target name resource request answer,
        (program_serve gateway target name resource).symm⟩
  | obtaining target name stage =>
      obtain ⟨callInside, nextInside, inside⟩ :=
        stage.program_eq_call (gateway.clientJob target name)
      rw [program, inside] at upcoming
      cases upcoming
      obtain ⟨later, moves, nextIs⟩ := IssuanceStage.moves_of_program inside answer
      refine ⟨_, .issuance moves, ?_⟩
      rw [program_proceed, ← nextIs]
  | datingFallback target name reason =>
      cases upcoming
      cases made : Mock.make name reason.message answer with
      | error error => exact ⟨_, .noFallback made, by simp only [made]; rfl⟩
      | ok mock => exact ⟨_, .fallback made, by simp only [made]; rfl⟩
  | storingFallback target name reason mock =>
      cases upcoming
      exact ⟨_, .fallbackStored target name reason mock answer,
        (program_serve gateway target name mock).symm⟩
  | keeping key certified =>
      cases upcoming
      exact ⟨_, .kept key certified, rfl⟩
  | finished result => cases upcoming

/-- Every move of the machine is an answer to the next call of the program. -/
theorem program_of_moves
    {gateway : Gateway}
    {stage later : HandshakeStage}
    {call : GatewayCall}
    {answer : call.Answer}
    (moves : Moves gateway stage call answer later) :
    ∃ next : call.Answer → GatewayProgram (Except ResolveError CertifiedKey),
      stage.program gateway = .call call next ∧ later.program gateway = next answer := by
  cases moves with
  | validated name answer => exact ⟨_, resolveChallenge_eq gateway name, rfl⟩
  | ready target name certified => exact ⟨_, resolveTarget_eq gateway target name, rfl⟩
  | notReady target name => exact ⟨_, resolveTarget_eq gateway target name, rfl⟩
  | unreadable target name error => exact ⟨_, stored_bind gateway target name, rfl⟩
  | found target name resource => exact ⟨_, stored_bind gateway target name, rfl⟩
  | missing target name => exact ⟨_, stored_bind gateway target name, rfl⟩
  | dated target name resource second =>
      exact ⟨_, rfl, program_dated gateway target name resource second⟩
  | launched target name resource request number =>
      exact ⟨_, rfl, program_serve gateway target name resource⟩
  | @issuance target name stage call answer later moves =>
      obtain ⟨next, upcoming, laterIs⟩ := IssuanceStage.program_of_moves moves
      refine ⟨fun answer => (next answer).bind (afterObtaining target name), ?_, ?_⟩
      · rw [program, upcoming]
        rfl
      · rw [program_proceed, laterIs]
  | fallback made => exact ⟨_, rfl, by simp only [made]; rfl⟩
  | noFallback made => exact ⟨_, rfl, by simp only [made]; rfl⟩
  | fallbackStored target name reason mock answer =>
      exact ⟨_, rfl, program_serve gateway target name mock⟩
  | kept key certified => exact ⟨_, rfl, rfl⟩

/-- A handshake whose program has come to its end is over. -/
theorem over_of_done
    {gateway : Gateway}
    {stage : HandshakeStage}
    {result : Except ResolveError CertifiedKey}
    (ended : stage.program gateway = .done result) :
    stage = .finished result := by
  cases stage with
  | seekingReady target name =>
      rw [program, resolveTarget_eq] at ended
      cases ended
  | seekingRecord target name =>
      rw [program, stored_bind] at ended
      cases ended
  | validating name =>
      rw [program, resolveChallenge_eq gateway] at ended
      cases ended
  | obtaining target name inner =>
      obtain ⟨call, next, inside⟩ := inner.program_eq_call (gateway.clientJob target name)
      rw [program, inside] at ended
      cases ended
  | finished value =>
      cases ended
      rfl
  | _ => cases ended

/-! ## Handshakes that end -/

section Ends

variable {gateway : Gateway} {target : ServingTarget} {name : String}
variable {resource : CertificateResource} {result : Except ResolveError CertifiedKey}

/-- A handshake that has a resource ends at once only if that cannot be used. -/
theorem of_serve_eq_finished
    (ends : serve target name resource = .finished result) :
    ∃ reason, resource.certifiedKey = .error reason ∧ result = .error (.unusable name reason) := by
  unfold serve at ends
  cases isKey : resource.certifiedKey with
  | error reason =>
      rw [isKey] at ends
      cases ends
      exact ⟨reason, rfl, rfl⟩
  | ok certified =>
      rw [isKey] at ends
      cases ends

theorem of_found_eq_finished
    (ends : found target name resource = .finished result) :
    ∃ reason, resource.certifiedKey = .error reason ∧ result = .error (.unusable name reason) := by
  unfold found at ends
  split at ends
  · exact of_serve_eq_finished ends
  · cases ends

theorem of_dated_eq_finished
    {second : Int}
    (ends : dated target name resource second = .finished result) :
    ∃ reason, resource.certifiedKey = .error reason ∧ result = .error (.unusable name reason) := by
  unfold dated at ends
  cases due : Gateway.renewalRequest? target.key resource second with
  | none =>
      rw [due] at ends
      exact of_serve_eq_finished ends
  | some request =>
      rw [due] at ends
      cases ends

/-- Where nothing is stored, a handshake ends at once for a primary name or for
one that no certificate may be issued for. -/
theorem of_missing_eq_finished
    (ends : missing target name = .finished result) :
    (target.primary = true ∧ result = .error .noPrimaryCertificate) ∨
      (target.issuanceAllowed = false ∧ result = .error (.issuanceNotAllowed name)) := by
  unfold missing at ends
  split at ends
  · rename_i isPrimary
    cases ends
    exact Or.inl ⟨isPrimary, rfl⟩
  · split at ends
    · cases ends
    · rename_i refused
      cases ends
      exact Or.inr ⟨Bool.eq_false_iff.mpr refused, rfl⟩

theorem of_proceed_eq_finished
    {progress : IssuanceProgress}
    (ends : proceed target name progress = .finished result) :
    ∃ issued reason,
      progress = .ended (.ok issued) ∧
        issued.certifiedKey = .error reason ∧
        result = .error (.unusable name reason) := by
  match progress with
  | .on stage => cases ends
  | .ended (.error reason) => cases ends
  | .ended (.ok issued) =>
      obtain ⟨reason, isFault, isResult⟩ := of_serve_eq_finished ends
      exact ⟨issued, reason, rfl, isFault, isResult⟩

end Ends

end HandshakeStage

end OnDemandTls
