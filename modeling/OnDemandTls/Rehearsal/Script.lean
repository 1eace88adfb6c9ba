import OnDemandTls.Config.Document
import OnDemandTls.Gateway.Clients
import OnDemandTls.Rehearsal.Report

namespace OnDemandTls

/-!
# Scripts

A script is a document that says what a rehearsed gateway is made of, how its
authorities behave, and which steps are taken.  It is read leniently: what is
missing counts as empty.  `Script.play` takes the steps and reports on each.
-/

namespace Script

open Document

/-! ## Hooks -/

/-- The path of the hook. -/
def hookPath : String := "$ROOT/hook.sh"

/-- A hook. -/
def hook (script : Document) : ScriptedHook where
  hook := ⟨hookPath⟩
  condition :=
    match script.textAt "kind" with
    | "missing" => .missing
    | "not_executable" => .notExecutable
    | "killed" => .killed
    | _ => .sound
  failOn := script.textAt? "fail_on"
  exitCode := script.naturalAt "exit"
  diagnostics := script.textAt "stderr"

/-- What the environment says about the program of a hook. -/
def hookEnvironment (script : Document) : Option String :=
  match script.textAt "kind" with
  | "unset" => none
  | "empty" => some ""
  | _ => some hookPath

/-! ## Authorities -/

/-- The failure of a kind that a scripted authority has in given words. -/
def refusal (kind words : String) : AuthorityError :=
  match kind with
  | "ChallengeFailed" => .challengeFailed (.other words)
  | "CertGeneration" => .generation words
  | "InvalidCertificate" => .invalidCertificate (.invalid (.other words))
  | "Config" => .configuration (.other words)
  | _ => .orderFailed (.other words)

/-- The outcome of a request. -/
def outcome (script : Document) : ScriptedOutcome :=
  match script.asText?, script.textAt? "fail" with
  | some "bad_key", _ => .unusableKey
  | _, some words => .refusal (refusal (script.textAt "kind") words)
  | _, none =>
      .certificate
        (if script.has "names" then some (script.textsAt "names") else none)
        (script.integerAt? "valid_for")

/-- The outcomes of requests, one after another. -/
def outcomes (script : Document) : List ScriptedOutcome :=
  (script.itemsAt "outcomes").map outcome

/-- Seconds for which certificates are valid unless a script says otherwise. -/
def usualValidity : Int := 90 * 24 * 60 * 60

/-- An authority. -/
def authority
    (label : String)
    (script : Document) :
    ScriptedAuthority where
  label := label
  supportsWildcards := script.flagAt "wildcard"
  delay := script.naturalAt "delay_ms"
  validFor := (script.integerAt? "valid_for").getD usualValidity
  outcomes := outcomes script
  asked := 0
  issued := 0

/-! ## Servers -/

/-- A part of a problem. -/
def subproblem (script : Document) : Subproblem where
  identifier := (script.member "identifier").textAt? "value"
  detail := script.textAt? "detail"
  type := script.textAt? "type"

/-- A problem. -/
def problem (script : Document) : AcmeProblem where
  detail := script.textAt? "detail"
  type := script.textAt? "type"
  subproblems := (script.itemsAt "subproblems").map subproblem

/-- How an authorization stands; only a valid one leaves nothing to do. -/
def authorizationStatus : String → AuthorizationStatus
  | "valid" => .valid
  | "pending" | "invalid" | "revoked" | "expired" | "deactivated" => .open
  | _ => .unreadable

/-- An authorization. -/
def authorization (script : Document) : ScriptedAuthorization where
  fetchProblem := script.memberAs? problem "fetch_error"
  status := authorizationStatus ((script.textAt? "status").getD "pending")
  types :=
    if script.has "types" then
      script.textsAt "types"
    else
      [ChallengeType.http01, .dns01, .tlsAlpn01].map ChallengeType.name
  identifier := script.textAt? "identifier"
  wildcard := script.flagAt? "wildcard"
  readyProblem := script.memberAs? problem "ready_error"
  challengeProblem := script.memberAs? problem "challenge_error"

/-- How an order stands, each time it is asked about. -/
def statuses
    (script : Document)
    (name : String) :
    List (Option OrderStatus) :=
  (script.textsAt name).map fun word => OrderStatus.names.lookup word

/-- An order. -/
def order (script : Document) : ScriptedOrder where
  openProblem := script.memberAs? problem "new_order_error"
  authorizations := (script.itemsAt "authz").map authorization
  statuses := statuses script "polls"
  finalStatuses := statuses script "final_polls"
  orderProblem := script.memberAs? problem "order_error"
  finalizeProblem := script.memberAs? problem "finalize_error"
  chain := script.textAt? "certificate"
  withIntermediate := script.flagAt "intermediate"
  validFor := (script.integerAt? "valid_for").getD usualValidity

/-- A server. -/
def server (script : Document) : ScriptedServer :=
  .ofScripts ((script.itemsAt "orders").map order)

/-- The thumbprint of the account on the server. -/
def thumbprint : String := "CdiznY-cyjYqyzhZlrR9EFX3c04SnJV4BuzDtyNklsQ"

/-! ## Gateways -/

/-- The configured domains of a script; those that cannot be read are passed
over. -/
def customDomains (script : Document) : List CustomDomain :=
  (script.itemsAt "custom_domains").filterMap fun domain =>
    (CustomDomain.shape.read .json domain).toOption

/-- The rehearsal of a gateway: its authorities are clients of the server, if
the script has one, and scripted ones otherwise. -/
def rehearsal (script : Document) : Except ClientFault Rehearsal := do
  let gateway : Rehearsal :=
    { primaryDomain := .ofSuffix ((script.textAt? "suffix").getD "pages.example.org")
      authority := (ClaimRegister.ofDomains (customDomains script)).lookup
      general := none
      primary := none }
  if script.has "acme" then
    let account := script.member "acme"
    let clients ←
      AccountClients.make thumbprint (account.flagAt "http_challenges")
        (account.textAt? "dns_provider") (hookEnvironment (account.member "hook"))
    return {
      gateway with
      general := some (.acme clients.general)
      primary := some (.acme clients.primary) }
  else
    let client (name : String) : Option RehearsedClient :=
      script.memberAs? (fun authority => .scripted (authority.flagAt "wildcard")) name
    return { gateway with general := client "general", primary := client "primary" }

/-- The world of a script with an opened store. -/
def world
    (script : Document)
    (store : CertificateStore)
    (tree : FileTree) :
    World where
  store := store
  tree := tree
  faults := []
  storeCalls := 0
  compactions := 0
  locks := .empty
  budgets := .fresh (script.flagAt "rate_limits") 0
  staged := .empty
  readyCertificates := .empty
  general := authority "general" (script.member "general")
  primary := authority "primary" (script.member "primary")
  server := server (script.member "acme")
  hook := hook ((script.member "acme").member "hook")
  events := []
  hookLines := []
  stopsAt := none

/-! ## Certificates and requests -/

/-- Where a certificate comes from. -/
def certificateSource (step : Document) : CertificateSource :=
  let issue := step.member "issue"
  let mock := step.member "mock"
  if step.has "stored" then
    .stored (step.textAt "stored")
  else if step.flagAt "last" then
    .aside
  else if step.has "issue" then
    let names := issue.textsAt "names"
    .issued ((issue.textAt? "cn").getD "given") ((issue.textAt? "domain").getD (names.headD ""))
      names (issue.integerAt "valid_for")
  else if step.has "mock" then
    .mock (mock.textAt "domain") (mock.textAt "message")
  else
    .absent

/-- A certificate with changes. -/
def certificate (step : Document) : CertificateSpec where
  source := certificateSource step
  validTill := (step.integerAt? "valid_till").map (· + World.epoch)
  retryAfter := (step.integerAt? "retry_after").map (· + World.epoch)
  origin := (step.textAt? "origin").map fun word => if word = "mock" then .mock else .acme
  chain := step.textAt? "chain"
  privateKey := step.textAt? "private_key"

/-- A request for a certificate. -/
def request (step : Document) : RequestSpec where
  domains := step.textsAt "domains"
  previous := certificate (step.member "previous")
  user := step.textAt? "user"
  role := if step.flagAt "primary" then .primary else .general

/-- The failures of store calls. -/
def faults (step : Document) : List (StoreOperation × StoreError) :=
  let operations : List (String × StoreOperation) :=
    [ ("put", .put), ("get", .get), ("delete", .delete), ("items", .items)
    , ("compact", .compact), ("close", .close) ]
  operations.filterMap fun (name, operation) =>
    ((step.member "ops").textAt? name).map fun
      | "closed" => (operation, .closed)
      | "invalid" => (operation, .invalid (.other "injected"))
      | _ => (operation, .io (.other "injected"))

/-- Versions of the handshake. -/
def versions (step : Document) : List TlsVersion :=
  (step.textsAt "versions").filterMap fun
    | "1.2" => some .v12
    | "1.3" => some .v13
    | _ => none

/-! ## Steps -/

/-- A document beside a state. -/
def reported
    {α σ : Type}
    (write : α → Document)
    (outcome : α × σ) :
    Document × σ :=
  (write outcome.1, outcome.2)

/-- Take a step that obtains or renews certificates. -/
def obtainingStep?
    (session : RehearsalSession)
    (step : Document) :
    Option (Document × RehearsalSession) :=
  let key := step.textAt "key"
  match step.textAt "do" with
  | "obtain" => some (reported Report.obtained (session.obtain (request step)))
  | "obtain_many" =>
      let specs := (step.itemsAt "requests").map request
      some (reported (.sequence <| ·.map Report.obtained) (session.obtainMany specs))
  | "ensure_primary" => some (reported Report.obtained session.ensurePrimary)
  | "persist_mock" =>
      some (reported Report.obtained
        (session.persistMock key (step.textAt "subject") (step.textAt "message")))
  | "schedule_renewal" =>
      some (reported Report.renewal
        (session.scheduleRenewal key (certificate step) (step.integerAt "now_offset")))
  | "schedule_primary" =>
      some (reported Report.renewal
        (session.schedulePrimary (certificate step) (step.integerAt "now_offset")))
  | "obtain_behind_lock" =>
      let write := fun (waiting, obtained) =>
        record [("waiting", .boolean waiting), ("result", Report.obtained obtained)]
      some (reported write
        (session.obtainBehindLock (step.textAt "name") (request step) (step.naturalAt "hold_ms")
          (certificate (step.member "then_put"))))
  | _ => none

/-- Take a step that serves clients. -/
def servingStep?
    (session : RehearsalSession)
    (step : Document) :
    Option (Document × RehearsalSession) :=
  match step.textAt "do" with
  | "resolve" =>
      some (reported Report.resolved
        (session.resolve (step.textAt? "sni") (step.textsAt "alpn")))
  | "resolve_many" =>
      let names := (step.itemsAt "snis").map Document.asText?
      some (reported (.sequence <| ·.map Report.resolved) (session.resolveMany names))
  | "handshake" =>
      some (reported (.optional Report.handshake)
        (session.handshake (step.textAt? "sni") (step.textsAt "alpn") (versions step)))
  | "invalidate" => some (.null, session.invalidate (step.textAt "domain"))
  | "purge_resolver" => some (reported count session.purgeReady)
  | _ => none

/-- Take a step of maintenance. -/
def maintenanceStep?
    (session : RehearsalSession)
    (step : Document) :
    Option (Document × RehearsalSession) :=
  let interval := step.naturalAt "interval_secs"
  match step.textAt "do" with
  | "sweep" =>
      some (reported (.optional (.result Report.maintenance Report.storeFailure))
        (session.sweep interval (step.flagAt "with_resolver")))
  | "run" =>
      let write := fun cycles => record [("stopped", .boolean true), ("cycles", count cycles)]
      some (reported write
        (session.maintain interval (step.naturalAt "for_ms") (step.flagAt "cancelled")))
  | _ => none

/-- Take a step that changes the world around a gateway. -/
def outerStep
    (session : RehearsalSession)
    (step : Document) :
    Document × RehearsalSession :=
  let key := step.textAt "key"
  match step.textAt "do" with
  | "hold" => (.null, session.putAside (certificate step))
  | "put" => (.boolean true, session.put key (certificate step))
  | "delete" => (.boolean true, session.delete key)
  | "challenge" =>
      let lifetime := ((step.integerAt? "ttl_ms").getD StagedChallenges.lifetime).toNat
      (.null, session.stage key (step.textAt "value") lifetime)
  | "advance" => (.null, session.advance (step.naturalAt "ms"))
  | "fault" => (.null, session.setFaults (faults step))
  | "outcomes" =>
      let role : AuthorityRole := if step.textAt "ca" = "primary" then .primary else .general
      (.null, session.setOutcomes role (outcomes step))
  | "lock" =>
      let write := fun taken => string (if taken then "owner" else "busy")
      reported write (session.lock (step.textAt "name"))
  | "unlock" => reported .boolean (session.unlock (step.textAt "name"))
  | "naming" =>
      let primary := session.rehearsal.primaryDomain
      (record [("key", .string primary.key), ("domains", texts primary.domains)], session)
  | _ => (.null, session)

/-- Take a step. -/
def takeStep
    (session : RehearsalSession)
    (step : Document) :
    Document × RehearsalSession :=
  (obtainingStep? session step).getD <|
    (servingStep? session step).getD <|
      (maintenanceStep? session step).getD <| outerStep session step

/-- A session with the text of the store that was reported last. -/
structure Play where
  session : RehearsalSession
  lastStore : Option String

/-- A member that is left out if a list is empty. -/
def unlessEmpty
    (name : String)
    (items : List Document) :
    List (String × Document) :=
  if items.isEmpty then [] else [(name, .sequence items)]

/-- A member that is left out if a count is zero. -/
def unlessZero
    (name : String)
    (n : Nat) :
    List (String × Document) :=
  if n = 0 then [] else [(name, count n)]

/-- Take a step, let the session settle, and report. -/
def reportedStep
    (play : Play)
    (step : Document) :
    Document × Play :=
  let before := play.session
  let (result, session) := takeStep before step
  let took := session.now - before.now
  let session := if step.flagAt "nosettle" then session.settleBriefly else session.settle
  let untouched := session.world.storeCalls = before.world.storeCalls
  let ((events, hookLines), session) := session.readLog
  let store := Report.records session.world.store.records
  let storeText := Json.compact store
  let report :=
    [("result", result), ("t_ms", count session.now)]
      ++ unlessZero "took_ms" took
      ++ (if untouched then [("store_untouched", .boolean true)] else [])
      ++ unlessEmpty "events" (events.map Report.event)
      ++ unlessEmpty "hook" (hookLines.map .string)
      ++ unlessZero "challenges" session.world.staged.size
      ++ unlessZero "locks" session.world.locks.size
      ++ (if play.lastStore = some storeText then [] else [("store", store)])
  (record report, ⟨session, some storeText⟩)

/-- Take steps one after another, and report on each. -/
def takeSteps
    {σ : Type}
    (state : σ)
    (take : σ → Document → Document × σ) :
    List Document → List Document
  | [] => []
  | step :: rest =>
      let (report, state) := take state step
      report :: takeSteps state take rest

/-- The settings of a script's store. -/
def storeSettings (script : Document) : DatabaseSettings where
  engine := if script.textAt "store" = "file" then .file else .memory
  path := "$ROOT/certs.json"

/-- Play a script with the files of a tree. -/
def play
    (tree : FileTree)
    (script : Document) :
    Document :=
  match rehearsal script, CertificateStore.ofSettings tree (storeSettings script) with
  | .error fault, _ => Report.authorityFailure (.configuration fault)
  | .ok _, (.error error, _) => Report.storeFailure error
  | .ok rehearsal, (.ok store, tree) =>
      let session := RehearsalSession.start rehearsal (world script store tree)
      .sequence (takeSteps ⟨session, none⟩ reportedStep (script.itemsAt "steps"))

/-! ## Hooks and clients alone -/

/-- The change that a step asks of a hook. -/
def recordChange (step : Document) : RecordChange :=
  match step.textAt "do" with
  | "present" => ⟨.present, step.textAt "fqdn", step.textAt "value"⟩
  | "cleanup" => ⟨.cleanup, step.textAt "fqdn", step.textAt "value"⟩
  | "deploy_challenge" =>
      .ofResponse .present (step.textAt "domain") (step.textAt "dns_value")
  | _ => .ofResponse .cleanup (step.textAt "domain") (step.textAt "dns_value")

/-- Play a script of a hook alone. -/
def playHook (script : Document) : Document :=
  let scripted := hook (script.member "hook")
  let provider :=
    if script.flagAt "direct" then
      .ok scripted.hook
    else
      DnsHook.ofProvider (script.textAt "provider") (hookEnvironment (script.member "hook"))
  match provider with
  | .error fault => Report.authorityFailure (.configuration fault)
  | .ok hook =>
      let change (step : Document) : Document :=
        let (answer, lines) := { scripted with hook := hook }.change (recordChange step)
        record
          [ ("result", .result (fun () => .string "ok") Report.authorityFailure answer)
          , ("calls", texts lines) ]
      .sequence (.string DnsHook.providerName :: (script.itemsAt "steps").map change)

/-- A type of challenges. -/
def challengeType : String → ChallengeType
  | "http-01" => .http01
  | "dns-01" => .dns01
  | _ => .tlsAlpn01

/-- The first certificate of an armoured text, by its common name. -/
def commonName (text : String) : Document :=
  .optional .string <|
    ((CertificateResource.chainOf text).toOption.bind fun (bytes, _) =>
      Certificate.read? bytes).bind fun certificate =>
        certificate.subjectText? Identifier.commonName

/-- A certificate that a client has obtained. -/
def collected (resource : CertificateResource) : Document :=
  record (Report.resourceMembers resource ++
    [ ("issuer", commonName resource.issuerCertificate)
    , ("has_key", .boolean (resource.privateKey ≠ "")) ])

/-- Play a script of a client alone: it orders a certificate, or renews one. -/
def playClient
    (tree : FileTree)
    (script : Document) :
    Document :=
  let client : AcmeClient := ⟨thumbprint, (script.textsAt "handlers").map challengeType⟩
  let rehearsal : Rehearsal :=
    { primaryDomain := ⟨""⟩, authority := fun _ => none
      general := some (.acme client), primary := none }
  let world :=
    { world script (.memory .empty) tree with
      server := server script
      hook := hook (script.member "hook") }
  let session := RehearsalSession.start rehearsal world
  let renewal := script.member "renew"
  let program :=
    if script.has "renew" then
      let names := renewal.textsAt "names"
      let domain := (renewal.textAt? "domain").getD (names.headD "")
      match session.source (.issued "given" domain names usualValidity) with
      | some previous => rehearsal.renew .general previous
      | none => .done (.error (.orderFailed .noDomains))
    else
      rehearsal.order .general (script.textsAt "domains")
  let (result, session) :=
    session.run (program.bind (fun result => .done (.issued result)))
  let ((events, hookLines), session) := session.readLog
  record
    [ ("challenge_types", texts (client.responders.map ChallengeType.title))
    , ("supports_wildcard", .boolean client.supportsWildcards)
    , ("result",
        match result with
        | some (.issued result) => .result collected Report.authorityFailure result
        | _ => .null)
    , ("events", .sequence (events.map Report.event))
    , ("hook_after", texts hookLines)
    , ("challenges_left", count session.world.staged.size) ]

end Script

end OnDemandTls
