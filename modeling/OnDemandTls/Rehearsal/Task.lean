import OnDemandTls.Acme.Client
import OnDemandTls.Gateway.Maintenance
import OnDemandTls.Rehearsal.ScriptedAuthority

namespace OnDemandTls

/-!
# Rehearsed tasks

Programs of a gateway become tasks of a rehearsal by interpretation: an order goes
to a scripted authority, or to a client of a scripted server, and a call that
writes to the disk waits until nothing else can go on.
-/

/-- How tasks end. -/
inductive TaskResult where
  | resolved (result : Except ResolveError CertifiedKey)
  | obtained (result : Except ObtainError CertificateResource)
  | issued (result : Except AuthorityError CertificateResource)
  | swept (result : Except StoreError MaintenanceReport)
  | finished

/-- The calls of rehearsed tasks. -/
inductive RehearsalCall where
  | gateway (call : GatewayCall)
  | acme (call : AcmeCall)
  | milliseconds
  | sleepUntil (instant : Nat)
  /-- Sleep until an instant, unless maintenance stops before. -/
  | restUntil (instant : Nat)
  /-- Wait for as long as a call would take to reach the disk. -/
  | awaitDisk (call : GatewayCall)
  /-- Ask a scripted authority: how long it takes, and how it will end. -/
  | askAuthority (role : AuthorityRole) (domains : List String)
  | authorityAnswer (role : AuthorityRole) (domains : List String) (outcome : ScriptedOutcome)

/-- What the calls of rehearsed tasks are answered with. -/
abbrev RehearsalCall.Answer : RehearsalCall → Type
  | gateway call => call.Answer
  | acme call => call.Answer
  | milliseconds => Nat
  | sleepUntil _ => Unit
  | restUntil _ => Unit
  | awaitDisk _ => Unit
  | askAuthority _ _ => Nat × ScriptedOutcome
  | authorityAnswer _ _ _ => Except AuthorityError CertificateResource

/-- What rehearsed tasks run against. -/
abbrev rehearsalCalls : Interface where
  Call := RehearsalCall
  Answer := RehearsalCall.Answer

namespace RehearsalCall

/-- The program that makes a call and ends in its answer. -/
abbrev ask (call : RehearsalCall) : Program rehearsalCalls call.Answer :=
  Program.ask (I := rehearsalCalls) call

end RehearsalCall

/-- What stands for an authority in a rehearsal. -/
inductive RehearsedClient where
  | scripted (supportsWildcards : Bool)
  /-- A client that talks to the scripted server. -/
  | acme (client : AcmeClient)
  deriving DecidableEq, Repr

namespace RehearsedClient

/-- The client as a gateway knows it. -/
def known : RehearsedClient → AuthorityClient
  | scripted supportsWildcards => ⟨supportsWildcards⟩
  | acme client => ⟨client.supportsWildcards⟩

end RehearsedClient

/-- A gateway that is rehearsed. -/
structure Rehearsal where
  primaryDomain : PrimaryDomain
  authority : DomainAuthority
  general : Option RehearsedClient
  primary : Option RehearsedClient

namespace Rehearsal

/-- The gateway that is rehearsed. -/
def gateway (rehearsal : Rehearsal) : Gateway where
  primaryDomain := rehearsal.primaryDomain
  authority := rehearsal.authority
  general := rehearsal.general.map RehearsedClient.known
  primary := rehearsal.primary.map RehearsedClient.known

/-- What stands for the authority of a use. -/
def client?
    (rehearsal : Rehearsal) :
    AuthorityRole → Option RehearsedClient
  | .general => rehearsal.general
  | .primary => rehearsal.primary

/-- Sleep for some time. -/
def sleep (milliseconds : Nat) : Program rehearsalCalls Unit := do
  let now ← RehearsalCall.milliseconds.ask
  (RehearsalCall.sleepUntil (now + milliseconds)).ask

/-- What a call of a client does in a rehearsal. -/
def acmeMeaning
    (call : AcmeCall) :
    Program rehearsalCalls call.Answer :=
  match call with
  | .pause milliseconds => sleep milliseconds
  | call => (RehearsalCall.acme call).ask

/-- Have a certificate issued for some names. -/
def order
    (rehearsal : Rehearsal)
    (role : AuthorityRole)
    (domains : List String) :
    Program rehearsalCalls (Except AuthorityError CertificateResource) := do
  match rehearsal.client? role with
  | some (.acme client) => (client.obtain domains).interpret acmeMeaning
  | _ =>
      let (delay, outcome) ← (RehearsalCall.askAuthority role domains).ask
      sleep delay
      (RehearsalCall.authorityAnswer role domains outcome).ask

/-- Have a certificate issued for the names of an older one. -/
def renew
    (rehearsal : Rehearsal)
    (role : AuthorityRole)
    (previous : CertificateResource) :
    Program rehearsalCalls (Except AuthorityError CertificateResource) :=
  match previous.renewalDomains with
  | .error error => .done (.error (.invalidCertificate error))
  | .ok domains => rehearsal.order role domains

/-- Make a call when nothing else can go on, if it writes to the disk. -/
def throughDisk
    (call : GatewayCall) :
    Program rehearsalCalls call.Answer := do
  (RehearsalCall.awaitDisk call).ask
  (RehearsalCall.gateway call).ask

/-- What a call of a gateway does in a rehearsal. -/
def meaning
    (rehearsal : Rehearsal)
    (call : GatewayCall) :
    Program rehearsalCalls call.Answer :=
  match call with
  | .order role domains => rehearsal.order role domains
  | .renew role previous => rehearsal.renew role previous
  | .putRecord name resource => throughDisk (.putRecord name resource)
  | .deleteRecord name => throughDisk (.deleteRecord name)
  | .compactStore => throughDisk .compactStore
  | .rest interval => do
      let now ← RehearsalCall.milliseconds.ask
      (RehearsalCall.restUntil (now + 1000 * interval)).ask
  | call => (RehearsalCall.gateway call).ask

/-- A program of the gateway as a task. -/
def task
    {α : Type}
    (rehearsal : Rehearsal)
    (program : GatewayProgram α)
    (result : α → TaskResult) :
    Program rehearsalCalls TaskResult :=
  (program.interpret rehearsal.meaning).bind (fun value => .done (result value))

/-- The task that obtains a certificate. -/
def obtaining
    (rehearsal : Rehearsal)
    (request : ObtainRequest) :
    Program rehearsalCalls TaskResult :=
  rehearsal.task (rehearsal.gateway.obtain request) .obtained

end Rehearsal

end OnDemandTls
