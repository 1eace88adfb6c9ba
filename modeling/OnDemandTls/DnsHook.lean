import OnDemandTls.Acme.Failure

namespace OnDemandTls

/-!
# DNS hooks

Records that answer DNS challenges are published by a program outside the
gateway.  It is told what to do, the name of the record and its value, and says
by the way it ends whether that worked.
-/

/-- A program that publishes records. -/
structure DnsHook where
  path : String
  deriving DecidableEq, Repr

/-- What came of running a program: how it ended, and what it wrote about that. -/
structure HookRun where
  ending : Except OsError ProgramEnd
  diagnostics : String
  deriving Repr

/-- A change of a record that a hook is asked for. -/
structure RecordChange where
  action : HookAction
  name : String
  value : String
  deriving DecidableEq, Repr

namespace RecordChange

/-- The change that deploys the answer to a challenge, or cleans it up. -/
def ofResponse
    (action : HookAction)
    (domain value : String) :
    RecordChange where
  action := action
  name := HostName.challengeRecord domain
  value := value

end RecordChange

namespace DnsHook

/-- The name of the only provider of DNS records. -/
def providerName : String := "exec"

/-- The hook of a provider; its program is named by the environment. -/
def ofProvider
    (provider : String)
    (environment : Option String) :
    Except ClientFault DnsHook :=
  if provider = providerName then
    match environment.filter (· ≠ "") with
    | some path => .ok ⟨path⟩
    | none => .error .noHookProgram
  else
    .error (.unknownProvider provider)

/-- Whether a run did what was asked for. -/
def verdict
    (hook : DnsHook)
    (action : HookAction)
    (run : HookRun) :
    Except HookFailure Unit :=
  match run.ending with
  | .error error => .error (.notStarted hook.path error)
  | .ok (.exited 0) => .ok ()
  | .ok ending => .error (.failed hook.path action ending run.diagnostics)

end DnsHook

end OnDemandTls
