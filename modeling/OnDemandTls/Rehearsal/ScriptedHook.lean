import OnDemandTls.DnsHook

namespace OnDemandTls

/-!
# Scripted hooks

A hook that writes a line for every change it is asked for, and then ends as its
script says.
-/

/-- What keeps a hook from being run, or ends it. -/
inductive HookCondition where
  /-- The hook runs to its end. -/
  | sound
  /-- There is no program. -/
  | missing
  /-- The program may not be run. -/
  | notExecutable
  /-- The program is killed at its end. -/
  | killed
  deriving DecidableEq, Repr

/-- A hook with its script. -/
structure ScriptedHook where
  hook : DnsHook
  condition : HookCondition
  /-- The word for the only action that fails; all do if there is none. -/
  failOn : Option String
  exitCode : Nat
  diagnostics : String

namespace ScriptedHook

/-- The lines that a change leaves in the log of a hook. -/
def logLines (change : RecordChange) : List String :=
  (change.action.name ++ "|" ++ change.name ++ "|" ++ change.value).splitOn "\n"

/-- Whether a text can be handed to a program. -/
def canBeHandedOver (text : String) : Bool :=
  !text.toList.contains '\x00'

/-- Run a hook: what comes of it, and the lines that it logs. -/
def run
    (script : ScriptedHook)
    (change : RecordChange) :
    HookRun × List String :=
  if !canBeHandedOver change.name || !canBeHandedOver change.value then
    (⟨.error (.other "nul byte found in provided data"), ""⟩, [])
  else
    match script.condition with
    | .missing => (⟨.error .notFound, ""⟩, [])
    | .notExecutable => (⟨.error .permissionDenied, ""⟩, [])
    | condition =>
        let run :=
          if (script.failOn.getD change.action.name) ≠ change.action.name then
            ⟨.ok (.exited 0), ""⟩
          else if condition = .killed then
            ⟨.ok .killed, script.diagnostics⟩
          else
            ⟨.ok (.exited script.exitCode), script.diagnostics⟩
        (run, logLines change)

/-- Ask a hook for a change: whether that worked, and the lines that it logs. -/
def change
    (script : ScriptedHook)
    (change : RecordChange) :
    Except AuthorityError Unit × List String :=
  let (run, lines) := script.run change
  let verdict := script.hook.verdict change.action run
  (verdict.mapError (fun failure => .challengeFailed (.hookFailed failure)), lines)

end ScriptedHook

end OnDemandTls
