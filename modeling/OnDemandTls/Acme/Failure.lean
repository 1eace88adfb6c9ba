import OnDemandTls.CertificateResource
import OnDemandTls.Challenge
import OnDemandTls.Text.Quoted

namespace OnDemandTls

/-!
# Failures of issuance

Why an authority, or a client that talks to one, gives no certificate.
-/

/-- A part of a problem, which may be about one name. -/
structure Subproblem where
  identifier : Option String
  detail : Option String
  type : Option String
  deriving DecidableEq, Repr

/-- A refusal as an authority words it. -/
structure AcmeProblem where
  detail : Option String
  type : Option String
  subproblems : List Subproblem
  deriving DecidableEq, Repr

/-- Why a conversation with an authority fails. -/
inductive ProtocolFault where
  /-- The authority says no. -/
  | refused (problem : AcmeProblem)
  /-- The authority's answer cannot be read. -/
  | unreadable
  /-- An order did not change for too long. -/
  | timedOut
  /-- An answer does not have what it must have. -/
  | missingData (what : String)
  /-- The certificate cannot be asked for. -/
  | ungenerated
  /-- There is no way to the authority. -/
  | unreachable
  /-- The key of the account is of no use. -/
  | unusableKey
  deriving DecidableEq, Repr

/-- How a program ended. -/
inductive ProgramEnd where
  | exited (code : Nat)
  | killed
  deriving DecidableEq, Repr

/-- What a DNS hook is asked to do with a record. -/
inductive HookAction where
  | present
  | cleanup
  deriving DecidableEq, Repr

/-- Why a DNS hook does not do what it is asked to. -/
inductive HookFailure where
  | notStarted (path : String) (error : OsError)
  | failed (path : String) (action : HookAction) (ending : ProgramEnd) (diagnostics : String)
  deriving DecidableEq, Repr

/-- Why a challenge cannot be answered. -/
inductive ChallengeFault where
  /-- None of the challenges offered for a name is of a configured type. -/
  | noSupportedType (identifier : String) (configured : List ChallengeType)
  | hookFailed (failure : HookFailure)
  /-- Any other reason, in its own words. -/
  | other (text : String)
  deriving DecidableEq, Repr

/-- The stages of an order. -/
inductive OrderStatus where
  | pending
  | ready
  | processing
  | valid
  | invalid
  deriving DecidableEq, Repr

/-- Why an order fails. -/
inductive OrderFault where
  | noDomains
  | notReady (status : OrderStatus)
  /-- Any other reason, in its own words. -/
  | other (text : String)
  deriving DecidableEq, Repr

/-- Why a client of an authority cannot be set up. -/
inductive ClientFault where
  | unknownProvider (name : String)
  | noHookProgram
  /-- Any other reason, in its own words. -/
  | other (text : String)
  deriving DecidableEq, Repr

/-- Why an authority gives no certificate. -/
inductive AuthorityError where
  | protocol (fault : ProtocolFault)
  | challengeFailed (fault : ChallengeFault)
  | orderFailed (fault : OrderFault)
  | generation (text : String)
  | invalidCertificate (error : StoreError)
  | configuration (fault : ClientFault)
  deriving DecidableEq, Repr

namespace Subproblem

/-- The text of a subproblem. -/
def message (problem : Subproblem) : String :=
  (match problem.identifier with
    | some identifier => "for \"" ++ identifier ++ "\""
    | none => "") ++
  (match problem.detail with
    | some detail => ": " ++ detail
    | none => "") ++
  (match problem.type with
    | some type => " (" ++ type ++ ")"
    | none => "")

end Subproblem

namespace AcmeProblem

/-- A problem of which nothing is known. -/
def unspecified : AcmeProblem where
  detail := none
  type := none
  subproblems := []

/-- The text of a problem. -/
def message (problem : AcmeProblem) : String :=
  "API error" ++
  (match problem.detail with
    | some detail => ": " ++ detail
    | none => "") ++
  (match problem.type with
    | some type => " (" ++ type ++ ")"
    | none => "") ++
  (match problem.subproblems with
    | [] => ""
    | subproblems =>
        ": " ++ toString subproblems.length ++ " subproblems: " ++
          ", ".intercalate (subproblems.map Subproblem.message))

end AcmeProblem

namespace ProtocolFault

/-- The text of a fault. -/
def message : ProtocolFault → String
  | refused problem => problem.message
  | unreadable => "unreadable answer"
  | timedOut => "timed out waiting for an order update"
  | missingData what => "missing data: " ++ what
  | ungenerated => "no request can be made for the names"
  | unreachable => "the server cannot be reached"
  | unusableKey => "the account key cannot be used"

end ProtocolFault

namespace HookAction

/-- The word for an action. -/
def name : HookAction → String
  | present => "present"
  | cleanup => "cleanup"

end HookAction

namespace ProgramEnd

/-- The text of an ending. -/
def message : ProgramEnd → String
  | exited code => "exit status: " ++ toString code
  | killed => "signal: 9 (SIGKILL)"

end ProgramEnd

namespace HookFailure

/-- The text of a failure; what the program wrote about it stands at the end. -/
def message : HookFailure → String
  | notStarted path error =>
      "Failed to run " ++ Text.quoted path ++ ": " ++ error.message
  | failed path action ending diagnostics =>
      Text.quoted path ++ " " ++ action.name ++ " exited with " ++ ending.message ++ ": " ++
        String.ofList (Text.trim diagnostics.toList)

end HookFailure

namespace ChallengeFault

/-- The text of a fault. -/
def message : ChallengeFault → String
  | noSupportedType identifier configured =>
      "No supported challenge for " ++ identifier ++ " (configured [" ++
        ", ".intercalate (configured.map ChallengeType.title) ++ "])"
  | hookFailed failure => failure.message
  | other text => text

end ChallengeFault

namespace OrderStatus

/-- The stages under their names between an authority and its clients. -/
def names : List (String × OrderStatus) :=
  [ ("pending", pending)
  , ("ready", ready)
  , ("processing", processing)
  , ("valid", valid)
  , ("invalid", invalid) ]

/-- The title of a stage in messages. -/
def title : OrderStatus → String
  | pending => "Pending"
  | ready => "Ready"
  | processing => "Processing"
  | valid => "Valid"
  | invalid => "Invalid"

end OrderStatus

namespace OrderFault

/-- The text of a fault. -/
def message : OrderFault → String
  | noDomains => "No domains requested"
  | notReady status => "Order status is " ++ status.title ++ " (not Ready)"
  | other text => text

end OrderFault

namespace ClientFault

/-- The text of a fault. -/
def message : ClientFault → String
  | unknownProvider name => "Unknown DNS provider: " ++ name
  | noHookProgram => "EXEC_PATH must be set for the exec DNS provider"
  | other text => text

end ClientFault

namespace AuthorityError

/-- The text of an error. -/
def message : AuthorityError → String
  | protocol fault => "🔴 ACME protocol error: " ++ fault.message
  | challengeFailed fault => "⚠️ Challenge failed: " ++ fault.message
  | orderFailed fault => "❌ Order failed: " ++ fault.message
  | generation text => "🔧 Certificate generation error: " ++ text
  | invalidCertificate error => "📜 Invalid certificate: " ++ error.message
  | configuration fault => "⚙️ Configuration error: " ++ fault.message

end AuthorityError

end OnDemandTls
