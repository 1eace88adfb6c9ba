import OnDemandTls.Account
import OnDemandTls.Acme.Client
import OnDemandTls.Config.Validation
import OnDemandTls.Gateway.Issuance
import OnDemandTls.Http.SocketAddress

namespace OnDemandTls

/-!
# Outcomes of commands

What a command is run on, how it can fail, and what it leaves behind.
-/

/-- The network of a machine. -/
structure Network where
  /-- Where accounts are registered. -/
  accounts : AccountService
  /-- What an authority answers to the order of a client. -/
  order : AcmeClient → List String → Except AuthorityError CertificateResource
  /-- Whether a listener can be added to others. -/
  mayListen : List SocketAddress → SocketAddress → Except OsError Unit

namespace Network

/-- A network on which no authority can be reached. -/
def secluded
    (mayListen : List SocketAddress → SocketAddress → Except OsError Unit) :
    Network where
  accounts := .unreachable
  order := fun _ _ => .error (.protocol .unreachable)
  mayListen := mayListen

end Network

/-- What a command is run on, but for the files. -/
structure Machine where
  environment : String → Option String
  /-- The time in seconds. -/
  now : Int
  network : Network

/-- The listeners of a gateway. -/
inductive ListenerKind where
  | http
  | https
  deriving DecidableEq, Repr

namespace ListenerKind

/-- The name of a listener. -/
def name : ListenerKind → String
  | http => "HTTP"
  | https => "HTTPS"

end ListenerKind

/-- Why a command fails. -/
inductive CommandFailure where
  | badConfig (error : ConfigError)
  | storeNotOpened (error : StoreError)
  | storeNotClosed (error : StoreError)
  | notRemoved (domain : String) (error : StoreError)
  | notListed (error : StoreError)
  /-- The primary certificate cannot be looked for. -/
  | primaryNotRead (error : StoreError)
  | primaryNotSetUp (error : ObtainError)
  | accountNotLoaded (error : AccountError)
  /-- The account is registered and cannot be kept: the program is to be started
  again by hand. -/
  | accountNotKept
  | badClient (fault : ClientFault)
  | badAddress (text : String)
  | notBound (listener : ListenerKind) (socket : SocketAddress) (error : OsError)

namespace CommandFailure

/-- What is said about a failure, with given words about a damaged document. -/
def message
    (damagedWords : String) :
    CommandFailure → String
  | badConfig error => error.message damagedWords
  | storeNotOpened _ => "failed to open certificate store"
  | storeNotClosed _ => "failed to close certificate store"
  | notRemoved domain _ => "failed to remove " ++ domain
  | notListed error => error.messageWith damagedWords
  | primaryNotRead _ => "failed to read primary certificate from the store"
  | primaryNotSetUp _ => "failed to set up primary certificate"
  | accountNotLoaded _ => "failed to load ACME account"
  | accountNotKept => "failed to write ACME account"
  | badClient fault => (AuthorityError.configuration fault).message
  | badAddress text => "invalid listen address " ++ text
  | notBound listener socket error =>
      "Server error: Failed to bind " ++ listener.name ++ " listener on " ++ socket.text ++ ": " ++
        error.message

end CommandFailure

/-- A step of a command: it changes files, and ends in a value or fails. -/
abbrev CommandStep (α : Type) := EStateM CommandFailure FileTree α

/-- What a command leaves behind. -/
structure CommandOutcome where
  exitCode : Nat
  /-- What is printed. -/
  output : String := ""
  /-- What is said about a failure. -/
  complaint : String := ""
  tree : FileTree

end OnDemandTls
