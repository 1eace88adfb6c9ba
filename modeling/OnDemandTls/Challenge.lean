import OnDemandTls.HostName
import OnDemandTls.TimedCatalog

namespace OnDemandTls

/-!
# Challenges

An authority checks the control of a name by a challenge, in one of three ways.
The answers to HTTP and TLS challenges are staged in a timed catalog under keys
of their own (`ChallengeResponse.stageKey?`); the answer to a DNS challenge is a
record outside the gateway.
-/

/-- The ways in which an authority checks a name. -/
inductive ChallengeType where
  | http01
  | dns01
  | tlsAlpn01
  deriving DecidableEq, Repr

namespace ChallengeType

/-- The name of a challenge type between the authority and its clients. -/
def name : ChallengeType → String
  | http01 => "http-01"
  | dns01 => "dns-01"
  | tlsAlpn01 => "tls-alpn-01"

/-- The title of a challenge type in messages. -/
def title : ChallengeType → String
  | http01 => "Http01"
  | dns01 => "Dns01"
  | tlsAlpn01 => "TlsAlpn01"

end ChallengeType

/-- The answer to one challenge. -/
structure ChallengeResponse where
  /-- The name being validated, without leading wildcards. -/
  domain : String
  type : ChallengeType
  token : String
  keyAuthorization : String
  /-- Value of the record that answers a DNS challenge. -/
  dnsValue : String
  deriving DecidableEq, Repr

/-- The protocol that clients of a validation handshake offer. -/
def validationProtocol : String := "acme-tls/1"

/-- Staged answers under their keys. -/
abbrev StagedChallenges := TimedCatalog String

namespace StagedChallenges

/-- How many milliseconds a staged answer stays valid. -/
def lifetime : Nat := 60 * 60 * 1000

end StagedChallenges

namespace ChallengeResponse

/-- The key under which an answer is staged: the name for a TLS challenge, the
name and the token for an HTTP challenge. -/
def stageKey? (response : ChallengeResponse) : Option String :=
  match response.type with
  | .tlsAlpn01 => some response.domain
  | .http01 => some (HostName.httpChallengeKey response.domain response.token)
  | .dns01 => none

/-- Stage an answer. -/
def stage
    (response : ChallengeResponse)
    (staged : StagedChallenges)
    (now : Nat) :
    StagedChallenges :=
  match response.stageKey? with
  | some key => staged.file key response.keyAuthorization (now + StagedChallenges.lifetime)
  | none => staged

/-- Take a staged answer away. -/
def unstage
    (response : ChallengeResponse)
    (staged : StagedChallenges) :
    StagedChallenges :=
  match response.stageKey? with
  | some key => staged.remove key
  | none => staged

end ChallengeResponse

end OnDemandTls
