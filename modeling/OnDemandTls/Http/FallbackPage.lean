import OnDemandTls.Challenge
import OnDemandTls.Http.PlainAnswer

namespace OnDemandTls

/-!
# Answers over encrypted connections

Once a handshake has been completed, requests are answered with a notice that
there is no page, under the name that the certificate was chosen for.  The
connections of validation handshakes carry no requests.
-/

namespace FallbackPage

/-- Whether a connection carries requests, given the protocol that was agreed
on. -/
def carriesRequests (protocol : Option String) : Bool :=
  protocol != some validationProtocol

/-- The notice that there is no page under a name. -/
def notice (serverName path : String) : PlainAnswer :=
  .text 404 ("pagesgate: no page handler configured for " ++ serverName ++ path ++ "\n")

/-- The answer to a request over a connection, if it carries requests. -/
def respond?
    (protocol : Option String)
    (serverName : String)
    (target : RequestTarget) :
    Option PlainAnswer :=
  if carriesRequests protocol then some (notice serverName target.path) else none

end FallbackPage

end OnDemandTls
