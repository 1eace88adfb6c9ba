import OnDemandTls.Http.Target
import OnDemandTls.HostName
import OnDemandTls.TimedCatalog

namespace OnDemandTls

/-!
# Answers to plain requests

The plain listener answers the validations of an authority from the staged
challenges, and sends everybody else to the encrypted listener: the redirect
keeps the host that was asked for, without its port, and the path and query of
the request.
-/

/-- A request as far as answers depend on it: its target and the bytes of its
`Host` header. -/
structure PlainRequest where
  target : RequestTarget
  hostHeader : Option (List UInt8)

/-- An answer to a request. -/
inductive PlainAnswer where
  /-- A plain text under a status. -/
  | text (status : Nat) (body : String)
  /-- A permanent redirect. -/
  | redirect (location : String)
  deriving DecidableEq, Repr

namespace PlainAnswer

/-- The status of an answer. -/
def status : PlainAnswer → Nat
  | text status _ => status
  | redirect _ => 301

/-- The headers of an answer. -/
def headers : PlainAnswer → List (String × String)
  | text _ _ => [("content-type", "text/plain; charset=utf-8")]
  | redirect location => [("location", location)]

/-- The body of an answer. -/
def body : PlainAnswer → String
  | text _ body => body
  | redirect _ => ""

end PlainAnswer

namespace PlainRequest

/-- The text of a header that has only visible ASCII characters, spaces and tabs. -/
def headerText?
    (bytes : List UInt8) :
    Option (List Char) :=
  if bytes.all (fun b => b == 9 || (32 ≤ b && b < 127)) then
    some (bytes.map (fun b => Char.ofNat b.toNat))
  else
    none

/-- A host without its port: what follows the last colon is a port if it has
only digits and no second colon stands before it. -/
def dropPort (host : List Char) : List Char :=
  let port := (host.reverse.takeWhile (· != ':')).reverse
  match host.reverse.dropWhile (· != ':') with
  | [] => host
  | _ :: name =>
      if name.head? != some ':' && port.all Char.isDigit then name.reverse else host

/-- The host that a request asks for, without its port and in lower case. -/
def host? (request : PlainRequest) : Option String :=
  let written :=
    match request.hostHeader.bind headerText? with
    | some text => some text
    | none => request.target.host?.map String.toList
  match written with
  | none => none
  | some written =>
      let host := Text.lower (Text.trim (dropPort written))
      if host = [] then none else some (String.ofList host)

end PlainRequest

namespace PlainAnswer

/-- Path under which an authority looks for the answers of HTTP challenges. -/
def challengeRoot : String := "/.well-known/acme-challenge/"

/-- The token that a challenge path asks for. -/
def token? (path : String) : Option String :=
  (Text.stripStart? challengeRoot.toList path.toList).map String.ofList

/-- Whether a text can be the value of a header. -/
def isHeaderText (text : String) : Bool :=
  text.toList.all (fun c => c == '\t' || (' ' ≤ c && c != '\x7F'))

/-- Where a request is sent to. -/
def location
    (host : String)
    (httpsPort : UInt16)
    (target : RequestTarget) :
    String :=
  let authority := if httpsPort = 443 then host else host ++ ":" ++ toString httpsPort.toNat
  "https://" ++ authority ++ target.pathAndQuery?.getD "/"

/-- Answer a request from the staged challenges, expired ones of which are
dropped when they are asked for. -/
def respond
    (request : PlainRequest)
    (httpsPort : UInt16)
    (challenges : TimedCatalog String)
    (now : Nat) :
    PlainAnswer × TimedCatalog String :=
  match request.host? with
  | none => (text 400 "Missing Host header", challenges)
  | some host =>
      match token? request.target.path with
      | some token =>
          let (found, challenges) := challenges.get (HostName.httpChallengeKey host token) now
          match found with
          | some answer => (text 200 answer, challenges)
          | none => (text 404 "No challenge for this token", challenges)
      | none =>
          let location := location host httpsPort request.target
          if isHeaderText location then
            (redirect location, challenges)
          else
            (text 400 "Invalid redirect target", challenges)

end PlainAnswer

end OnDemandTls
