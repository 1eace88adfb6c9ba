import OnDemandTls.Acme.Failure
import OnDemandTls.Rehearsal.SampleCertificate

namespace OnDemandTls

/-!
# Scripted authorities

An authority that answers every request after the same time, each one as its
script says.
-/

/-- How a request ends. -/
inductive ScriptedOutcome where
  | refusal (error : AuthorityError)
  /-- A certificate is issued, for other names or another time if given. -/
  | certificate (names : Option (List String)) (validFor : Option Int)
  /-- A certificate is issued with a private key that nobody can use. -/
  | unusableKey
  deriving Repr

/-- An authority with its script. -/
structure ScriptedAuthority where
  label : String
  supportsWildcards : Bool
  /-- Milliseconds before an answer. -/
  delay : Nat
  /-- Seconds for which certificates are valid. -/
  validFor : Int
  /-- How requests end, one after another; the last outcome is repeated. -/
  outcomes : List ScriptedOutcome
  /-- How many requests have come to their turn in the script. -/
  asked : Nat
  /-- How many certificates were issued. -/
  issued : Nat

namespace ScriptedAuthority

/-- The outcome of an ordinary request. -/
def ordinary : ScriptedOutcome := .certificate none none

/-- The element of a list at an index, or the last one. -/
def atOrLast
    {α : Type}
    (items : List α)
    (index : Nat) :
    Option α :=
  (items[index]?).or items.getLast?

/-- The outcome of the next request. -/
def takeOutcome (authority : ScriptedAuthority) : ScriptedOutcome × ScriptedAuthority :=
  ( (atOrLast authority.outcomes authority.asked).getD ordinary
  , { authority with asked := authority.asked + 1 } )

/-- Begin another script. -/
def restart
    (authority : ScriptedAuthority)
    (outcomes : List ScriptedOutcome) :
    ScriptedAuthority :=
  { authority with outcomes := outcomes, asked := 0 }

/-- A private key that nobody can use. -/
def unusableKeyText : String := "no private key"

/-- Issue a certificate with a private key. -/
def issue
    (authority : ScriptedAuthority)
    (domains : List String)
    (names : List String)
    (validFor : Int)
    (key : String)
    (now : Int) :
    Except AuthorityError CertificateResource :=
  let commonName := authority.label ++ " #" ++ toString authority.issued
  match SampleCertificate.text? commonName names now (now + validFor) with
  | none => .error (.generation "stub")
  | some chain =>
      (CertificateResource.ofPem (domains.headD "") chain key .acme).mapError .invalidCertificate

/-- Answer a request with its outcome. -/
def answer
    (authority : ScriptedAuthority)
    (domains : List String)
    (outcome : ScriptedOutcome)
    (now : Int) :
    Except AuthorityError CertificateResource × ScriptedAuthority :=
  let next := { authority with issued := authority.issued + 1 }
  match outcome with
  | .refusal error => (.error error, authority)
  | .certificate names validFor =>
      ( next.issue domains (names.getD domains) (validFor.getD authority.validFor)
          KeyPair.sample.text now
      , next )
  | .unusableKey =>
      (next.issue domains domains authority.validFor unusableKeyText now, next)

end ScriptedAuthority

end OnDemandTls
