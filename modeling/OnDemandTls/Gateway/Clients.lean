import OnDemandTls.Acme.Client
import OnDemandTls.DnsHook

namespace OnDemandTls

/-!
# Clients of one account

A gateway talks to its authority through one account and two clients: a general
one for custom domains, and one for the primary domain, which can prove
wildcards if there is a provider of DNS records.
-/

/-- The two clients of an account. -/
structure AccountClients where
  general : AcmeClient
  primary : AcmeClient
  /-- The program that publishes DNS records. -/
  hook : Option DnsHook
  deriving DecidableEq, Repr

namespace AccountClients

/-- The clients of an account.  HTTP challenges are answered on request, and DNS
challenges if a provider is named; its program is named by the environment. -/
def make
    (thumbprint : String)
    (httpChallenges : Bool)
    (provider environment : Option String) :
    Except ClientFault AccountClients := do
  let general : AcmeClient :=
    { thumbprint := thumbprint
      responders := if httpChallenges then [.tlsAlpn01, .http01] else [.tlsAlpn01] }
  match provider with
  | none => return { general := general, primary := ⟨thumbprint, [.tlsAlpn01]⟩, hook := none }
  | some provider =>
      let hook ← DnsHook.ofProvider provider environment
      return { general := general, primary := ⟨thumbprint, [.dns01]⟩, hook := some hook }

end AccountClients

end OnDemandTls
