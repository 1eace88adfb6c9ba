import OnDemandTls.Acme.Failure
import OnDemandTls.Budget.Issuance
import OnDemandTls.Certificate.Mock
import OnDemandTls.Claims
import OnDemandTls.IssuanceLocks
import OnDemandTls.PrimaryDomain
import OnDemandTls.Program
import OnDemandTls.Store.Records

namespace OnDemandTls

/-!
# Gateways

A gateway has a store of certificates, locks and budgets for issuance, up to two
authorities, and a catalog of certificates that are ready for handshakes.  What
it does to these stands in programs over one interface, so that every call is a
single step among the steps of all other programs.
-/

/-- The two uses that a gateway has for authorities. -/
inductive AuthorityRole where
  /-- For the domains of tenants. -/
  | general
  /-- For the primary domain. -/
  | primary
  deriving DecidableEq, Repr

/-- A client of an authority, as far as a gateway has to know it. -/
structure AuthorityClient where
  /-- Whether it can prove control of wildcard names. -/
  supportsWildcards : Bool
  deriving DecidableEq, Repr

/-- What stays the same while a gateway runs. -/
structure Gateway where
  primaryDomain : PrimaryDomain
  general : Option AuthorityClient
  primary : Option AuthorityClient
  authority : DomainAuthority

/-- A request for a certificate. -/
structure ObtainRequest where
  /-- Names to cover, the canonical one first. -/
  domains : List String
  /-- The certificate that is renewed. -/
  previous : Option CertificateResource := none
  /-- The user whose budget pays for a fresh order. -/
  user : Option String := none
  role : AuthorityRole := .general
  deriving DecidableEq, Repr

/-- The calls of a gateway's programs. -/
inductive GatewayCall where
  /-- Ask for the time in seconds. -/
  | clock
  | findRecord (name : String)
  | putRecord (name : String) (resource : CertificateResource)
  | deleteRecord (name : String)
  | listRecords
  | compactStore
  /-- Claim the issuance of a name. -/
  | claim (name : String)
  /-- Wait until a guard of a name is gone. -/
  | awaitRelease (name : String) (guardNumber : Nat)
  | release (name : String)
  /-- Spend a token of a budget, and wait as long as there is none. -/
  | spend (budget : Budget)
  /-- Spend a token of a user, unless there is none. -/
  | askUser (user : String)
  /-- Have an authority issue a certificate for the names of an older one. -/
  | renew (role : AuthorityRole) (previous : CertificateResource)
  /-- Have an authority issue a certificate for some names. -/
  | order (role : AuthorityRole) (domains : List String)
  /-- Ask for a certificate that is ready for handshakes. -/
  | findReady (key : String)
  | keepReady (key : String) (certified : CertifiedKey)
  | dropReady (key : String)
  | purgeReady
  /-- Ask for the staged answer to a TLS challenge. -/
  | stagedAnswer (name : String)
  | purgeStaged
  /-- Start to obtain a certificate beside all else that goes on. -/
  | startObtaining (request : ObtainRequest)
  /-- Ask whether maintenance is to go on. -/
  | goesOn
  /-- Rest for some seconds, or until maintenance is to stop. -/
  | rest (interval : Nat)
  deriving DecidableEq, Repr

/-- What the calls of a gateway are answered with. -/
abbrev GatewayCall.Answer : GatewayCall → Type
  | clock => Int
  | findRecord _ => Except StoreError (Option CertificateResource)
  | putRecord _ _ => Except StoreError Unit
  | deleteRecord _ => Except StoreError Unit
  | listRecords => Except StoreError (List (String × CertificateResource))
  | compactStore => Except StoreError String
  | claim _ => LockClaim
  | awaitRelease _ _ => Unit
  | release _ => Unit
  | spend _ => Unit
  | askUser _ => Bool
  | renew _ _ => Except AuthorityError CertificateResource
  | order _ _ => Except AuthorityError CertificateResource
  | findReady _ => Option CertifiedKey
  | keepReady _ _ => Unit
  | dropReady _ => Unit
  | purgeReady => Nat
  | stagedAnswer _ => Option String
  | purgeStaged => Nat
  | startObtaining _ => Nat
  | goesOn => Bool
  | rest _ => Unit

/-- What a gateway's programs run against. -/
abbrev gatewayCalls : Interface where
  Call := GatewayCall
  Answer := GatewayCall.Answer

/-- A program of a gateway. -/
abbrev GatewayProgram (α : Type) := Program gatewayCalls α

namespace GatewayCall

/-- The program that makes a call and ends in its answer. -/
abbrev ask (call : GatewayCall) : GatewayProgram call.Answer :=
  Program.ask (I := gatewayCalls) call

end GatewayCall

namespace Gateway

/-- The client that a gateway has for a use. -/
def client?
    (gateway : Gateway) :
    AuthorityRole → Option AuthorityClient
  | .general => gateway.general
  | .primary => gateway.primary

end Gateway

end OnDemandTls
