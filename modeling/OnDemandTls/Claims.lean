import OnDemandTls.Catalog
import OnDemandTls.Config.Basic

namespace OnDemandTls

/-!
# Claimed domains

Who claims a custom domain, and whether certificates may be issued for it.  The
claims of a configuration are filed under the names as clients ask for them, and
the last claim of a name counts.
-/

/-- A custom domain that points at a tenant's pages. -/
structure DomainClaim where
  owner : String
  repo : String
  branch : String
  /-- Whether the tenant's repository confirms the domain. -/
  authorized : Bool
  deriving DecidableEq, Repr

/-- Answers who claims a name. -/
abbrev DomainAuthority := String → Option DomainClaim

/-- The claims of a configuration. -/
structure ClaimRegister where
  claims : Catalog DomainClaim

namespace ClaimRegister

/-- The claim that a configured domain makes. -/
def claimOf (domain : CustomDomain) : DomainClaim where
  owner := domain.owner
  repo := domain.repo
  branch := domain.branch
  authorized := domain.authorized

/-- Register configured domains one after another. -/
def ofDomains (domains : List CustomDomain) : ClaimRegister where
  claims :=
    Catalog.ofList
      (domains.map (fun domain => (HostName.asked domain.domain, claimOf domain)))

/-- The claim of a name, which is looked up as it is written. -/
def lookup (register : ClaimRegister) : DomainAuthority :=
  fun name => register.claims.get? name

/-- How many names are claimed. -/
def size (register : ClaimRegister) : Nat :=
  register.claims.size

/-- Whether no name is claimed. -/
def isEmpty (register : ClaimRegister) : Bool :=
  register.claims.isEmpty

end ClaimRegister

end OnDemandTls
