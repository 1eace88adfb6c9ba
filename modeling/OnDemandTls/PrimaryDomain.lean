import OnDemandTls.HostName

namespace OnDemandTls

/-!
# The primary domain

The domain under which every tenant has a page.  Its certificate covers the
domain itself and all names directly under it, and is filed under the domain
with a leading dot.
-/

/-- The primary domain, without leading dots and wildcards. -/
structure PrimaryDomain where
  apex : String
  deriving DecidableEq, Repr

namespace PrimaryDomain

/-- The primary domain of a suffix, which may carry wildcards and dots. -/
def ofSuffix (suffix : String) : PrimaryDomain where
  apex :=
    String.ofList
      (Text.lower
        (HostName.dropLeadingDots (HostName.dropWildcards (Text.trim suffix.toList))))

/-- The store key of the primary certificate: the domain with a leading dot. -/
def key (primary : PrimaryDomain) : String :=
  "." ++ primary.apex

/-- The names that the primary certificate is requested for. -/
def domains (primary : PrimaryDomain) : List String :=
  ["*" ++ primary.key, primary.apex]

/-- Whether a name is the primary domain or lies under it. -/
def covers
    (primary : PrimaryDomain)
    (name : String) :
    Bool :=
  primary.key.toList.isSuffixOf name.toList || name == primary.apex

end PrimaryDomain

end OnDemandTls
