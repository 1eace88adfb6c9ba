import OnDemandTls.Catalog

namespace OnDemandTls

/-!
# Issuance locks

At most one issuance runs for a name.  Who claims a free name becomes its owner
and holds a guard; who comes later learns the number of the owner's guard and
waits until that guard is gone.  Guards are numbered one after another, so a
later owner of the same name is told apart from the one that was seen.
-/

/-- The names in issuance with the numbers of their guards. -/
structure IssuanceLocks where
  held : Catalog Nat
  nextGuard : Nat

/-- What becomes of a claim. -/
inductive LockClaim where
  | owner (guardNumber : Nat)
  | busy (guardNumber : Nat)
  deriving DecidableEq, Repr

namespace IssuanceLocks

/-- No name is in issuance. -/
def empty : IssuanceLocks where
  held := Catalog.empty
  nextGuard := 0

/-- Claim a name, or learn whom to wait for. -/
def acquire
    (locks : IssuanceLocks)
    (name : String) :
    LockClaim × IssuanceLocks :=
  match locks.held.get? name with
  | some guardNumber => (.busy guardNumber, locks)
  | none =>
      ( .owner locks.nextGuard
      , { held := locks.held.insert name locks.nextGuard
          nextGuard := locks.nextGuard + 1 } )

/-- Drop the guard of a name. -/
def release
    (locks : IssuanceLocks)
    (name : String) :
    IssuanceLocks :=
  { locks with held := locks.held.erase name }

/-- Whether a name is in issuance. -/
def isLocked
    (locks : IssuanceLocks)
    (name : String) :
    Bool :=
  locks.held.contains name

/-- Whether a guard of a name is still there. -/
def holds
    (locks : IssuanceLocks)
    (name : String)
    (guardNumber : Nat) :
    Bool :=
  locks.held.get? name == some guardNumber

/-- How many names are in issuance. -/
def size (locks : IssuanceLocks) : Nat :=
  locks.held.size

/-- Whether no name is in issuance. -/
def isEmpty (locks : IssuanceLocks) : Bool :=
  locks.held.isEmpty

end IssuanceLocks

end OnDemandTls
