import OnDemandTls.Budget.TokenBucket
import OnDemandTls.Catalog

namespace OnDemandTls

/-!
# Budgets of users

Every user has a bucket of the same size.  A user's bucket is made full when the
user first asks.
-/

/-- The buckets of the users who have asked so far. -/
structure UserBudgets (α : Type) where
  capacity : Nat
  /-- The period of every bucket. -/
  period : Nanoseconds
  buckets : Catalog (TokenBucket α)

namespace UserBudgets

variable {α : Type} [Quantity α]

/-- Budgets that nobody has used. -/
def fresh
    (capacity : Nat)
    (period : Nanoseconds) :
    UserBudgets α where
  capacity := capacity
  period := period
  buckets := Catalog.empty

/-- The bucket of a user, who may be new. -/
def bucket
    (budgets : UserBudgets α)
    (user : String)
    (now : Nanoseconds) :
    TokenBucket α :=
  (budgets.buckets.get? user).getD (TokenBucket.full budgets.capacity budgets.period now)

/-- Spend a token of a user if one is there, and say whether it was. -/
def ask
    (budgets : UserBudgets α)
    (user : String)
    (now : Nanoseconds) :
    Bool × UserBudgets α :=
  let (granted, bucket) := (budgets.bucket user now).ask now
  (granted, { budgets with buckets := budgets.buckets.insert user bucket })

end UserBudgets

end OnDemandTls
