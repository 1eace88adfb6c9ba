import OnDemandTls.Budget.PerUser

namespace OnDemandTls

/-!
# Issuance budgets

What an authority allows one account: orders, requests of any kind and failed
attempts, each from its own bucket, and a daily share of fresh certificates for
every user.  Budgets can be switched off; then nobody waits and nobody is
refused.
-/

/-- The budgets whose tokens are waited for. -/
inductive Budget where
  | order
  | request
  | failure
  deriving DecidableEq, Repr

/-- The budgets of one account. -/
structure IssuanceBudgets (α : Type) where
  enabled : Bool
  order : TokenBucket α
  request : TokenBucket α
  failure : TokenBucket α
  users : UserBudgets α

namespace IssuanceBudgets

variable {α : Type} [Quantity α]

/-- Milliseconds of a minute. -/
def minute : Nat := 60 * 1000

/-- Full budgets: 25 orders in 15 minutes, 5 requests in a second, 5 failures in
an hour, and 10 certificates for a user in a day. -/
def fresh
    (enabled : Bool)
    (now : Nat) :
    IssuanceBudgets α where
  enabled := enabled
  order := TokenBucket.full 25 (.ofMilliseconds (15 * minute)) now
  request := TokenBucket.full 5 (.ofMilliseconds 1000) now
  failure := TokenBucket.full 5 (.ofMilliseconds (60 * minute)) now
  users := UserBudgets.fresh 10 (.ofMilliseconds (24 * 60 * minute))

/-- The bucket of a budget. -/
def bucket
    (budgets : IssuanceBudgets α) :
    Budget → TokenBucket α
  | .order => budgets.order
  | .request => budgets.request
  | .failure => budgets.failure

/-- The budgets with another bucket in one place. -/
def withBucket
    (budgets : IssuanceBudgets α)
    (budget : Budget)
    (bucket : TokenBucket α) :
    IssuanceBudgets α :=
  match budget with
  | .order => { budgets with order := bucket }
  | .request => { budgets with request := bucket }
  | .failure => { budgets with failure := bucket }

/-- Spend a token of a budget if one is there; otherwise say when to try again. -/
def attempt
    (budgets : IssuanceBudgets α)
    (budget : Budget)
    (now : Nat) :
    Option Nat × IssuanceBudgets α :=
  if budgets.enabled then
    let (later, bucket) := (budgets.bucket budget).attempt now
    (later, budgets.withBucket budget bucket)
  else
    (none, budgets)

/-- Spend a token of a user if one is there, and say whether it was. -/
def askUser
    (budgets : IssuanceBudgets α)
    (user : String)
    (now : Nat) :
    Bool × IssuanceBudgets α :=
  if budgets.enabled then
    let (granted, users) := budgets.users.ask user now
    (granted, { budgets with users := users })
  else
    (true, budgets)

/-- Spend a token of a budget, sleeping as long as none is there and nobody else
asks; the result has the instant at which it was spent.  At most `limit`
attempts are made. -/
def take?
    (limit : Nat)
    (budgets : IssuanceBudgets α)
    (budget : Budget)
    (now : Nat) :
    Option (Nat × IssuanceBudgets α) :=
  match limit with
  | 0 => none
  | limit + 1 =>
      match budgets.attempt budget now with
      | (none, budgets) => some (now, budgets)
      | (some later, budgets) => take? limit budgets budget later

end IssuanceBudgets

end OnDemandTls
