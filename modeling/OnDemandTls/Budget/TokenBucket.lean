import OnDemandTls.Budget.Quantity

namespace OnDemandTls

/-!
# Token buckets

A bucket holds at most `capacity` tokens and refills evenly, so that an empty
bucket is full again after one period.  The refill is lazy: it is added up when
somebody asks.  Instants are those of a clock that never goes back; a sleeper
wakes at a whole millisecond.
-/

/-- A token bucket as it stood at the instant `refilledAt`. -/
structure TokenBucket (α : Type) where
  capacity : α
  /-- Tokens per second. -/
  rate : α
  tokens : α
  refilledAt : Nanoseconds

namespace TokenBucket

open Quantity

variable {α : Type} [Quantity α]

/-- The shortest period in seconds that a bucket refills in. -/
def shortestPeriod : α :=
  ofNat 1 / ofNat 0x10000000000000

/-- A full bucket; it holds one token at least. -/
def full
    (capacity : Nat)
    (period now : Nanoseconds) :
    TokenBucket α where
  capacity := ofNat (max capacity 1)
  rate := ofNat (max capacity 1) / greatest (seconds period) shortestPeriod
  tokens := ofNat (max capacity 1)
  refilledAt := now

/-- The bucket with what has flowed in until now. -/
def refill
    (bucket : TokenBucket α)
    (now : Nanoseconds) :
    TokenBucket α :=
  { bucket with
    tokens :=
      least (bucket.tokens + seconds (now - bucket.refilledAt) * bucket.rate) bucket.capacity
    refilledAt := now }

/-- Whether a whole token is there. -/
def hasToken (bucket : TokenBucket α) : Bool :=
  atMost (ofNat 1) bucket.tokens

/-- The bucket with one token less. -/
def spend (bucket : TokenBucket α) : TokenBucket α :=
  { bucket with tokens := bucket.tokens - ofNat 1 }

/-- Spend a token if one is there, and say whether it was. -/
def ask
    (bucket : TokenBucket α)
    (now : Nanoseconds) :
    Bool × TokenBucket α :=
  let bucket := bucket.refill now
  if bucket.hasToken then
    (true, bucket.spend)
  else
    (false, bucket)

/-- How many whole tokens are there. -/
def remaining
    (bucket : TokenBucket α)
    (now : Nanoseconds) :
    Nat × TokenBucket α :=
  let bucket := bucket.refill now
  (whole bucket.tokens, bucket)

/-- How many nanoseconds pass until a whole token is there. -/
def waitingTime (bucket : TokenBucket α) : Nat :=
  nanoseconds ((ofNat 1 - bucket.tokens) / bucket.rate)

/-- The first whole millisecond at or after some nanoseconds from now. -/
def wakeAt
    (now : Nanoseconds)
    (wait : Nat) :
    Nat :=
  (now.count + wait + 999999) / 1000000

/-- Spend a token if one is there; otherwise say at which millisecond to try
again. -/
def attempt
    (bucket : TokenBucket α)
    (now : Nanoseconds) :
    Option Nat × TokenBucket α :=
  match bucket.ask now with
  | (true, bucket) => (none, bucket)
  | (false, bucket) => (some (wakeAt now bucket.waitingTime), bucket)

/-- Spend a token, sleeping as long as none is there and nobody else asks;
the result has the millisecond at which the token was spent.  At most `limit`
attempts are made. -/
def take?
    (limit : Nat)
    (bucket : TokenBucket α)
    (now : Nat) :
    Option (Nat × TokenBucket α) :=
  match limit with
  | 0 => none
  | limit + 1 =>
      match bucket.attempt now with
      | (none, bucket) => some (now, bucket)
      | (some later, bucket) => take? limit bucket later

end TokenBucket

end OnDemandTls
