import OnDemandTls.Decimal.Shortest

namespace OnDemandTls

/-!
# Quantities

Budgets count tokens in fractions.  A quantity is a number that such counts can
be kept in: doubles, which a running gateway uses, or exact rationals, for which
the same definitions compute without rounding.  `exact` says which rational a
quantity stands for, and durations are read from it: a duration in nanoseconds
is the nearest one, the even one of two that are equally near.
-/

/-- A length of time, or an instant on a clock, in nanoseconds. -/
structure Nanoseconds where
  count : Nat
  deriving DecidableEq, Repr

namespace Nanoseconds

/-- The instant at which a clock begins. -/
instance : Zero Nanoseconds :=
  ⟨⟨0⟩⟩

/-- So many milliseconds. -/
def ofMilliseconds (milliseconds : Nat) : Nanoseconds where
  count := milliseconds * 1000000

/-- Clocks that count milliseconds are read where time is finer. -/
instance : Coe Nat Nanoseconds :=
  ⟨ofMilliseconds⟩

/-- The time from one instant to another; none if it has not come yet. -/
instance : Sub Nanoseconds :=
  ⟨fun later earlier => ⟨later.count - earlier.count⟩⟩

instance : LE Nanoseconds :=
  ⟨fun earlier later => earlier.count ≤ later.count⟩

instance (earlier later : Nanoseconds) : Decidable (earlier ≤ later) :=
  inferInstanceAs (Decidable (earlier.count ≤ later.count))

end Nanoseconds

/-- Numbers that counts of tokens can be kept in. -/
class Quantity (α : Type) extends Add α, Sub α, Mul α, Div α where
  ofNat : Nat → α
  atMost : α → α → Bool
  exact : α → Rat

namespace Quantity

variable {α : Type} [Quantity α]

/-- The smaller of two quantities. -/
def least (a b : α) : α :=
  if atMost a b then a else b

/-- The larger of two quantities. -/
def greatest (a b : α) : α :=
  if atMost a b then b else a

/-- A length of time in seconds: the whole seconds and the nanoseconds beyond
them. -/
def seconds (time : Nanoseconds) : α :=
  ofNat (time.count / 1000000000) +
    ofNat (time.count % 1000000000) / ofNat 1000000000

/-- The integer nearest to a rational, and the even one of two. -/
def nearest (x : Rat) : Int :=
  let below := x.floor
  let rest := x - below
  if rest < 1 / 2 then
    below
  else if 1 / 2 < rest then
    below + 1
  else if below % 2 = 0 then
    below
  else
    below + 1

/-- A number of seconds in whole nanoseconds. -/
def nanoseconds (x : α) : Nat :=
  (nearest (exact x * 1000000000)).toNat

/-- How many whole units a quantity holds. -/
def whole (x : α) : Nat :=
  (exact x).floor.toNat

end Quantity

/-- The rational that a finite double stands for. -/
def Decimal.Binary.exact (bits : UInt64) : Rat :=
  let double := Binary.ofBits bits
  let ratio := scaled 2 double.exponent (double.mantissa, 1)
  let size := mkRat ratio.1 ratio.2
  if bits >>> 63 = 1 then -size else size

instance : Quantity Float where
  ofNat := Float.ofNat
  atMost a b := decide (a ≤ b)
  exact x := Decimal.Binary.exact x.toBits

instance : Quantity Rat where
  ofNat n := (n : Rat)
  atMost a b := decide (a ≤ b)
  exact x := x

end OnDemandTls
