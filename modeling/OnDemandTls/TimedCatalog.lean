import OnDemandTls.Catalog

namespace OnDemandTls

/-!
# Timed catalogs

A timed catalog forgets what is filed in it: every value has an instant from
which on it is no longer given out.  A forgotten value stays in the catalog
until somebody asks for it or the catalog is purged.  Times are milliseconds.
A clock has a last instant; nothing can be filed for longer than that.
-/

/-- The last instant of a clock that counts its seconds in a signed machine word. -/
def lastInstant : Nat := 9223372036854775807999

/-- Values under texts, each with the instant at which it expires. -/
structure TimedCatalog (α : Type) where
  entries : Catalog (α × Nat)

namespace TimedCatalog

variable {α : Type}

/-- The catalog that holds nothing. -/
def empty : TimedCatalog α where
  entries := Catalog.empty

instance : Inhabited (TimedCatalog α) := ⟨empty⟩

/-- File a value until an instant, in place of an older one. -/
def file
    (c : TimedCatalog α)
    (key : String)
    (value : α)
    (expiry : Nat) :
    TimedCatalog α where
  entries := c.entries.insert key (value, expiry)

/-- File a value for some time.  If that goes beyond the last instant of the clock,
the call panics, before anything is filed. -/
def set?
    (c : TimedCatalog α)
    (key : String)
    (value : α)
    (lifetime now last : Nat) :
    Option (TimedCatalog α) :=
  if now + lifetime ≤ last then some (c.file key value (now + lifetime)) else none

/-- The value under a key, unless it has expired. -/
def find?
    (c : TimedCatalog α)
    (key : String)
    (now : Nat) :
    Option α :=
  match c.entries.get? key with
  | some (value, expiry) => if now < expiry then some value else none
  | none => none

/-- Take away what is filed under a key. -/
def remove
    (c : TimedCatalog α)
    (key : String) :
    TimedCatalog α where
  entries := c.entries.erase key

/-- Take away what is filed under a key if it has expired. -/
def drop
    (c : TimedCatalog α)
    (key : String)
    (now : Nat) :
    TimedCatalog α :=
  match c.entries.get? key with
  | some (_, expiry) => if now < expiry then c else c.remove key
  | none => c

/-- Ask for the value under a key; an expired one is taken away. -/
def get
    (c : TimedCatalog α)
    (key : String)
    (now : Nat) :
    Option α × TimedCatalog α :=
  (c.find? key now, c.drop key now)

/-- Take away all expired values, and say how many there were. -/
def purge
    (c : TimedCatalog α)
    (now : Nat) :
    Nat × TimedCatalog α :=
  let kept := c.entries.filter (fun _ entry => decide (now < entry.2))
  (c.entries.size - kept.size, { entries := kept })

/-- How many values are filed, expired ones included. -/
def size (c : TimedCatalog α) : Nat :=
  c.entries.size

/-- Whether nothing is filed. -/
def isEmpty (c : TimedCatalog α) : Bool :=
  c.entries.isEmpty

end TimedCatalog

end OnDemandTls
