import OnDemandTls.Gateway.Resolution

namespace OnDemandTls

/-!
# Maintenance

From time to time a gateway drops the certificates that will have expired before
the next time, compacts its store, forgets what has expired elsewhere, and sees
to it that the primary certificate is renewed.
-/

/-- What one cycle of maintenance did. -/
structure MaintenanceReport where
  /-- The keys whose records were deleted, in order. -/
  deleted : List String
  /-- What the store says about its compaction. -/
  compaction : Option String
  /-- How many expired values were forgotten. -/
  purged : Nat
  /-- The task that renews the primary certificate. -/
  primaryRenewal : Option Nat
  deriving DecidableEq, Repr

namespace Gateway

/-- A whole number as a signed word of 64 bits holds it. -/
def signedWord (n : Int) : Int :=
  n.bmod 0x10000000000000000

/-- The instant before which the next cycle ends, in a signed word. -/
def nextCycle
    (now : Int)
    (interval : Nat) :
    Int :=
  signedWord (now + signedWord interval)

/-- The keys of the records that expire before an instant, without the primary
one. -/
def expiring
    (gateway : Gateway)
    (threshold : Int)
    (records : List (String × CertificateResource)) :
    List String :=
  (records.filter fun (key, resource) =>
    key ≠ gateway.primaryDomain.key && resource.validTill < threshold).map Prod.fst

/-- Delete records one after another, and say which deletions worked. -/
def deleteAll
    (withHandshakes : Bool) :
    List String → GatewayProgram (List String)
  | [] => return []
  | key :: rest => do
      match ← (GatewayCall.deleteRecord key).ask with
      | .error _ => deleteAll withHandshakes rest
      | .ok () =>
          if withHandshakes then
            invalidate key
          return key :: (← deleteAll withHandshakes rest)

/-- Forget what has expired, and say how much that was. -/
def purge
    (withHandshakes : Bool) :
    GatewayProgram Nat := do
  let staged ← GatewayCall.purgeStaged.ask
  if withHandshakes then
    return staged + (← GatewayCall.purgeReady.ask)
  else
    return staged

/-- One cycle of maintenance; the next one comes after `interval` seconds.  The
certificates that are ready for handshakes are seen to on request. -/
def sweep
    (gateway : Gateway)
    (interval : Nat)
    (withHandshakes : Bool) :
    GatewayProgram (Except StoreError MaintenanceReport) := do
  let now ← GatewayCall.clock.ask
  match ← GatewayCall.listRecords.ask with
  | .error error => return .error error
  | .ok records =>
      let deleted ←
        deleteAll withHandshakes (gateway.expiring (nextCycle now interval) records)
      let compaction ← GatewayCall.compactStore.ask
      let purged ← purge withHandshakes
      match ← (GatewayCall.findRecord gateway.primaryDomain.key).ask with
      | .error error => return .error error
      | .ok primary =>
          let renewal ← start (primary.bind fun resource =>
            gateway.primaryRenewalRequest? resource now)
          return .ok {
            deleted := deleted
            compaction := compaction.toOption
            purged := purged
            primaryRenewal := renewal }

/-- Cycles of maintenance until it is to stop, at most `cycles` of them.  A
cycle that fails is followed by the next one after the same rest. -/
def maintain
    (gateway : Gateway)
    (interval : Nat) :
    Nat → GatewayProgram Unit
  | 0 => pure ()
  | cycles + 1 => do
      if ← GatewayCall.goesOn.ask then
        let _ ← gateway.sweep interval true
        (GatewayCall.rest interval).ask
        maintain gateway interval cycles

end Gateway

end OnDemandTls
