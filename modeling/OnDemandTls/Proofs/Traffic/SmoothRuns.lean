import Mathlib.Data.List.TakeWhile
import OnDemandTls.Proofs.Traffic.Persistence

namespace OnDemandTls

/-!
# Smooth runs

Nothing but handshakes for one custom domain, and nothing fails: the store reads
and writes, no user is turned away, and every certificate that an authority is
asked for is issued (`Traffic.Smooth`).  If what is issued can also be served and
lasts (`Traffic.Lasting`), a `Traffic.Ledger` says what the events leave in the
scene.
-/

namespace Errand

/-- A handshake for a name, other than one that validates it. -/
def IsHandshakeFor
    (name : String) :
    Errand → Prop
  | resolving (some serverName) protocols =>
      HostName.asked serverName = name ∧ protocols.contains validationProtocol = false
  | _ => False

end Errand

namespace Gateway

/-- A name is a custom domain for which certificates may be issued. -/
structure IssuesFor (gateway : Gateway) (name : String) : Prop where
  named : name ≠ ""
  custom : gateway.primaryDomain.covers name = false
  claimed : ∃ claim, gateway.authority name = some claim ∧ claim.authorized = true

/-- There is an authority that can be asked for the certificate of a name. -/
def CanAskFor (gateway : Gateway) (name : String) : Prop :=
  ∃ client,
    gateway.general = some client ∧
      Issuance.provable client.supportsWildcards [HostName.fold name] ≠ []

end Gateway

/-! ## What happens in an event -/

namespace TrafficEvent

def asks : TrafficEvent → Bool
  | calls _ (.renew _ _) _ | calls _ (.order _ _) _ => true
  | _ => false

/-- The certificate that an authority issues. -/
def issued? : TrafficEvent → Option CertificateResource
  | calls _ (.renew _ _) (.ok issued) | calls _ (.order _ _) (.ok issued) => some issued
  | _ => none

def grants : TrafficEvent → Bool
  | calls _ (.claim _) (.owner _) => true
  | _ => false

def writes : TrafficEvent → Bool
  | calls _ (.putRecord _ _) (.ok ()) => true
  | _ => false

/-- Whether a task looks for a record. -/
def looks (number : Nat) : TrafficEvent → Bool
  | calls seeker (.findRecord _) _ => seeker == number
  | _ => false

/-- Whether a task looks for a record and finds none. -/
def misses (number : Nat) : TrafficEvent → Bool
  | calls seeker (.findRecord _) (.ok none) => seeker == number
  | _ => false

/-- Whether a task claims a name, for itself or in vain. -/
def claims (number : Nat) : TrafficEvent → Bool
  | calls claimant (.claim _) _ => claimant == number
  | _ => false

theorem looks_of_idle
    {event : TrafficEvent}
    {number : Nat}
    (idle : event.task? ≠ some number) :
    event.looks number = false := by
  unfold looks
  split
  · exact beq_false_of_ne fun same => idle (congrArg some same)
  · rfl

theorem claims_of_idle
    {event : TrafficEvent}
    {number : Nat}
    (idle : event.task? ≠ some number) :
    event.claims number = false := by
  unfold claims
  split
  · exact beq_false_of_ne fun same => idle (congrArg some same)
  · rfl

theorem asks_of_issued?
    {event : TrafficEvent}
    (issues : event.issued?.isSome = true) :
    event.asks = true := by
  unfold issued? at issues
  split at issues
  · rfl
  · rfl
  · cases issues

end TrafficEvent

namespace Traffic

/-- The certificates that were issued, in order. -/
def issuedIn (events : List TrafficEvent) : List CertificateResource :=
  events.filterMap TrafficEvent.issued?

def hasWritten (events : List TrafficEvent) : Bool :=
  events.any TrafficEvent.writes

/-- A task has looked for a record in vain before the first one was stored, and has
not looked again since. -/
def lookedEarly
    (events : List TrafficEvent)
    (number : Nat) :
    Bool :=
  (events.takeWhile (!TrafficEvent.writes ·)).any (TrafficEvent.misses number) &&
    !(events.dropWhile (!TrafficEvent.writes ·)).any (TrafficEvent.looks number)

def hasClaimed
    (events : List TrafficEvent)
    (number : Nat) :
    Bool :=
  events.any (TrafficEvent.claims number)

/-- Whether a task becomes the owner of a name with its first claim, when a record has
been stored that it does not know of, as it looked too early. -/
def isLateGrant (past : List TrafficEvent) : TrafficEvent → Bool
  | .calls number (.claim _) (.owner _) =>
      hasWritten past && lookedEarly past number && !hasClaimed past number
  | _ => false

/-- How many of some events are late grants, after what has happened before them. -/
def lateGrantsAfter (past : List TrafficEvent) : List TrafficEvent → Nat
  | [] => 0
  | event :: later =>
      (if isLateGrant past event then 1 else 0) + lateGrantsAfter (past ++ [event]) later

/-- How often a task became the owner of a name after a record was stored for which
it had looked before that and not again, without having waited for an owner. -/
def lateGrants (events : List TrafficEvent) : Nat :=
  lateGrantsAfter [] events

/-- A key comes from a certificate that was issued. -/
def Certifies
    (events : List TrafficEvent)
    (certified : CertifiedKey) :
    Prop :=
  ∃ issued ∈ issuedIn events, issued.certifiedKey = .ok certified

section Counters

variable {events : List TrafficEvent} {event : TrafficEvent}

theorem issued_append
    {issued : CertificateResource}
    (member : issued ∈ issuedIn events)
    (more : List TrafficEvent) :
    issued ∈ issuedIn (events ++ more) := by
  rw [issuedIn, List.filterMap_append]
  exact List.mem_append_left _ member

theorem Certifies.append
    {certified : CertifiedKey}
    (certifies : Certifies events certified)
    (more : List TrafficEvent) :
    Certifies (events ++ more) certified := by
  obtain ⟨issued, member, isKey⟩ := certifies
  exact ⟨issued, issued_append member more, isKey⟩

theorem hasWritten_append
    (written : hasWritten events = true)
    (more : List TrafficEvent) :
    hasWritten (events ++ more) = true := by
  rw [hasWritten, List.any_append]
  exact Bool.or_eq_true_iff.mpr (Or.inl written)

/-- What has happened is not changed by another event in which it does not. -/
theorem any_snoc
    {happens : TrafficEvent → Bool}
    (quiet : happens event = false) :
    (events ++ [event]).any happens = events.any happens := by
  rw [List.any_append, List.any_cons, List.any_nil, quiet, Bool.or_false, Bool.or_false]

theorem hasWritten_snoc
    (quiet : event.writes = false) :
    hasWritten (events ++ [event]) = hasWritten events :=
  any_snoc quiet

theorem hasWritten_snoc_of_writes
    (writes : event.writes = true) :
    hasWritten (events ++ [event]) = true := by
  rw [hasWritten, List.any_append, List.any_cons, writes, Bool.true_or, Bool.or_true]

theorem all_not_writes (unwritten : hasWritten events = false) :
    ∀ earlier ∈ events, (!TrafficEvent.writes earlier) = true := by
  intro earlier member
  rw [Bool.not_eq_true']
  exact Bool.eq_false_iff.mpr (List.any_eq_false.mp unwritten earlier member)

/-- Who finds no record before one is stored has looked early. -/
theorem lookedEarly_snoc_of_misses
    {number : Nat}
    (unwritten : hasWritten events = false)
    (quiet : event.writes = false)
    (misses : event.misses number = true) :
    lookedEarly (events ++ [event]) number = true := by
  have unwrittenStill : hasWritten (events ++ [event]) = false :=
    (hasWritten_snoc quiet).trans unwritten
  rw [lookedEarly, List.takeWhile_eq_self_iff.mpr (all_not_writes unwrittenStill),
    List.dropWhile_eq_nil_iff.mpr (all_not_writes unwrittenStill), List.any_append, List.any_cons,
    misses, Bool.true_or, Bool.or_true]
  rfl

/-- Who has looked early and does not look again has still looked early. -/
theorem lookedEarly_snoc
    {number : Nat}
    (early : lookedEarly events number = true)
    (unseen : event.looks number = false) :
    lookedEarly (events ++ [event]) number = true := by
  obtain ⟨missed, notSince⟩ := Bool.and_eq_true_iff.mp early
  rw [Bool.not_eq_true'] at notSince
  refine Bool.and_eq_true_iff.mpr ⟨?_, ?_⟩
  · rw [List.takeWhile_append]
    split
    · obtain ⟨miss, member, isMiss⟩ := List.any_eq_true.mp missed
      have before := List.takeWhile_subset _ member
      exact List.any_eq_true.mpr ⟨miss, List.mem_append_left _ before, isMiss⟩
    · exact missed
  · rw [List.dropWhile_append, Bool.not_eq_true']
    split
    · cases writes : event.writes with
      | true => simp [writes, unseen]
      | false => simp [writes]
    · rw [List.any_append, notSince, List.any_cons, unseen]
      rfl

theorem isLateGrant_of_not_grants
    (noGrant : event.grants = false)
    (past : List TrafficEvent) :
    isLateGrant past event = false := by
  unfold isLateGrant
  split
  · cases noGrant
  · rfl

theorem lateGrantsAfter_snoc
    (past events : List TrafficEvent)
    (event : TrafficEvent) :
    lateGrantsAfter past (events ++ [event]) =
      lateGrantsAfter past events + if isLateGrant (past ++ events) event then 1 else 0 := by
  induction events generalizing past with
  | nil => rw [List.nil_append, lateGrantsAfter, lateGrantsAfter, lateGrantsAfter, List.append_nil,
      Nat.add_zero, Nat.zero_add]
  | cons first rest inductionHypothesis =>
      rw [List.cons_append, lateGrantsAfter, lateGrantsAfter, inductionHypothesis,
        List.append_assoc, List.singleton_append, Nat.add_assoc]

theorem lateGrants_snoc
    (events : List TrafficEvent)
    (event : TrafficEvent) :
    lateGrants (events ++ [event]) =
      lateGrants events + if isLateGrant events event then 1 else 0 :=
  lateGrantsAfter_snoc [] events event

/-- Before the first written record no grant is late. -/
theorem lateGrantsAfter_of_unwritten
    {past : List TrafficEvent}
    (unwritten : hasWritten (past ++ events) = false) :
    lateGrantsAfter past events = 0 := by
  induction events generalizing past with
  | nil => rfl
  | cons first rest inductionHypothesis =>
      have before : hasWritten past = false := by
        rw [hasWritten, List.any_append, Bool.or_eq_false_iff] at unwritten
        exact unwritten.1
      have inTime : isLateGrant past first = false := by
        unfold isLateGrant
        split
        · rw [before, Bool.false_and, Bool.false_and]
        · rfl
      rw [lateGrantsAfter, inTime, inductionHypothesis]
      · rfl
      · rwa [List.append_assoc, List.singleton_append]

theorem lateGrants_of_unwritten (unwritten : hasWritten events = false) :
    lateGrants events = 0 :=
  lateGrantsAfter_of_unwritten unwritten

end Counters

/-! ## Smooth runs -/

/-- The events are those of handshakes for a name, and nothing fails in them. -/
structure Smooth (name : String) (events : List TrafficEvent) : Prop where
  arrivals : ∀ errand, .arrives errand ∈ events → errand.IsHandshakeFor name
  unbroken : ∀ number, .panics number ∉ events
  affordable : ∀ number user, .calls number (.askUser user) false ∉ events
  readable : ∀ number key error, .calls number (.findRecord key) (.error error) ∉ events
  writable :
    ∀ number key resource error,
      .calls number (.putRecord key resource) (.error error) ∉ events
  issued : ∀ event ∈ events, event.asks = true → event.issued?.isSome = true

/-- What was issued can be served and was not due whenever a task asked for the
time. -/
structure Lasting (events : List TrafficEvent) : Prop where
  usable : ∀ issued ∈ issuedIn events, ∃ certified, issued.certifiedKey = .ok certified
  fresh :
    ∀ issued ∈ issuedIn events,
      ∀ number second,
        .calls number .clock second ∈ events → issued.renewalDecision second ≠ .due

section Fronts

variable {name : String} {events : List TrafficEvent} {event : TrafficEvent}

theorem Smooth.front (smooth : Smooth name (events ++ [event])) : Smooth name events where
  arrivals errand member := smooth.arrivals errand (List.mem_append_left _ member)
  unbroken number member := smooth.unbroken number (List.mem_append_left _ member)
  affordable number user member := smooth.affordable number user (List.mem_append_left _ member)
  readable number key error member :=
    smooth.readable number key error (List.mem_append_left _ member)
  writable number key resource error member :=
    smooth.writable number key resource error (List.mem_append_left _ member)
  issued earlier member := smooth.issued earlier (List.mem_append_left _ member)

theorem Lasting.front (lasting : Lasting (events ++ [event])) : Lasting events where
  usable issued member := lasting.usable issued (issued_append member _)
  fresh issued member number second asked :=
    lasting.fresh issued (issued_append member _) number second (List.mem_append_left _ asked)

/-- In a smooth run whatever was asked for was issued. -/
theorem Smooth.length_issuedIn (smooth : Smooth name events) :
    (issuedIn events).length = events.countP TrafficEvent.asks := by
  rw [issuedIn, List.length_filterMap_eq_countP]
  exact List.countP_congr fun found member =>
    ⟨TrafficEvent.asks_of_issued?, smooth.issued found member⟩

end Fronts

/-! ## The ledger of a smooth run -/

/-- What the events of a smooth run leave in the scene under a key.  Until a
record is written nothing is stored there, and at most one task has become the
owner, with a given guard that is still there.  Afterwards an issued certificate
is stored there, and all owners but the first came late. -/
structure Ledger (key : String) (firstGuard : Nat) (events : List TrafficEvent) (scene : Scene) :
    Prop where
  unwritten :
    hasWritten events = false →
      scene.records.get? key = none ∧
        (events.countP TrafficEvent.grants = 0 ∧
            scene.locks.held.get? key = none ∧
            scene.locks.nextGuard = firstGuard ∨
          events.countP TrafficEvent.grants = 1 ∧
            scene.locks.held.get? key = some firstGuard)
  written :
    hasWritten events = true →
      events.countP TrafficEvent.grants = 1 + lateGrants events ∧
        ∃ issued ∈ issuedIn events, scene.records.get? key = some issued
  ready :
    ∀ certified expiry,
      scene.readyCertificates.entries.get? key = some (certified, expiry) →
      expiry ≤ scene.instant ∨ Certifies events certified

namespace Ledger

variable {key : String} {firstGuard : Nat} {events : List TrafficEvent} {scene : Scene}

/-- A scene without a record and a ready certificate begins a ledger. -/
theorem opening
    (free : scene.locks.isEmpty = true)
    (nothingStored : scene.records.get? key = none)
    (nothingReady : scene.readyCertificates.find? key scene.instant = none) :
    Ledger key scene.locks.nextGuard [] scene := by
  refine ⟨fun _ => ⟨nothingStored, Or.inl ⟨rfl, Catalog.isEmpty_iff.mp free key, rfl⟩⟩, nofun, ?_⟩
  intro certified expiry filed
  rw [TimedCatalog.find?, filed] at nothingReady
  simp only at nothingReady
  split at nothingReady
  · cases nothingReady
  · exact Or.inl (Nat.le_of_not_lt ‹_›)

/-- A certificate that is found ready comes from one that was issued. -/
theorem certifies_of_find?
    {certified : CertifiedKey}
    (ledger : Ledger key firstGuard events scene)
    (found : scene.readyCertificates.find? key scene.instant = some certified) :
    Certifies events certified := by
  unfold TimedCatalog.find? at found
  split at found
  · rename_i value expiry filed
    split at found
    · rename_i inTime
      cases found
      rcases ledger.ready _ _ filed with expired | certifies
      · exact (Nat.not_lt_of_le expired inTime).elim
      · exact certifies
    · cases found
  · cases found

/-- A record that is stored was issued and written. -/
theorem issued_of_get?
    {record : CertificateResource}
    (ledger : Ledger key firstGuard events scene)
    (stored : scene.records.get? key = some record) :
    record ∈ issuedIn events ∧ hasWritten events = true := by
  cases written : hasWritten events with
  | false =>
      rw [(ledger.unwritten written).1] at stored
      cases stored
  | true =>
      obtain ⟨-, issued, member, isStored⟩ := ledger.written written
      cases isStored.symm.trans stored
      exact ⟨member, rfl⟩

/-- Whoever holds the name is the first owner, or a record has been written. -/
theorem awaits_of_held
    {guardNumber : Nat}
    (ledger : Ledger key firstGuard events scene)
    (held : scene.locks.held.get? key = some guardNumber)
    (more : List TrafficEvent) :
    hasWritten (events ++ more) = true ∨
      guardNumber = firstGuard ∧ 0 < (events ++ more).countP TrafficEvent.grants := by
  cases written : hasWritten events with
  | true => exact Or.inl (hasWritten_append written more)
  | false =>
      rcases (ledger.unwritten written).2 with ⟨-, unlocked, -⟩ | ⟨one, first⟩
      · rw [unlocked] at held
        cases held
      · rw [first] at held
        rw [List.countP_append, one]
        exact Or.inr ⟨(Option.some.inj held).symm, Nat.lt_add_right _ Nat.zero_lt_one⟩

/-- The guard of an owner is gone only when a record has been written. -/
theorem hasWritten_of_released
    {guardNumber : Nat}
    (ledger : Ledger key firstGuard events scene)
    (seen :
      hasWritten events = true ∨
        guardNumber = firstGuard ∧ 0 < events.countP TrafficEvent.grants)
    (gone : scene.locks.holds key guardNumber = false) :
    hasWritten events = true := by
  cases written : hasWritten events with
  | true => rfl
  | false =>
      rw [written] at seen
      obtain ⟨rfl, granted⟩ := seen.resolve_left Bool.false_ne_true
      rcases (ledger.unwritten written).2 with ⟨none, -⟩ | ⟨-, held⟩
      · omega
      · rw [IssuanceLocks.holds, held, beq_self_eq_true] at gone
        cases gone

/-- What was ready before is ready by what was issued. -/
theorem ready_append
    {certified : CertifiedKey}
    {expiry : Nat}
    (ledger : Ledger key firstGuard events scene)
    (filed : scene.readyCertificates.entries.get? key = some (certified, expiry))
    (more : List TrafficEvent) :
    expiry ≤ scene.instant ∨ Certifies (events ++ more) certified :=
  (ledger.ready certified expiry filed).imp_right fun certifies => certifies.append more

/-- An event that neither grants nor writes leaves the ledger to a scene with
the same records and locks. -/
theorem snoc
    {event : TrafficEvent}
    {later : Scene}
    (ledger : Ledger key firstGuard events scene)
    (noWrite : event.writes = false)
    (noGrant : event.grants = false)
    (sameRecords : later.records = scene.records)
    (sameLocks : later.locks = scene.locks)
    (ready :
      ∀ certified expiry,
        later.readyCertificates.entries.get? key = some (certified, expiry) →
        expiry ≤ later.instant ∨ Certifies (events ++ [event]) certified) :
    Ledger key firstGuard (events ++ [event]) later := by
  have sameGrants :
      (events ++ [event]).countP TrafficEvent.grants = events.countP TrafficEvent.grants := by
    rw [countP_snoc, noGrant]
    rfl
  refine ⟨fun unwritten => ?_, fun written => ?_, ready⟩
  · rw [hasWritten_snoc noWrite] at unwritten
    rw [sameGrants, sameRecords, sameLocks]
    exact ledger.unwritten unwritten
  · rw [hasWritten_snoc noWrite] at written
    obtain ⟨grants, issued, member, stored⟩ := ledger.written written
    rw [sameGrants, lateGrants_snoc, isLateGrant_of_not_grants noGrant, sameRecords]
    exact ⟨grants, issued, issued_append member _, stored⟩

theorem idle
    {event : TrafficEvent}
    (ledger : Ledger key firstGuard events scene)
    (noWrite : event.writes = false)
    (noGrant : event.grants = false) :
    Ledger key firstGuard (events ++ [event]) scene :=
  ledger.snoc noWrite noGrant rfl rfl fun _ _ filed => ledger.ready_append filed _

theorem passed
    (ledger : Ledger key firstGuard events scene)
    (milliseconds : Nat) :
    Ledger key firstGuard (events ++ [.passes milliseconds])
      { scene with instant := scene.instant + milliseconds } := by
  refine ledger.snoc rfl rfl rfl rfl fun certified expiry filed => ?_
  refine (ledger.ready_append filed _).imp_left fun expired => ?_
  exact Nat.le_trans expired (Nat.le_add_right _ _)

/-- A search for a ready certificate may take an expired one away. -/
theorem searched
    {number : Nat}
    (ledger : Ledger key firstGuard events scene)
    (answer : Option CertifiedKey) :
    Ledger key firstGuard (events ++ [.calls number (.findReady key) answer])
      (scene.after (.findReady key) answer) := by
  refine ledger.snoc rfl rfl rfl rfl fun certified expiry filed => ledger.ready_append ?_ _
  change (scene.readyCertificates.drop key scene.instant).entries.get? key = _ at filed
  unfold TimedCatalog.drop at filed
  split at filed
  · split at filed
    · exact filed
    · rw [TimedCatalog.remove, Catalog.get?_erase, if_pos rfl] at filed
      cases filed
  · exact filed

theorem kept
    {number : Nat}
    {certified : CertifiedKey}
    (ledger : Ledger key firstGuard events scene)
    (certifies : Certifies events certified) :
    Ledger key firstGuard (events ++ [.calls number (.keepReady key certified) ()])
      (scene.after (.keepReady key certified) ()) := by
  refine ledger.snoc rfl rfl rfl rfl fun filedKey expiry filed => Or.inr ?_
  change (Catalog.insert _ key _).get? key = some (filedKey, expiry) at filed
  rw [Catalog.get?_insert, if_pos rfl] at filed
  cases filed
  exact certifies.append _

/-- A new owner that has looked early and has not waited is the first one, or comes
late. -/
theorem granted
    {number guardNumber : Nat}
    (ledger : Ledger key firstGuard events scene)
    (early : lookedEarly events number = true)
    (unclaimed : hasClaimed events number = false)
    (claimed : (scene.locks.acquire key).1 = .owner guardNumber) :
    Ledger key firstGuard (events ++ [.calls number (.claim key) (.owner guardNumber)])
      (scene.after (.claim key) (.owner guardNumber)) := by
  obtain ⟨unlocked, isNext, next⟩ := IssuanceLocks.acquire_owner claimed
  have oneMore :
      (events ++ [TrafficEvent.calls number (.claim key) (.owner guardNumber)]).countP
        TrafficEvent.grants = events.countP TrafficEvent.grants + 1 :=
    countP_snoc ..
  refine ⟨fun unwritten => ?_, fun written => ?_, fun certified expiry filed => ?_⟩
  · rw [hasWritten_snoc rfl] at unwritten
    obtain ⟨nothing, before⟩ := ledger.unwritten unwritten
    rcases before with ⟨none, -, isFirst⟩ | ⟨-, held⟩
    · refine ⟨nothing, Or.inr ⟨by rw [oneMore, none], ?_⟩⟩
      change (scene.locks.acquire key).2.held.get? key = some firstGuard
      rw [next, Catalog.get?_insert, if_pos rfl, isNext, isFirst]
    · rw [held] at unlocked
      cases unlocked
  · rw [hasWritten_snoc rfl] at written
    obtain ⟨grants, issued, member, stored⟩ := ledger.written written
    have isLate :
        isLateGrant events (.calls number (.claim key) (.owner guardNumber)) = true := by
      rw [isLateGrant, written, early, unclaimed]
      rfl
    rw [oneMore, lateGrants_snoc, isLate, grants]
    exact ⟨Nat.add_assoc _ _ _, issued, issued_append member _, stored⟩
  · exact ledger.ready_append filed _

/-- The owner's record is the first one that is written, or replaces another. -/
theorem stored
    {number guardNumber : Nat}
    {record : CertificateResource}
    (ledger : Ledger key firstGuard events scene)
    (isKey : HostName.storeKey key = key)
    (issued : record ∈ issuedIn events)
    (held : scene.locks.held.get? key = some guardNumber) :
    Ledger key firstGuard (events ++ [.calls number (.putRecord key record) (.ok ())])
      (scene.after (.putRecord key record) (.ok ())) := by
  have sameGrants :
      (events ++ [TrafficEvent.calls number (.putRecord key record) (.ok ())]).countP
        TrafficEvent.grants = events.countP TrafficEvent.grants :=
    countP_snoc ..
  refine ⟨fun unwritten => ?_, fun _ => ⟨?_, record, issued_append issued _, ?_⟩,
    fun certified expiry filed => ledger.ready_append filed _⟩
  · rw [hasWritten_snoc_of_writes rfl] at unwritten
    cases unwritten
  · rw [sameGrants, lateGrants_snoc, isLateGrant_of_not_grants rfl]
    cases before : hasWritten events with
    | true => exact (ledger.written before).1
    | false =>
        rw [lateGrants_of_unwritten before]
        rcases (ledger.unwritten before).2 with ⟨-, unlocked, -⟩ | ⟨one, -⟩
        · rw [unlocked] at held
          cases held
        · exact one
  · change (Catalog.insert _ (HostName.storeKey key) record).get? key = some record
    rw [Catalog.get?_insert, isKey, if_pos rfl]

/-- Once a record is written the locks no longer matter. -/
theorem released
    {number : Nat}
    (ledger : Ledger key firstGuard events scene)
    (written : hasWritten events = true) :
    Ledger key firstGuard (events ++ [.calls number (.release key) ()])
      (scene.after (.release key) ()) := by
  refine ⟨fun unwritten => ?_, fun _ => ?_,
    fun certified expiry filed => ledger.ready_append filed _⟩
  · rw [hasWritten_snoc rfl, written] at unwritten
    cases unwritten
  · obtain ⟨grants, issued, member, stored⟩ := ledger.written written
    rw [countP_snoc, lateGrants_snoc, isLateGrant_of_not_grants rfl]
    exact ⟨grants, issued, issued_append member _, stored⟩

end Ledger

end Traffic

end OnDemandTls
