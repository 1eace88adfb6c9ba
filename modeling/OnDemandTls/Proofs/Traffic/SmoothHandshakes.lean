import OnDemandTls.Proofs.Traffic.Guards
import OnDemandTls.Proofs.Traffic.SmoothRuns

namespace OnDemandTls

/-!
# Handshakes in smooth runs

A handshake of a smooth run goes through few stages (`HandshakeStage.OnCourse`).
With every call it keeps the ledger, stays on course, and asks the authority no
more often than it has become the owner of the name (`Traffic.Advances`).
-/

namespace Gateway

/-- The target of a custom domain for which certificates are issued. -/
theorem classify_of_issuesFor
    {gateway : Gateway}
    {name : String}
    (issues : gateway.IssuesFor name) :
    ∃ owner,
      gateway.classify name =
        { key := HostName.storeKey name
          primary := false
          issuanceAllowed := true
          user := some owner } := by
  obtain ⟨claim, claimed, authorized⟩ := issues.claimed
  refine ⟨claim.owner, ?_⟩
  rw [classify, issues.custom, if_neg Bool.false_ne_true, claimed]
  exact if_pos authorized

/-- The name that a handshake for a custom domain locks. -/
theorem key_clientJob
    (gateway : Gateway)
    (target : ServingTarget)
    (name : String) :
    (gateway.clientJob target name).key = HostName.storeKey name :=
  HostName.storeKey_fold name

/-- The owner of a custom domain is charged first. -/
theorem firstStage_clientJob
    {gateway : Gateway}
    {name : String}
    (issues : gateway.IssuesFor name)
    (canAsk : gateway.CanAskFor name) :
    ∃ owner,
      (gateway.clientJob (gateway.classify name) name).firstStage = .charging owner := by
  obtain ⟨owner, target⟩ := gateway.classify_of_issuesFor issues
  obtain ⟨client, isClient, provable⟩ := canAsk
  refine ⟨owner, ?_⟩
  have present : (gateway.clientJob (gateway.classify name) name).client.isNone = false := by
    change gateway.general.isNone = false
    rw [isClient]
    rfl
  have nonempty :
      (gateway.clientJob (gateway.classify name) name).issuance.domains.isEmpty = false := by
    refine Bool.eq_false_iff.mpr fun empty => provable ?_
    simpa [clientJob, isClient] using empty
  rw [IssuanceJob.firstStage, present, nonempty, target]
  rfl

end Gateway

/-! ## On course -/

open Traffic

namespace IssuanceStage

/-- The stages through which the issuance for a smooth handshake goes.  Who is about
to claim the name has looked for a record before there was one, and has not claimed
it before. -/
def OnCourse
    (events : List TrafficEvent)
    (firstGuard number : Nat) :
    IssuanceStage → Prop
  | claiming => lookedEarly events number = true ∧ hasClaimed events number = false
  | charging _ | payingOrder | payingRequest | ordering => True
  | waiting guardNumber =>
      hasWritten events = true ∨
        guardNumber = firstGuard ∧ 0 < events.countP TrafficEvent.grants
  | taking => hasWritten events = true
  | storing issued => issued ∈ issuedIn events
  | releasing result =>
      (∃ issued ∈ issuedIn events, result = .ok issued) ∧ hasWritten events = true
  | _ => False

/-- Whether an owner has yet to ask the authority. -/
def owes : IssuanceStage → Bool
  | charging _ | payingOrder | payingRequest | ordering => true
  | _ => false

theorem OnCourse.snoc
    {events : List TrafficEvent}
    {event : TrafficEvent}
    {firstGuard number : Nat}
    {stage : IssuanceStage}
    (course : stage.OnCourse events firstGuard number)
    (idle : event.task? ≠ some number) :
    stage.OnCourse (events ++ [event]) firstGuard number := by
  cases stage with
  | claiming =>
      obtain ⟨early, unclaimed⟩ := course
      exact ⟨lookedEarly_snoc early (TrafficEvent.looks_of_idle idle),
        (any_snoc (TrafficEvent.claims_of_idle idle)).trans unclaimed⟩
  | waiting guardNumber =>
      refine course.imp (hasWritten_append · _) (And.imp_right fun granted => ?_)
      rw [List.countP_append]
      exact Nat.lt_add_right _ granted
  | taking => exact hasWritten_append course _
  | storing issued => exact issued_append course _
  | releasing result =>
      obtain ⟨⟨issued, member, isResult⟩, written⟩ := course
      exact ⟨⟨issued, issued_append member _, isResult⟩, hasWritten_append written _⟩
  | _ => exact course

end IssuanceStage

namespace HandshakeStage

/-- The stages through which a smooth handshake goes. -/
def OnCourse
    (gateway : Gateway)
    (name : String)
    (firstGuard : Nat)
    (events : List TrafficEvent)
    (number : Nat) :
    HandshakeStage → Prop
  | seekingReady target asked | seekingRecord target asked =>
      (target = gateway.classify name ∧ asked = name) ∧ hasClaimed events number = false
  | dating target asked resource =>
      (target = gateway.classify name ∧ asked = name) ∧ resource ∈ issuedIn events
  | obtaining target asked stage =>
      (target = gateway.classify name ∧ asked = name) ∧
        stage.OnCourse events firstGuard number
  | keeping key certified => key = HostName.storeKey name ∧ Certifies events certified
  | finished result => ∃ certified, result = .ok certified ∧ Certifies events certified
  | _ => False

/-- Whether a handshake has become the owner of its name and has yet to ask the
authority. -/
def owes : HandshakeStage → Bool
  | obtaining _ _ stage => stage.owes
  | _ => false

theorem OnCourse.snoc
    {gateway : Gateway}
    {name : String}
    {firstGuard number : Nat}
    {events : List TrafficEvent}
    {event : TrafficEvent}
    {stage : HandshakeStage}
    (course : stage.OnCourse gateway name firstGuard events number)
    (idle : event.task? ≠ some number) :
    stage.OnCourse gateway name firstGuard (events ++ [event]) number := by
  cases stage with
  | seekingReady target asked | seekingRecord target asked =>
      exact ⟨course.1, (any_snoc (TrafficEvent.claims_of_idle idle)).trans course.2⟩
  | dating target asked resource => exact ⟨course.1, issued_append course.2 _⟩
  | obtaining target asked stage => exact ⟨course.1, course.2.snoc idle⟩
  | keeping key certified => exact ⟨course.1, course.2.append _⟩
  | finished result =>
      obtain ⟨certified, isResult, certifies⟩ := course
      exact ⟨certified, isResult, certifies.append _⟩
  | _ => exact course

/-- A handshake for a custom domain begins on course. -/
theorem onCourse_opening
    {gateway : Gateway}
    {name : String}
    {serverName : Option String}
    {protocols : List String}
    {events : List TrafficEvent}
    {number : Nat}
    (issues : gateway.IssuesFor name)
    (isHandshake : (Errand.resolving serverName protocols).IsHandshakeFor name)
    (firstGuard : Nat)
    (unclaimed : hasClaimed events number = false) :
    (opening gateway serverName protocols).OnCourse gateway name firstGuard events number ∧
      (opening gateway serverName protocols).owes = false := by
  cases serverName with
  | none => exact isHandshake.elim
  | some serverName =>
      obtain ⟨rfl, noValidation⟩ := isHandshake
      have named :
          ((some serverName).map HostName.asked).filter (· ≠ "") =
            some (HostName.asked serverName) := by
        simp [Option.filter, issues.named]
      have opens :
          opening gateway (some serverName) protocols =
            .seekingReady (gateway.classify (HostName.asked serverName))
              (HostName.asked serverName) := by
        rw [opening, named]
        simp only [noValidation, Bool.false_eq_true, if_false]
      rw [opens]
      exact ⟨⟨⟨rfl, rfl⟩, unclaimed⟩, rfl⟩

/-- A certificate that was issued is served. -/
theorem serve_of_issued
    {gateway : Gateway}
    {name : String}
    {firstGuard number : Nat}
    {events : List TrafficEvent}
    {resource : CertificateResource}
    (issues : gateway.IssuesFor name)
    (lasting : Lasting events)
    (issued : resource ∈ issuedIn events)
    (asked : String) :
    (serve (gateway.classify name) asked resource).OnCourse gateway name firstGuard events
        number ∧
      (serve (gateway.classify name) asked resource).owes = false := by
  obtain ⟨certified, isKey⟩ := lasting.usable resource issued
  obtain ⟨owner, target⟩ := gateway.classify_of_issuesFor issues
  rw [serve, isKey, target]
  exact ⟨⟨rfl, resource, issued, isKey⟩, rfl⟩

end HandshakeStage

namespace Traffic

/-- A call of a smooth handshake keeps the ledger, keeps the handshake on course,
and pays for what is asked of the authority with what was granted. -/
structure Advances
    (gateway : Gateway)
    (name : String)
    (firstGuard : Nat)
    (events : List TrafficEvent)
    (scene : Scene)
    (stage : HandshakeStage)
    (number : Nat)
    (call : GatewayCall)
    (answer : call.Answer)
    (later : HandshakeStage) :
    Prop where
  ledger :
    Ledger (HostName.storeKey name) firstGuard (events ++ [.calls number call answer])
      (scene.after call answer)
  course : later.OnCourse gateway name firstGuard (events ++ [.calls number call answer]) number
  balance :
    (if (TrafficEvent.calls number call answer).asks then 1 else 0) +
        (if later.owes then 1 else 0) =
      (if (TrafficEvent.calls number call answer).grants then 1 else 0) +
        (if stage.owes then 1 else 0)
  alone : launched call = []

namespace Advances

variable {gateway : Gateway} {name : String} {firstGuard number : Nat}
variable {events : List TrafficEvent} {scene : Scene}

/-- What a record that is read under the key tells. -/
theorem issued_of_read
    {found : Option CertificateResource}
    (ledger : Ledger (HostName.storeKey name) firstGuard events scene)
    (admitted : scene.Admits (.findRecord (HostName.storeKey name)) (.ok found)) :
    found = scene.records.get? (HostName.storeKey name) ∧
      ∀ resource, found = some resource → resource ∈ issuedIn events := by
  have isFound : found = scene.records.get? (HostName.storeKey name) := by
    rcases admitted with isRecord | ⟨error, isError⟩
    · rw [Except.ok.inj isRecord, Records.find?, HostName.storeKey_storeKey]
    · cases isError
  refine ⟨isFound, fun resource isResource => ?_⟩
  exact (ledger.issued_of_get? (isFound.symm.trans isResource)).1

/-- The calls of an issuance for a smooth handshake. -/
theorem of_issuance
    {stage : IssuanceStage}
    {call : GatewayCall}
    {answer : call.Answer}
    {later : IssuanceProgress}
    (issues : gateway.IssuesFor name)
    (canAsk : gateway.CanAskFor name)
    (smooth : Smooth name (events ++ [.calls number call answer]))
    (lasting : Lasting (events ++ [.calls number call answer]))
    (ledger : Ledger (HostName.storeKey name) firstGuard events scene)
    (course : stage.OnCourse events firstGuard number)
    (held :
      stage.owns = true →
      ∃ guardNumber, scene.locks.held.get? (HostName.storeKey name) = some guardNumber)
    (moves :
      IssuanceStage.Moves (gateway.clientJob (gateway.classify name) name) stage call answer later)
    (admitted : scene.Admits call answer) :
    Advances gateway name firstGuard events scene (.obtaining (gateway.classify name) name stage)
      number call answer (HandshakeStage.proceed (gateway.classify name) name later) := by
  have now : .calls number call answer ∈ events ++ [TrafficEvent.calls number call answer] :=
    List.mem_append_right _ (List.mem_singleton_self _)
  have isKey := gateway.key_clientJob (gateway.classify name) name
  cases moves with
  | busy guardNumber =>
      rw [isKey] at admitted ⊢
      obtain ⟨isHeld, sameLocks⟩ := IssuanceLocks.acquire_busy admitted.symm
      refine ⟨ledger.snoc rfl rfl rfl sameLocks ?_, ⟨⟨rfl, rfl⟩, ?_⟩, rfl, rfl⟩
      · exact fun _ _ filed => ledger.ready_append filed _
      · exact ledger.awaits_of_held isHeld _
  | owner guardNumber =>
      rw [isKey] at admitted ⊢
      obtain ⟨owner, charges⟩ := gateway.firstStage_clientJob issues canAsk
      rw [charges]
      obtain ⟨early, unclaimed⟩ := course
      exact ⟨ledger.granted early unclaimed admitted.symm, ⟨⟨rfl, rfl⟩, trivial⟩, rfl, rfl⟩
  | awaited guardNumber =>
      rw [isKey] at admitted ⊢
      have written := ledger.hasWritten_of_released course admitted
      exact ⟨ledger.idle rfl rfl, ⟨⟨rfl, rfl⟩, hasWritten_append written _⟩, rfl, rfl⟩
  | unreadable error => exact (smooth.readable _ _ _ now).elim
  | missing =>
      rw [isKey] at admitted
      obtain ⟨-, issued, -, isStored⟩ := ledger.written course
      cases (issued_of_read ledger admitted).1.trans isStored
  | taken resource =>
      rw [isKey] at lasting admitted ⊢
      have issued := (issued_of_read ledger admitted).2 resource rfl
      obtain ⟨served, settled⟩ :=
        HandshakeStage.serve_of_issued issues lasting (issued_append issued _) name
      exact ⟨ledger.idle rfl rfl, served, by rw [HandshakeStage.proceed, settled]; rfl, rfl⟩
  | granted user => exact ⟨ledger.idle rfl rfl, ⟨⟨rfl, rfl⟩, trivial⟩, rfl, rfl⟩
  | denied user => exact (smooth.affordable _ _ now).elim
  | paidOrder => exact ⟨ledger.idle rfl rfl, ⟨⟨rfl, rfl⟩, trivial⟩, rfl, rfl⟩
  | paidRequest => exact ⟨ledger.idle rfl rfl, ⟨⟨rfl, rfl⟩, trivial⟩, rfl, rfl⟩
  | ordered issued =>
      have isIssued : issued ∈ issuedIn _ := List.mem_filterMap.mpr ⟨_, now, rfl⟩
      exact ⟨ledger.idle rfl rfl, ⟨⟨rfl, rfl⟩, isIssued⟩, rfl, rfl⟩
  | refused reason =>
      cases smooth.issued _ now rfl
  | stored issued =>
      rw [isKey]
      obtain ⟨guardNumber, isHeld⟩ := held rfl
      refine ⟨ledger.stored (HostName.storeKey_storeKey name) course isHeld, ?_, rfl, rfl⟩
      exact ⟨⟨rfl, rfl⟩, ⟨issued, issued_append course _, rfl⟩, hasWritten_snoc_of_writes rfl⟩
  | notStored issued error => exact (smooth.writable _ _ _ _ now).elim
  | released result =>
      rw [isKey] at lasting ⊢
      obtain ⟨⟨issued, member, rfl⟩, written⟩ := course
      obtain ⟨served, settled⟩ :=
        HandshakeStage.serve_of_issued issues lasting (issued_append member _) name
      exact ⟨ledger.released written, served, by rw [HandshakeStage.proceed, settled]; rfl, rfl⟩
  | _ => exact course.elim

/-- The calls of a smooth handshake. -/
theorem of_moves
    {stage later : HandshakeStage}
    {call : GatewayCall}
    {answer : call.Answer}
    (issues : gateway.IssuesFor name)
    (canAsk : gateway.CanAskFor name)
    (smooth : Smooth name (events ++ [.calls number call answer]))
    (lasting : Lasting (events ++ [.calls number call answer]))
    (ledger : Ledger (HostName.storeKey name) firstGuard events scene)
    (course : stage.OnCourse gateway name firstGuard events number)
    (held :
      (stage.standing gateway).owned? = some (HostName.storeKey name) →
      ∃ guardNumber, scene.locks.held.get? (HostName.storeKey name) = some guardNumber)
    (moves : HandshakeStage.Moves gateway stage call answer later)
    (admitted : scene.Admits call answer) :
    Advances gateway name firstGuard events scene stage number call answer later := by
  have now : .calls number call answer ∈ events ++ [TrafficEvent.calls number call answer] :=
    List.mem_append_right _ (List.mem_singleton_self _)
  obtain ⟨owner, target⟩ := gateway.classify_of_issuesFor issues
  have isKey : (gateway.classify name).key = HostName.storeKey name := by rw [target]
  cases moves with
  | ready _ asked certified =>
      obtain ⟨⟨rfl, rfl⟩, -⟩ := course
      rw [isKey] at admitted ⊢
      have certifies := ledger.certifies_of_find? admitted.symm
      exact ⟨ledger.searched _, ⟨certified, rfl, certifies.append _⟩, rfl, rfl⟩
  | notReady _ asked =>
      obtain ⟨⟨rfl, rfl⟩, unclaimed⟩ := course
      rw [isKey]
      exact ⟨ledger.searched none, ⟨⟨rfl, rfl⟩, (any_snoc rfl).trans unclaimed⟩, rfl, rfl⟩
  | unreadable _ asked error => exact (smooth.readable _ _ _ now).elim
  | found _ asked resource =>
      obtain ⟨⟨rfl, rfl⟩, -⟩ := course
      rw [isKey] at admitted ⊢
      have issued := (issued_of_read ledger admitted).2 resource rfl
      have dates :
          HandshakeStage.found (gateway.classify asked) asked resource =
            .dating (gateway.classify asked) asked resource := by
        rw [HandshakeStage.found, target]
        rfl
      rw [dates]
      exact ⟨ledger.idle rfl rfl, ⟨⟨rfl, rfl⟩, issued_append issued _⟩, rfl, rfl⟩
  | missing _ asked =>
      obtain ⟨⟨rfl, rfl⟩, unclaimed⟩ := course
      have obtains :
          HandshakeStage.missing (gateway.classify asked) asked =
            .obtaining (gateway.classify asked) asked .claiming := by
        rw [HandshakeStage.missing, target]
        rfl
      -- Had a record been stored, it would have been found.
      have unwritten : hasWritten events = false := by
        rw [isKey] at admitted
        refine Bool.eq_false_iff.mpr fun written => ?_
        obtain ⟨-, issued, -, isStored⟩ := ledger.written written
        cases (issued_of_read ledger admitted).1.trans isStored
      rw [obtains]
      refine ⟨ledger.idle rfl rfl, ⟨⟨rfl, rfl⟩, ?_, (any_snoc rfl).trans unclaimed⟩, rfl, rfl⟩
      exact lookedEarly_snoc_of_misses unwritten rfl (beq_self_eq_true number)
  | dated _ asked resource second =>
      obtain ⟨⟨rfl, rfl⟩, issued⟩ := course
      have stillIssued := issued_append issued [.calls number .clock second]
      have serves :
          HandshakeStage.dated (gateway.classify asked) asked resource second =
            HandshakeStage.serve (gateway.classify asked) asked resource := by
        unfold HandshakeStage.dated Gateway.renewalRequest?
        cases decision : resource.renewalDecision second with
        | valid => rfl
        | backoff => rfl
        | due => exact (lasting.fresh resource stillIssued _ _ now decision).elim
      obtain ⟨served, settled⟩ :=
        HandshakeStage.serve_of_issued issues lasting stillIssued asked
      rw [serves]
      exact ⟨ledger.idle rfl rfl, served, by rw [settled]; rfl, rfl⟩
  | @issuance _ asked inner _ _ progress inside =>
      obtain ⟨⟨rfl, rfl⟩, innerCourse⟩ := course
      refine of_issuance issues canAsk smooth lasting ledger innerCourse (fun owns => held ?_)
        inside admitted
      rw [HandshakeStage.standing, Standing.owned?, owns, gateway.key_clientJob]
      rfl
  | kept key certified =>
      obtain ⟨rfl, certifies⟩ := course
      exact ⟨ledger.kept certifies, ⟨certified, rfl, certifies.append _⟩, rfl, rfl⟩
  | _ => exact course.elim

end Advances

end Traffic

end OnDemandTls
