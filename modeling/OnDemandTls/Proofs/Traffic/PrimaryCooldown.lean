import OnDemandTls.Proofs.Traffic.AskedNames
import OnDemandTls.Proofs.Traffic.Backoff
import OnDemandTls.Proofs.Traffic.PrimaryRecord

namespace OnDemandTls

/-!
# The cool-down of the primary certificate

An issuance that fails asks to be left alone for six hours, by the mark of the
certificate that it keeps or by the subject and the validity of its mock.  Handshakes
comply with it; a cycle of maintenance looks only at the expiry of the primary
certificate.  Unless somebody has asked for the renewal of a certificate that was not
within thirty days of its expiry, nor is what the failure leaves, so every later cycle
that finds it has it renewed again.
-/

namespace CertificateResource

/-- The resource is what an issuance leaves that has failed at some second: a
certificate that is marked, or a mock. -/
def LeftAt
    (resource : CertificateResource)
    (second : Int) :
    Prop :=
  resource.origin = .acme ∧ resource.retryAfter = some (second + retryBackoff) ∨
    resource.origin = .mock ∧ resource.validTill = second + Mock.validity

end CertificateResource

/-! ## What failures leave -/

/-- Whatever is renewed, a failure leaves a certificate with its mark, or a mock. -/
theorem cooldown_leftAt : Cooldown (fun _ _ => True) CertificateResource.LeftAt where
  lasts := fun _ _ => trivial
  due := fun _ => trivial
  marks := fun _ isIssued => Or.inl ⟨isIssued, rfl⟩
  mocks := fun made => Or.inr ⟨Mock.origin_of_make made, Mock.validTill_of_make made⟩

/-- Within the window of the primary certificate, a failure leaves what is within it. -/
theorem cooldown_primaryClosing :
    Cooldown CertificateResource.IsPrimaryClosing CertificateResource.IsPrimaryClosing where
  lasts := CertificateResource.IsPrimaryClosing.mono
  due := by
    intro resource now closing
    simp only [CertificateResource.IsClosing, CertificateResource.renewalWindow] at closing
    simp only [CertificateResource.IsPrimaryClosing, Gateway.primaryRenewalWindow]
    omega
  marks := fun closing _ => closing
  mocks := by
    intro subject reason second mock made
    rw [CertificateResource.IsPrimaryClosing, Mock.validTill_of_make made]
    simp only [Mock.validity, Gateway.primaryRenewalWindow]
    omega

/-! ## What a cycle finds -/

namespace SweepStage

variable {gateway : Gateway} {interval : Nat} {withHandshakes : Bool}

/-- A cycle that looks for a record looks for the primary one. -/
theorem seekingPrimary_of_moves
    {stage later : SweepStage}
    {looked : String}
    {found : Option CertificateResource}
    (moves : Moves gateway interval withHandshakes stage (.findRecord looked) (.ok found) later) :
    ∃ now report,
      stage = .seekingPrimary now report ∧ later = primaryFound gateway now report found := by
  cases moves with
  | primaryFound now report => exact ⟨now, report, rfl, rfl⟩

theorem primaryFound_of_closing
    {now : Int}
    {record : CertificateResource}
    (closing : record.IsPrimaryClosing now)
    (report : MaintenanceReport) :
    primaryFound gateway now report (some record) =
      .launching report (gateway.primaryRenewal record) := by
  have due : gateway.primaryRenewalRequest? record now = some (gateway.primaryRenewal record) :=
    Gateway.primaryRenewalRequest?_eq_some_iff.mpr ⟨closing, rfl⟩
  rw [primaryFound, Option.bind_some, due]

theorem primaryFound_of_not_closing
    {now : Int}
    {record : CertificateResource}
    (early : ¬ record.IsPrimaryClosing now)
    (report : MaintenanceReport) :
    primaryFound gateway now report (some record) =
      .finished (.ok { report with primaryRenewal := none }) := by
  have notDue : gateway.primaryRenewalRequest? record now = none :=
    Option.eq_none_iff_forall_ne_some.mpr fun request due =>
      early (Gateway.primaryRenewalRequest?_eq_some_iff.mp due).1
  rw [primaryFound, Option.bind_some, notDue]

end SweepStage

namespace TaskStage

/-- A task that maintains the gateway goes on as its cycle does. -/
theorem SweepsAt.goesOn
    {gateway : Gateway}
    {interval : Nat}
    {withHandshakes : Bool}
    {has : SweepStage → Prop}
    {stage later : TaskStage}
    {call : GatewayCall}
    {answer : call.Answer}
    (fits : stage.Fits gateway (.sweeping interval withHandshakes))
    (sweeps : stage.SweepsAt gateway (.sweeping interval withHandshakes) has)
    (moves : Moves gateway stage call answer later) :
    ∃ before after,
      has before ∧
        SweepStage.Moves gateway interval withHandshakes before call answer after ∧
        later.program gateway =
          (after.program gateway interval withHandshakes).bind fun result =>
            .done (.swept result) := by
  cases moves with
  | handshake inside =>
      obtain ⟨serverName, protocols, isHandshake, -⟩ := fits
      cases isHandshake
  | issuance inside => cases fits.1
  | primarySought answer => cases fits
  | upkeep only answer =>
      obtain ⟨sameInterval, sameFlag, before, isSweep, upcoming, hasBefore⟩ := sweeps
      cases isSweep
      obtain ⟨after, inside, rest⟩ := SweepStage.moves_of_program upcoming.symm answer
      exact ⟨before, after, hasBefore, inside, by rw [program, rest]⟩

end TaskStage

namespace Traffic

variable {gateway : Gateway} {scene : Scene}

/-- A cycle that has found the primary certificate has it renewed within its window,
by the second that the cycle was told, and ends otherwise. -/
theorem cycle_of_found
    {events : List TrafficEvent}
    {before after : Traffic (GatewayProgram TaskResult)}
    {sweeper : Nat}
    {sweep : GatewayTask (GatewayProgram TaskResult)}
    {interval : Nat}
    {withHandshakes : Bool}
    {looked : String}
    {record : CertificateResource}
    (run : Run gateway.behaviour (quiet scene) events before)
    (present : before.tasks[sweeper]? = some sweep)
    (isSweep : sweep.errand = .sweeping interval withHandshakes)
    (finds :
      Step gateway.behaviour before (.calls sweeper (.findRecord looked) (.ok (some record)))
        after) :
    ∃ (now : Int) (report : MaintenanceReport) (rest : GatewayProgram TaskResult),
      lastTold? events sweeper = some now ∧
        (after.tasks[sweeper]?).bind GatewayTask.rest = some rest ∧
        (record.IsPrimaryClosing now →
          ∃ next, rest = .call (.startObtaining (gateway.primaryRenewal record)) next) ∧
        (¬ record.IsPrimaryClosing now →
          rest = .done (.swept (.ok { report with primaryRenewal := none }))) := by
  obtain ⟨staged, stagedRun, rfl⟩ := run_staged run
  obtain ⟨stagedAfter, stagedStep, rfl⟩ := step_staged finds
  obtain ⟨original, thereToo, rfl⟩ := getElem?_map present
  obtain ⟨task, stage, next, there, left, moves, -, -, presentAfter⟩ := stagedStep.called
  cases there.symm.trans thereToo
  have fits := GuardsFit.fits_of_run stagedRun there left
  have sweeps := dated_of_run stagedRun there left
  rw [GatewayTask.map_errand] at isSweep
  rw [isSweep] at fits sweeps
  obtain ⟨stageBefore, stageAfter, dated, inside, goesOn⟩ := sweeps.goesOn fits moves
  obtain ⟨now, report, rfl, rfl⟩ := SweepStage.seekingPrimary_of_moves inside
  refine ⟨now, report, next.program gateway, dated.1, ?_, fun closing => ?_, fun early => ?_⟩
  · rw [getElem?_programs presentAfter]
    rfl
  · rw [SweepStage.primaryFound_of_closing closing] at goesOn
    exact ⟨_, goesOn⟩
  · rw [SweepStage.primaryFound_of_not_closing early] at goesOn
    exact goesOn

end Traffic

/-- The renewal of the primary certificate can ask an authority if there is one for
it. -/
theorem Gateway.primaryRenewal_asks_iff
    {gateway : Gateway}
    {record : CertificateResource} :
    (∃ call,
        GatewayCall.AsksAuthority call ∧
          (gateway.obtain (gateway.primaryRenewal record)).Makes call) ↔
      gateway.primary.isSome = true := by
  rw [exists_asks_iff, Option.isSome_iff_exists]
  refine exists_congr fun client => ?_
  refine and_iff_left_of_imp fun _ => ?_
  -- The apex is left even if the wildcard before it cannot be proved.
  simp only [provableNames, primaryRenewal, PrimaryDomain.domains, Issuance.provable, List.map_cons]
  split <;> exact List.cons_ne_nil _ _

namespace Traffic

variable {gateway : Gateway} {scene : Scene}

/-- Maintenance and the cool-down of the primary certificate.  Take any run in which a
task stores what no authority has given it, since its issuance has failed, and any
later cycle of maintenance that finds this record as the primary one.  The record tells
when the issuance has failed, but the cycle renews it whenever it expires within thirty
days of the cycle's second; only if it is valid for longer, the cycle ends without a
renewal.  If all renewals of the run were started by handshakes and cycles, then the
record of a failure before that second expires within thirty days, so the cycle renews
it, also within the six hours; and the renewal can ask an authority, if there is one for
the primary domain. -/
theorem cycle_renews_failed_primary
    {front back : List TrafficEvent}
    {middle before after : Traffic (GatewayProgram TaskResult)}
    {writer sweeper : Nat}
    {written looked : String}
    {record : CertificateResource}
    {sweep : GatewayTask (GatewayProgram TaskResult)}
    {interval : Nat}
    {withHandshakes : Bool}
    (fails :
      Run gateway.behaviour (quiet scene)
        (front ++ [.calls writer (.putRecord written record) (.ok ())]) middle)
    (unissued : ¬ IssuedTo front writer record)
    (since : Run gateway.behaviour middle back before)
    (present : before.tasks[sweeper]? = some sweep)
    (isSweep : sweep.errand = .sweeping interval withHandshakes)
    (finds :
      Step gateway.behaviour before (.calls sweeper (.findRecord looked) (.ok (some record)))
        after) :
    let events := front ++ [.calls writer (.putRecord written record) (.ok ())] ++ back
    let renewal := gateway.primaryRenewal record
    ∃ (failed now : Int) (report : MaintenanceReport) (rest : GatewayProgram TaskResult),
      (lastTold? front writer = some failed ∧ record.LeftAt failed) ∧
        lastTold? events sweeper = some now ∧
        (after.tasks[sweeper]?).bind GatewayTask.rest = some rest ∧
        (record.IsPrimaryClosing now → ∃ next, rest = .call (.startObtaining renewal) next) ∧
        (¬ record.IsPrimaryClosing now →
          rest = .done (.swept (.ok { report with primaryRenewal := none }))) ∧
        ((∀ request, .arrives (.obtaining request) ∉ events) →
          failed ≤ now → record.IsPrimaryClosing now) ∧
        ((∃ call,
            GatewayCall.AsksAuthority call ∧ (gateway.obtain renewal).Makes call) ↔
          gateway.primary.isSome = true) := by
  intro events renewal
  obtain ⟨traffic, stored, earlier, stores, -⟩ := fails.split_at
  obtain ⟨staged, stagedRun, rfl⟩ := run_staged earlier
  obtain ⟨stagedMiddle, stagedStep, rfl⟩ := step_staged stores
  have whole : Run gateway.behaviour (quiet scene) events before := fails.append since
  have anything : RenewsOnly (fun _ _ => True) front := ⟨fun _ _ _ => trivial, fun _ _ => trivial⟩
  obtain ⟨failed, told, isLeft⟩ :=
    leaves_of_put cooldown_leftAt anything stagedRun stagedStep unissued
  obtain ⟨now, report, rest, toldNow, isRest, renews, ends⟩ :=
    cycle_of_found whole present isSweep finds
  refine ⟨failed, now, report, rest, ⟨told, isLeft⟩, toldNow, isRest, renews, ends, ?_,
    Gateway.primaryRenewal_asks_iff⟩
  intro unasked notBefore
  have only : RenewsOnly CertificateResource.IsPrimaryClosing front := by
    refine ⟨fun {request} _ _ arrived => ?_, fun _ closing => closing⟩
    exact (unasked request (List.mem_append_left _ (List.mem_append_left _ arrived))).elim
  obtain ⟨second, toldAgain, closing⟩ :=
    leaves_of_put cooldown_primaryClosing only stagedRun stagedStep unissued
  obtain rfl : failed = second := Option.some.inj (told.symm.trans toldAgain)
  exact closing.mono notBefore

/-! ## A renewal amid the cool-down -/

/-- A cycle of maintenance, up to where it looks for the primary certificate. -/
def pagesCycle
    (number : Nat)
    (second : Int)
    (stored : CertificateResource) :
    List TrafficEvent :=
  [ .arrives (.sweeping 3600 true)
  , .calls number .clock second
  , .calls number .listRecords (.ok [(".pages.example.org", stored)])
  , .calls number .compactStore (.ok "")
  , .calls number .purgeStaged 0
  , .calls number .purgeReady 0 ]

/-- A cycle of maintenance finds the primary certificate. -/
def pagesFound
    (number : Nat)
    (found : CertificateResource) :
    TrafficEvent :=
  .calls number (.findRecord ".pages.example.org") (.ok (some found))

/-- A cycle of maintenance has the primary certificate renewed. -/
def pagesLaunch
    (number : Nat)
    (found : CertificateResource) :
    TrafficEvent :=
  .calls number (.startObtaining (pagesGateway.primaryRenewal found)) (number + 1)

/-- The authority is asked to renew the primary certificate, and refuses. -/
def pagesAsked
    (number guardNumber : Nat)
    (found : CertificateResource) :
    List TrafficEvent :=
  [ .calls number (.claim ".pages.example.org") (.owner guardNumber)
  , .calls number (.spend .request) ()
  , .calls number (.renew .primary found) (.error (.generation "refused")) ]

/-- The primary certificate is stored; a cycle has it renewed, and that fails. -/
def pagesFailure : List TrafficEvent :=
  .arrives .ensuringPrimary :: ensuringEvents ++
    pagesCycle 1 1700000000 expiringCertificate ++
    [pagesFound 1 expiringCertificate, pagesLaunch 1 expiringCertificate] ++
    pagesAsked 2 1 expiringCertificate ++
    [ .calls 2 (.spend .failure) ()
    , .calls 2 (.spend .order) ()
    , .calls 2 (.spend .request) ()
    , .calls 2 (.order .primary ["*.pages.example.org", "pages.example.org"])
        (.error (.generation "refused"))
    , .calls 2 .clock 1700000000 ]

/-- The primary certificate with the mark of the failure. -/
def coolingCertificate : CertificateResource :=
  expiringCertificate.stamped 1700000000

/-- The certificate is stored with its mark. -/
def pagesMark : TrafficEvent :=
  .calls 2 (.putRecord ".pages.example.org" coolingCertificate) (.ok ())

/-- Ten minutes go by, and the next cycle begins. -/
def pagesPause : List TrafficEvent :=
  [.calls 2 (.release ".pages.example.org") (), .passes 600000] ++
    pagesCycle 3 1700000600 coolingCertificate

theorem pagesFailure_fails :
    ¬ IssuedTo pagesFailure 2 coolingCertificate ∧
      lastTold? pagesFailure 2 = some 1700000000 := by
  refine ⟨?_, by decide +kernel⟩
  rintro (⟨role, previous, member⟩ | ⟨role, domains, member⟩) <;>
    simp [pagesFailure, ensuringEvents, pagesCycle, pagesFound, pagesLaunch, pagesAsked] at member

/-- Ten minutes after a renewal of the primary certificate has failed, a cycle finds the
certificate with its mark and is about to have it renewed, and the theorem applies. -/
theorem marked_primary_certificate_is_renewed :
    ∃ middle before after rest,
      Run pagesGateway.behaviour (quiet (SmallGateway.scene Catalog.empty))
          (pagesFailure ++ [pagesMark]) middle ∧
        Run pagesGateway.behaviour middle pagesPause before ∧
        Step pagesGateway.behaviour before (pagesFound 3 coolingCertificate) after ∧
        coolingCertificate.LeftAt 1700000000 ∧
        (after.tasks[3]?).bind GatewayTask.rest = some rest ∧
        ∃ next,
          rest = .call (.startObtaining (pagesGateway.primaryRenewal coolingCertificate)) next := by
  have replayed :
      ((replay pagesGateway (quiet (SmallGateway.scene Catalog.empty))
          (pagesFailure ++ [pagesMark])).bind fun middle =>
        (replay pagesGateway middle pagesPause).bind fun before =>
          (replayEvent pagesGateway before (pagesFound 3 coolingCertificate)).bind fun _ =>
            before.tasks[3]?.bind GatewayTask.cycle?) =
        some (3600, true) := by
    decide +kernel
  obtain ⟨middle, accepted, onwards⟩ := Option.bind_eq_some_iff.mp replayed
  obtain ⟨before, acceptedBack, onwards⟩ := Option.bind_eq_some_iff.mp onwards
  obtain ⟨after, acceptedFind, onwards⟩ := Option.bind_eq_some_iff.mp onwards
  obtain ⟨sweep, present, isCycle⟩ := Option.bind_eq_some_iff.mp onwards
  have fails : Run pagesGateway.behaviour (quiet (SmallGateway.scene Catalog.empty))
      ([] ++ (pagesFailure ++ [pagesMark])) middle :=
    run_of_replay .nil accepted
  have since : Run pagesGateway.behaviour middle ([] ++ pagesPause) before :=
    run_of_replay .nil acceptedBack
  have finds := step_of_replayEvent acceptedFind
  obtain ⟨unissued, told⟩ := pagesFailure_fails
  obtain ⟨failed, now, report, rest, ⟨toldFailed, isLeft⟩, toldNow, isRest, renews, -, within, -⟩ :=
    cycle_renews_failed_primary fails unissued since present
      (GatewayTask.errand_of_cycle? isCycle) finds
  obtain rfl : failed = 1700000000 := Option.some.inj (toldFailed.symm.trans told)
  have isNow : lastTold? (pagesFailure ++ [pagesMark] ++ pagesPause) 3 = some 1700000600 := by
    decide +kernel
  obtain rfl : now = 1700000600 := Option.some.inj (toldNow.symm.trans isNow)
  have unasked : ∀ request,
      .arrives (.obtaining request) ∉ pagesFailure ++ [pagesMark] ++ pagesPause := by
    intro request arrived
    simp [pagesFailure, pagesMark, pagesPause, ensuringEvents, pagesCycle, pagesFound, pagesLaunch,
      pagesAsked] at arrived
  exact ⟨middle, before, after, rest, fails, since, finds, isLeft, isRest,
    renews (within unasked (by decide))⟩

/-- Nothing but the search for the primary certificate and two cycles of maintenance
goes on, and all writes work.  A renewal fails, and ten minutes later the certificate
with its mark is found and renewed, and the authority is asked. -/
theorem cooling_primary_certificate_is_asked_for :
    let events :=
      pagesFailure ++ [pagesMark] ++ pagesPause ++
        [pagesFound 3 coolingCertificate, pagesLaunch 3 coolingCertificate] ++
        pagesAsked 4 2 coolingCertificate
    (∃ traffic,
      Run pagesGateway.behaviour (quiet (SmallGateway.scene Catalog.empty)) events traffic) ∧
      (∀ errand,
        .arrives errand ∈ events → errand = .ensuringPrimary ∨ errand = .sweeping 3600 true) ∧
      WritesWork events ∧
      ¬ IssuedTo pagesFailure 2 coolingCertificate ∧
      lastTold? pagesFailure 2 = some 1700000000 ∧
      coolingCertificate.retryAfter = some (1700000000 + CertificateResource.retryBackoff) ∧
      lastTold? events 3 = some 1700000600 ∧
      (1700000600 : Int) < 1700000000 + CertificateResource.retryBackoff ∧
      pagesLaunch 3 coolingCertificate ∈ events ∧
      .calls 4 (.renew .primary coolingCertificate) (.error (.generation "refused")) ∈ events := by
  intro events
  have replayed :
      (replay pagesGateway (quiet (SmallGateway.scene Catalog.empty)) events).isSome = true := by
    decide +kernel
  obtain ⟨traffic, accepted⟩ := Option.isSome_iff_exists.mp replayed
  have run : Run pagesGateway.behaviour (quiet (SmallGateway.scene Catalog.empty))
      ([] ++ events) traffic :=
    run_of_replay .nil accepted
  have arrivals : ∀ errand,
      .arrives errand ∈ events → errand = .ensuringPrimary ∨ errand = .sweeping 3600 true := by
    intro errand arrived
    simpa [events, pagesFailure, pagesMark, pagesPause, ensuringEvents, pagesCycle, pagesFound,
      pagesLaunch, pagesAsked] using arrived
  have works : WritesWork events := by
    intro writer name record answer member
    simp only [events, pagesFailure, pagesMark, pagesPause, ensuringEvents, pagesCycle, pagesFound,
      pagesLaunch, pagesAsked, List.mem_append, List.mem_cons, TrafficEvent.calls.injEq,
      reduceCtorEq, false_and, and_false, GatewayCall.putRecord.injEq, List.not_mem_nil, or_false,
      false_or] at member
    rcases member with ⟨-, ⟨rfl, rfl⟩, same⟩ | ⟨-, ⟨rfl, rfl⟩, same⟩ <;> exact eq_of_heq same
  obtain ⟨unissued, told⟩ := pagesFailure_fails
  refine ⟨⟨traffic, run⟩, arrivals, works, unissued, told, rfl, by decide +kernel, by decide, ?_, ?_⟩
  · simp [events]
  · simp [events, pagesAsked]

end Traffic

end OnDemandTls
