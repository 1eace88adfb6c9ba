import Mathlib.Algebra.Group.Int.Defs
import OnDemandTls.Proofs.Traffic.PrimaryRecord
import OnDemandTls.Proofs.Traffic.Transcripts

namespace OnDemandTls

/-!
# What a cycle of maintenance deletes

A cycle runs alone in a scene.  Along its deletions the keys that it has tried
and those that are left are together the keys that it has listed, its report has
those whose deletion worked, and nothing else is gone (`SweepStage.Swept`).  As
long as the time of the next cycle is one of 64 bits, the keys that it lists are
those of the records that expire before that time
(`Scene.sweep_deletes_expiring`).

A longer rest is accepted as well, and then that time is wrong:
`Scene.endless_rest_keeps_expiring`.
-/

/-! ## Deletions -/

namespace Exchange

/-- A deletion with its answer. -/
def deletion? : Exchange → Option (String × Except StoreError Unit)
  | ⟨.deleteRecord key, answer⟩ => some (key, answer)
  | _ => none

/-- The records could not be read. -/
def IsUnread : Exchange → Prop
  | ⟨.listRecords, .error _⟩ => True
  | ⟨.findRecord _, .error _⟩ => True
  | _ => False

/-- The records can be read, and deletions are answered in a given way. -/
def Obeys
    (answers : String → Except StoreError Unit)
    (exchange : Exchange) :
    Prop :=
  ¬ exchange.IsUnread ∧
    ∀ deletion, exchange.deletion? = some deletion → deletion.2 = answers deletion.1

end Exchange

/-- The deletions that were tried, with their answers. -/
def deletionsIn (transcript : List Exchange) : List (String × Except StoreError Unit) :=
  transcript.filterMap Exchange.deletion?

/-- The keys that were to be deleted. -/
def triedIn (transcript : List Exchange) : List String :=
  (deletionsIn transcript).map Prod.fst

/-- The keys whose deletion worked. -/
def deletedIn (transcript : List Exchange) : List String :=
  ((deletionsIn transcript).filter fun deletion => deletion.2.isOk).map Prod.fst

section Deletions

variable (transcript : List Exchange)

theorem deletionsIn_snoc (exchange : Exchange) :
    deletionsIn (transcript ++ [exchange]) =
      deletionsIn transcript ++ exchange.deletion?.toList := by
  cases isDeletion : exchange.deletion? <;> simp [deletionsIn, isDeletion]

variable (key : String)

theorem triedIn_snoc_delete (answer : Except StoreError Unit) :
    triedIn (transcript ++ [⟨.deleteRecord key, answer⟩]) = triedIn transcript ++ [key] := by
  simp [triedIn, deletionsIn_snoc, Exchange.deletion?]

theorem deletedIn_snoc_ok :
    deletedIn (transcript ++ [⟨.deleteRecord key, .ok ()⟩]) = deletedIn transcript ++ [key] := by
  simp [deletedIn, deletionsIn_snoc, Exchange.deletion?, Except.isOk, Except.toBool]

theorem deletedIn_snoc_error (error : StoreError) :
    deletedIn (transcript ++ [⟨.deleteRecord key, .error error⟩]) = deletedIn transcript := by
  simp [deletedIn, deletionsIn_snoc, Exchange.deletion?, Except.isOk, Except.toBool]

end Deletions

theorem deletedIn_sublist (transcript : List Exchange) :
    (deletedIn transcript).Sublist (triedIn transcript) :=
  List.filter_sublist.map Prod.fst

/-! ## What expires -/

namespace Gateway

/-- A record is not the primary one and expires before a time. -/
def Expires
    (gateway : Gateway)
    (records : Records)
    (time : Int)
    (key : String) :
    Prop :=
  ∃ resource,
    records.get? key = some resource ∧
      key ≠ gateway.primaryDomain.key ∧
      resource.validTill < time

variable {gateway : Gateway} {records : Records} {time : Int}

theorem mem_expiring
    {key : String} :
    key ∈ gateway.expiring time records.toList ↔ gateway.Expires records time key := by
  unfold expiring Expires
  rw [List.mem_map]
  constructor
  · rintro ⟨⟨filedKey, resource⟩, listed, rfl⟩
    obtain ⟨member, expires⟩ := List.mem_filter.mp listed
    simp only [Bool.and_eq_true, decide_eq_true_eq] at expires
    exact ⟨resource, Catalog.get?_eq_some_iff.mpr member, expires⟩
  · rintro ⟨resource, present, differs, soon⟩
    refine ⟨(key, resource), List.mem_filter.mpr ?_, rfl⟩
    exact ⟨Catalog.get?_eq_some_iff.mp present, by simp [differs, soon]⟩

/-- What expires is listed in the order of the keys. -/
theorem pairwise_expiring : (gateway.expiring time records.toList).Pairwise (· < ·) :=
  List.pairwise_map.mpr (records.ordered.sublist List.filter_sublist)

/-- Within 64 bits the next cycle is expected when it comes. -/
theorem nextCycle_eq
    {now : Int}
    {interval : Nat}
    (notBefore : -2 ^ 63 ≤ now + interval)
    (before : now + interval < 2 ^ 63) :
    nextCycle now interval = now + interval := by
  unfold nextCycle signedWord
  rw [Int.add_bmod_bmod]
  exact Int.bmod_eq_of_le (by simpa using notBefore) (by simpa using before)

end Gateway

/-! ## The deletions of a cycle -/

namespace SweepStage

variable {gateway : Gateway} {interval : Nat} {withHandshakes : Bool}

theorem follows :
    Program.Follows (program gateway interval withHandshakes)
      (Moves gateway interval withHandshakes) :=
  moves_of_program

section Sweeps

variable (gateway : Gateway) (interval : Nat) (before : Records)
variable (transcript : List Exchange) (records : Records)

/-- The invariant of the deletions: some keys are reported, and some are left. -/
structure Swept (now : Int) (reported rest : List String) : Prop where
  told : ⟨.clock, now⟩ ∈ transcript
  listed :
    triedIn transcript ++ rest =
      gateway.expiring (Gateway.nextCycle now interval) before.toList
  isReported : reported = deletedIn transcript
  left :
    ∀ key, records.get? key = if key ∈ deletedIn transcript then none else before.get? key

/-- What a cycle has done when it comes to a stage. -/
def Sweeps : SweepStage → Prop
  | dating => deletionsIn transcript = [] ∧ records = before
  | listing now =>
      ⟨.clock, now⟩ ∈ transcript ∧ deletionsIn transcript = [] ∧ records = before
  | deleting now report key others =>
      Swept gateway interval before transcript records now report.deleted (key :: others)
  | dropping now report key others =>
      Swept gateway interval before transcript records now (report.deleted ++ [key]) others
  | compacting now report
  | purgingStaged now report
  | purgingReady now report
  | seekingPrimary now report =>
      Swept gateway interval before transcript records now report.deleted []
  | launching report _
  | finished (.ok report) =>
      ∃ now, Swept gateway interval before transcript records now report.deleted []
  | finished (.error _) => ∃ exchange ∈ transcript, exchange.IsUnread

end Sweeps

variable {before records : Records} {transcript : List Exchange}
variable {now : Int} {reported rest : List String} {report : MaintenanceReport} {key : String}

namespace Swept

/-- Calls that delete nothing leave the invariant. -/
theorem snoc
    {exchange : Exchange}
    (swept : Swept gateway interval before transcript records now reported rest)
    (silent : exchange.deletion? = none) :
    Swept gateway interval before (transcript ++ [exchange]) records now reported rest := by
  have noFurther : deletionsIn (transcript ++ [exchange]) = deletionsIn transcript := by
    simp [deletionsIn_snoc, silent]
  refine ⟨List.mem_append_left _ swept.told, ?_, ?_, ?_⟩
  · rw [triedIn, noFurther]
    exact swept.listed
  · rw [deletedIn, noFurther]
    exact swept.isReported
  · rw [deletedIn, noFurther]
    exact swept.left

/-- A deletion that fails changes nothing about the records. -/
theorem snoc_error
    (swept : Swept gateway interval before transcript records now reported (key :: rest))
    (error : StoreError) :
    Swept gateway interval before (transcript ++ [⟨.deleteRecord key, .error error⟩])
      records now reported rest := by
  refine ⟨List.mem_append_left _ swept.told, ?_, ?_, ?_⟩
  · rw [triedIn_snoc_delete, List.append_assoc]
    exact swept.listed
  · rw [deletedIn_snoc_error]
    exact swept.isReported
  · rw [deletedIn_snoc_error]
    exact swept.left

/-- A deletion that works takes away the record under its very key: what was
listed is filed under a store key. -/
theorem snoc_ok
    (filed : before.Filed)
    (swept : Swept gateway interval before transcript records now reported (key :: rest)) :
    Swept gateway interval before (transcript ++ [⟨.deleteRecord key, .ok ()⟩])
      (records.delete key) now (reported ++ [key]) rest := by
  have expires : gateway.Expires before (Gateway.nextCycle now interval) key := by
    rw [← Gateway.mem_expiring, ← swept.listed]
    exact List.mem_append_right _ List.mem_cons_self
  obtain ⟨resource, present, -⟩ := expires
  have isKey : HostName.storeKey key = key := filed key (by rw [present]; rfl)
  refine ⟨List.mem_append_left _ swept.told, ?_, ?_, fun other => ?_⟩
  · rw [triedIn_snoc_delete, List.append_assoc]
    exact swept.listed
  · rw [deletedIn_snoc_ok, swept.isReported]
  · rw [Records.delete, isKey, Catalog.get?_erase, swept.left other, deletedIn_snoc_ok]
    by_cases same : other = key <;> simp [same]

/-- The deletions begin with all that is listed. -/
theorem of_listed
    (told : ⟨.clock, now⟩ ∈ transcript)
    (untried : deletionsIn transcript = []) :
    Swept gateway interval before transcript before now []
      (gateway.expiring (Gateway.nextCycle now interval) before.toList) := by
  refine ⟨told, ?_, ?_, ?_⟩
  · simp [triedIn, untried]
  · simp [deletedIn, untried]
  · simp [deletedIn, untried]

theorem sweeps_delete
    (swept : Swept gateway interval before transcript records now report.deleted rest) :
    (delete now report rest).Sweeps gateway interval before transcript records := by
  cases rest with
  | nil => exact swept
  | cons key others => exact swept

end Swept

/-- One move of a cycle keeps what is known about its deletions. -/
theorem Sweeps.moves
    {scene : Scene}
    {stage later : SweepStage}
    {call : GatewayCall}
    {answer : call.Answer}
    (filed : before.Filed)
    (sweeps : stage.Sweeps gateway interval before transcript scene.records)
    (moved : Moves gateway interval withHandshakes stage call answer later)
    (admitted : scene.Admits call answer) :
    later.Sweeps gateway interval before (transcript ++ [⟨call, answer⟩])
      (scene.after call answer).records := by
  cases moved with
  | dated now =>
      obtain ⟨untried, same⟩ := sweeps
      refine ⟨List.mem_append_right _ (List.mem_singleton_self _), ?_, same⟩
      simp [deletionsIn_snoc, untried, Exchange.deletion?]
  | unlisted now error =>
      exact ⟨_, List.mem_append_right _ (List.mem_singleton_self _), trivial⟩
  | listed now listed =>
      obtain ⟨told, untried, same⟩ := sweeps
      have isList : listed = before.toList := by
        rcases admitted with isOk | ⟨error, isError⟩
        · rw [← same]
          exact Except.ok.inj isOk
        · cases isError
      subst isList
      rw [show (scene.after .listRecords (.ok before.toList)).records = before from same]
      exact ((Swept.of_listed told untried).snoc rfl).sweeps_delete
  | deleted now report key others =>
      have swept := Swept.snoc_ok filed sweeps
      cases withHandshakes with
      | true => exact swept
      | false =>
          have reports : report.deleted ++ [key] = (report.withDeleted key).deleted := rfl
          rw [reports] at swept
          exact swept.sweeps_delete
  | notDeleted now report key others error => exact (Swept.snoc_error sweeps error).sweeps_delete
  | dropped now report key others =>
      have reports : report.deleted ++ [key] = (report.withDeleted key).deleted := rfl
      rw [Sweeps, reports] at sweeps
      exact (sweeps.snoc rfl).sweeps_delete
  | compacted now report answer => exact Swept.snoc sweeps rfl
  | stagedPurged now report count =>
      cases withHandshakes with
      | true => exact Swept.snoc sweeps rfl
      | false => exact Swept.snoc sweeps rfl
  | readyPurged now report count => exact Swept.snoc sweeps rfl
  | unreadable now report error =>
      exact ⟨_, List.mem_append_right _ (List.mem_singleton_self _), trivial⟩
  | primaryFound now report primary =>
      unfold primaryFound
      split
      · exact ⟨now, Swept.snoc sweeps rfl⟩
      · exact ⟨now, Swept.snoc sweeps rfl⟩
  | launched report request number =>
      obtain ⟨now, swept⟩ := sweeps
      exact ⟨now, swept.snoc rfl⟩

/-- Every call of a cycle can be answered, whichever deletions are to fail. -/
theorem Moves.answerable
    {stage after : SweepStage}
    {call : GatewayCall}
    {answer : call.Answer}
    (moved : Moves gateway interval withHandshakes stage call answer after)
    (scene : Scene)
    (answers : String → Except StoreError Unit) :
    ∃ reply, scene.Admits call reply ∧ Exchange.Obeys answers ⟨call, reply⟩ := by
  cases moved with
  | dated now => exact ⟨scene.second, rfl, id, nofun⟩
  | unlisted now error => exact ⟨.ok scene.records.toList, .inl rfl, id, nofun⟩
  | listed now records => exact ⟨.ok scene.records.toList, .inl rfl, id, nofun⟩
  | deleted now report key others =>
      exact ⟨answers key, trivial, id, fun deletion isDeletion => by cases isDeletion; rfl⟩
  | notDeleted now report key others error =>
      exact ⟨answers key, trivial, id, fun deletion isDeletion => by cases isDeletion; rfl⟩
  | dropped now report key others => exact ⟨(), trivial, id, nofun⟩
  | compacted now report answer => exact ⟨answer, trivial, id, nofun⟩
  | stagedPurged now report count => exact ⟨count, trivial, id, nofun⟩
  | readyPurged now report count => exact ⟨_, rfl, id, nofun⟩
  | unreadable now report error =>
      exact ⟨.ok (scene.records.find? gateway.primaryDomain.key), .inl rfl, id, nofun⟩
  | primaryFound now report primary =>
      exact ⟨.ok (scene.records.find? gateway.primaryDomain.key), .inl rfl, id, nofun⟩
  | launched report request number => exact ⟨number, trivial, id, nofun⟩

/-- A cycle has a result when it has finished. -/
theorem eq_finished_of_done
    {stage : SweepStage}
    {result : Except StoreError MaintenanceReport}
    (isOver : .done result = stage.program gateway interval withHandshakes) :
    stage = .finished result := by
  cases stage with
  | deleting now report key others =>
      rw [program, deleteAll_cons interval] at isOver
      cases isOver
  | purgingStaged now report =>
      rw [program, purge_bind interval] at isOver
      cases isOver
  | finished other =>
      cases isOver
      rfl
  | _ => cases isOver

end SweepStage

namespace Scene

variable {gateway : Gateway} {start later : Scene} {interval : Nat} {withHandshakes : Bool}

/-- A cycle alone in a scene comes to an end, whichever deletions are to fail. -/
theorem exists_performs_sweep (answers : String → Except StoreError Unit) :
    ∃ transcript later result,
      start.Performs (gateway.sweep interval withHandshakes) transcript later (.done result) ∧
        ∀ exchange ∈ transcript, exchange.Obeys answers := by
  have answerable :
      ∀ {transcript scene call next},
        start.Performs (SweepStage.dating.program gateway interval withHandshakes) transcript scene
          (.call call next) →
        ∃ answer, scene.Admits call answer ∧ Exchange.Obeys answers ⟨call, answer⟩ := by
    intro transcript scene call next performs
    obtain ⟨stage, upcoming, -⟩ :=
      performs.invariant (fun _ _ _ => True) SweepStage.follows (fun _ _ _ => trivial)
        (fun _ _ => trivial) trivial
    obtain ⟨after, moved, -⟩ := SweepStage.follows upcoming.symm call.someAnswer
    exact moved.answerable scene answers
  exact Performs.completes answerable .nil (List.forall_mem_nil _)

/-- What is known about the deletions when a cycle has ended. -/
theorem Performs.sweeps
    {transcript : List Exchange}
    {result : Except StoreError MaintenanceReport}
    (filed : start.records.Filed)
    (performs :
      start.Performs (gateway.sweep interval withHandshakes) transcript later (.done result)) :
    (SweepStage.finished result).Sweeps gateway interval start.records transcript
      later.records := by
  have opened :
      start.Performs (SweepStage.dating.program gateway interval withHandshakes) transcript later
        (.done result) :=
    performs
  obtain ⟨stage, isOver, sweeps⟩ :=
    opened.invariant
      (fun transcript scene stage =>
        stage.Sweeps gateway interval start.records transcript scene.records)
      SweepStage.follows
      (fun sweeps moved admitted => sweeps.moves filed moved admitted)
      (fun _ sweeps => sweeps)
      ⟨rfl, rfl⟩
  rw [← SweepStage.eq_finished_of_done isOver]
  exact sweeps

/-- A cycle of maintenance alone in a scene deletes what expires before the next
one: it comes to an end whichever deletions are to fail, and if the records can
be read, it has tried just the keys, in their order, of the records that expire
before its time and the interval together.  It reports the keys whose deletion
worked, and the store is what it was without them.  Every store files under store
keys, from when it is opened (`Records.filed_ofNamed`) to any later call
(`Scene.filed_after`). -/
theorem sweep_deletes_expiring (filed : start.records.Filed) :
    (∀ answers : String → Except StoreError Unit,
      ∃ transcript later result,
        start.Performs (gateway.sweep interval withHandshakes) transcript later (.done result) ∧
          ∀ exchange ∈ transcript, exchange.Obeys answers) ∧
      ∀ transcript later result,
        start.Performs (gateway.sweep interval withHandshakes) transcript later (.done result) →
        (∀ exchange ∈ transcript, ¬ exchange.IsUnread) →
        -2 ^ 63 ≤ start.second + interval →
        later.second + interval < 2 ^ 63 →
        ∃ now report,
          result = .ok report ∧
            (⟨.clock, now⟩ ∈ transcript ∧ start.second ≤ now ∧ now ≤ later.second) ∧
            (∀ key,
              key ∈ triedIn transcript ↔
                gateway.Expires start.records (now + interval) key) ∧
            (triedIn transcript).Pairwise (· < ·) ∧
            report.deleted = deletedIn transcript ∧
            report.deleted.Pairwise (· < ·) ∧
            ∀ key,
              later.records.get? key =
                if key ∈ report.deleted then none else start.records.get? key := by
  refine ⟨exists_performs_sweep, fun transcript later result performs read notBefore before => ?_⟩
  have sweeps := performs.sweeps filed
  cases result with
  | error error =>
      obtain ⟨exchange, member, isUnread⟩ := sweeps
      exact (read exchange member isUnread).elim
  | ok report =>
      obtain ⟨now, swept⟩ := sweeps
      have bounds := performs.second_of_clock swept.told
      have expected : Gateway.nextCycle now interval = now + interval :=
        Gateway.nextCycle_eq (by omega) (by omega)
      have tried := swept.listed
      rw [List.append_nil, expected] at tried
      have ordered : (triedIn transcript).Pairwise (· < ·) := tried ▸ Gateway.pairwise_expiring
      refine ⟨now, report, rfl, ⟨swept.told, bounds⟩, fun key => ?_, ordered, swept.isReported, ?_, ?_⟩
      · rw [tried]
        exact Gateway.mem_expiring
      · rw [swept.isReported]
        exact ordered.sublist (deletedIn_sublist transcript)
      · rw [swept.isReported]
        exact swept.left

/-! ## Cycles that are carried out -/

/-- Two records expire within the hour, and so does the primary one; the last one
is good for a day. -/
def soonExpiring : Records :=
  (((Records.put Catalog.empty "a.example.com" (SmallGateway.certificate "a" 1700000600)).put
    "b.example.com" (SmallGateway.certificate "b" 1700003599)).put
    ".pages.example.org" Traffic.expiringCertificate).put
    SmallGateway.blog (SmallGateway.certificate "good" 1700086400)

theorem filed_soonExpiring : soonExpiring.Filed :=
  (((Records.filed_empty.put _ _).put _ _).put _ _).put _ _

/-- The renewal of the primary certificate. -/
def primaryRenewal : ObtainRequest where
  domains := Traffic.pagesGateway.primaryDomain.domains
  previous := some Traffic.expiringCertificate
  role := .primary

/-- The end of a cycle that finds the primary certificate expiring. -/
def tidyingEvents : List TrafficEvent :=
  [ .calls 0 .compactStore (.ok "")
  , .calls 0 .purgeStaged 0
  , .calls 0 .purgeReady 0
  , .calls 0 (.findRecord ".pages.example.org") (.ok (some Traffic.expiringCertificate))
  , .calls 0 (.startObtaining primaryRenewal) 1 ]

/-- A cycle that can delete the first record but not the second one. -/
def hourlyEvents : List TrafficEvent :=
  [ .calls 0 .clock 1700000000
  , .calls 0 .listRecords (.ok soonExpiring.toList)
  , .calls 0 (.deleteRecord "a.example.com") (.ok ())
  , .calls 0 (.dropReady "a.example.com") ()
  , .calls 0 (.deleteRecord "b.example.com") (.error .closed) ] ++
    tidyingEvents

/-- When a cycle ends that is replayed alone, and with which report. -/
def replaySweep
    (gateway : Gateway)
    (start : Scene)
    (interval : Nat)
    (withHandshakes : Bool)
    (events : List TrafficEvent) :
    Option (Int × MaintenanceReport) :=
  let task := Traffic.newTask gateway.behaviour (.sweeping interval withHandshakes)
  (Traffic.replay gateway { scene := start, tasks := [task] } events).bind fun traffic =>
    (traffic.tasks[0]?.bind GatewayTask.swept?).map fun report => (traffic.scene.second, report)

theorem performs_of_replaySweep
    {events : List TrafficEvent}
    {second : Int}
    {report : MaintenanceReport}
    (replayed :
      replaySweep gateway start interval withHandshakes events = some (second, report))
    (alone : ∀ event ∈ events, event.IsAlone 0) :
    ∃ later,
      later.second = second ∧
        start.Performs (gateway.sweep interval withHandshakes) (Traffic.transcript 0 events) later
          (.done (.ok report)) := by
  obtain ⟨traffic, accepted, ended⟩ := Option.bind_eq_some_iff.mp replayed
  obtain ⟨same, swept, isPair⟩ := Option.map_eq_some_iff.mp ended
  obtain ⟨rfl, rfl⟩ := Prod.mk.inj isPair
  obtain ⟨task, present, isReport⟩ := Option.bind_eq_some_iff.mp swept
  obtain ⟨result, isResult, performs⟩ :=
    (Traffic.run_of_replay .nil accepted).performs_of_result rfl alone present
      (GatewayTask.rest_of_swept? isReport)
  cases isResult
  exact ⟨traffic.scene, rfl, performs⟩

/-- A cycle with an hour to the next one leaves the record that it could not
delete, the primary one and the one that is good for longer, and the theorem
applies. -/
theorem hourly_cycle_deletes_one :
    ∃ later report,
      Performs (SmallGateway.scene soonExpiring) (Traffic.pagesGateway.sweep 3600 true)
          (Traffic.transcript 0 hourlyEvents) later (.done (.ok report)) ∧
        report.deleted = ["a.example.com"] ∧
        later.records.get? "a.example.com" = none ∧
        (later.records.get? "b.example.com").isSome ∧
        (later.records.get? ".pages.example.org").isSome ∧
        (later.records.get? SmallGateway.blog).isSome := by
  have replayed :
      (replaySweep Traffic.pagesGateway (SmallGateway.scene soonExpiring) 3600 true
        hourlyEvents).map Prod.fst = some 1700000000 := by
    decide +kernel
  have alone : ∀ event ∈ hourlyEvents, event.IsAlone 0 := by
    simp [hourlyEvents, tidyingEvents, TrafficEvent.IsAlone]
  have read : ∀ exchange ∈ Traffic.transcript 0 hourlyEvents, ¬ exchange.IsUnread := by
    simp [Traffic.transcript, hourlyEvents, tidyingEvents, TrafficEvent.exchange?,
      Exchange.IsUnread]
  obtain ⟨⟨second, report⟩, ended, isSecond⟩ := Option.map_eq_some_iff.mp replayed
  obtain ⟨later, laterSecond, performs⟩ := performs_of_replaySweep ended alone
  have laterIs : later.second = 1700000000 := laterSecond.trans isSecond
  have filed : (SmallGateway.scene soonExpiring).records.Filed := filed_soonExpiring
  obtain ⟨now, reported, isReport, -, -, -, deleted, -, left⟩ :=
    (sweep_deletes_expiring filed).2 _ _ _ performs read (by decide) (by rw [laterIs]; decide)
  cases isReport
  have one : report.deleted = ["a.example.com"] := by
    rw [deleted]
    rfl
  refine ⟨later, report, performs, one, ?_, ?_, ?_, ?_⟩
  all_goals
    rw [left, one]
    decide +kernel

/-- Pages whose maintenance is to rest for longer than 64 bits can say. -/
def restlessPages : Config :=
  { Config.plainPages with maintenance := { intervalSecs := 0x8000000000000000 } }

/-- The cycle before this rest tries to delete nothing. -/
def endlessEvents : List TrafficEvent :=
  [ .calls 0 .clock 1700000000
  , .calls 0 .listRecords (.ok soonExpiring.toList) ] ++
    tidyingEvents

/-- Such a rest is accepted, and the cycle before it keeps a record that expires
in the meantime: the time of the next cycle comes out as one long past. -/
theorem endless_rest_keeps_expiring :
    ∃ settled later report,
      restlessPages.validate = .ok settled ∧
        Performs (SmallGateway.scene soonExpiring)
          (Traffic.pagesGateway.sweep settled.maintenance.intervalSecs.toNat true)
          (Traffic.transcript 0 endlessEvents) later (.done (.ok report)) ∧
        (∀ exchange ∈ Traffic.transcript 0 endlessEvents, ¬ exchange.IsUnread) ∧
        ⟨.clock, (1700000000 : Int)⟩ ∈ Traffic.transcript 0 endlessEvents ∧
        Traffic.pagesGateway.Expires soonExpiring
          (1700000000 + settled.maintenance.intervalSecs.toNat) "a.example.com" ∧
        "a.example.com" ∉ triedIn (Traffic.transcript 0 endlessEvents) ∧
        report.deleted = [] := by
  have accepted :
      restlessPages.validate =
        .ok { restlessPages with server := { mainDomain := "pages.example.org" } } := rfl
  have replayed :
      replaySweep Traffic.pagesGateway (SmallGateway.scene soonExpiring) 0x8000000000000000 true
          endlessEvents =
        some
          (1700000000,
            { MaintenanceReport.blank with compaction := some "", primaryRenewal := some 1 }) := by
    decide +kernel
  have alone : ∀ event ∈ endlessEvents, event.IsAlone 0 := by
    simp [endlessEvents, tidyingEvents, TrafficEvent.IsAlone]
  obtain ⟨later, -, performs⟩ := performs_of_replaySweep replayed alone
  refine ⟨_, later, _, accepted, performs, ?_, ?_, ?_, ?_, rfl⟩
  · simp [Traffic.transcript, endlessEvents, tidyingEvents, TrafficEvent.exchange?,
      Exchange.IsUnread]
  · simp [Traffic.transcript, endlessEvents, TrafficEvent.exchange?]
  · exact ⟨SmallGateway.certificate "a" 1700000600, by decide +kernel, by decide +kernel, by decide⟩
  · have nothing : triedIn (Traffic.transcript 0 endlessEvents) = [] := rfl
    simp [nothing]

end Scene

end OnDemandTls
