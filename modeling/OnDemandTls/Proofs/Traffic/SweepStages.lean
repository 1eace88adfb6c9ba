import OnDemandTls.Proofs.Traffic.TaskStages

namespace OnDemandTls

/-!
# Stages of a cycle of maintenance

The program of a cycle as a machine with one stage for each of its calls.  What
is left of a task that maintains the gateway is the program of such a stage
(`TaskStage.SweepsAt`), so what a cycle deletes, drops and launches can be read
off its stage.
-/

/-- Where a cycle of maintenance stands: before which call.  What it has done by
then is in its report, and `now` is the time that it was told. -/
inductive SweepStage where
  | dating
  | listing (now : Int)
  /-- A record is to be deleted, and then those under the other keys. -/
  | deleting (now : Int) (report : MaintenanceReport) (key : String) (others : List String)
  /-- A record was deleted; its ready certificate is to go, too. -/
  | dropping (now : Int) (report : MaintenanceReport) (key : String) (others : List String)
  | compacting (now : Int) (report : MaintenanceReport)
  | purgingStaged (now : Int) (report : MaintenanceReport)
  | purgingReady (now : Int) (report : MaintenanceReport)
  | seekingPrimary (now : Int) (report : MaintenanceReport)
  | launching (report : MaintenanceReport) (request : ObtainRequest)
  | finished (result : Except StoreError MaintenanceReport)

namespace MaintenanceReport

/-- The report of a cycle that has done nothing yet. -/
def blank : MaintenanceReport where
  deleted := []
  compaction := none
  purged := 0
  primaryRenewal := none

/-- The report with one more deletion. -/
def withDeleted
    (report : MaintenanceReport)
    (key : String) :
    MaintenanceReport :=
  { report with deleted := report.deleted ++ [key] }

end MaintenanceReport

namespace SweepStage

/-- What follows when some keys are left. -/
def delete
    (now : Int)
    (report : MaintenanceReport) :
    List String → SweepStage
  | [] => .compacting now report
  | key :: others => .deleting now report key others

/-- What follows a deletion that worked. -/
def deleted
    (withHandshakes : Bool)
    (now : Int)
    (report : MaintenanceReport)
    (key : String)
    (others : List String) :
    SweepStage :=
  if withHandshakes then
    .dropping now report key others
  else
    delete now (report.withDeleted key) others

/-- What follows when the staged answers are purged. -/
def purged
    (withHandshakes : Bool)
    (now : Int)
    (report : MaintenanceReport) :
    SweepStage :=
  if withHandshakes then .purgingReady now report else .seekingPrimary now report

/-- What follows when the primary certificate, or its absence, is known. -/
def primaryFound
    (gateway : Gateway)
    (now : Int)
    (report : MaintenanceReport)
    (primary : Option CertificateResource) :
    SweepStage :=
  match primary.bind fun resource => gateway.primaryRenewalRequest? resource now with
  | none => .finished (.ok { report with primaryRenewal := none })
  | some request => .launching report request

/-- The end of a cycle: the primary certificate is looked at. -/
def conclude
    (gateway : Gateway)
    (now : Int)
    (report : MaintenanceReport) :
    GatewayProgram (Except StoreError MaintenanceReport) :=
  .call (.findRecord gateway.primaryDomain.key) fun
    | .error error => .done (.error error)
    | .ok primary =>
        (Gateway.start (primary.bind fun resource =>
          gateway.primaryRenewalRequest? resource now)).bind fun renewal =>
            .done (.ok { report with primaryRenewal := renewal })

/-- What a cycle does once it has deleted what it deletes. -/
def tidy
    (gateway : Gateway)
    (withHandshakes : Bool)
    (now : Int)
    (report : MaintenanceReport) :
    GatewayProgram (Except StoreError MaintenanceReport) :=
  .call .compactStore fun compaction =>
    (Gateway.purge withHandshakes).bind fun purged =>
      conclude gateway now
        { report with compaction := compaction.toOption, purged := purged }

/-- What a cycle does with some keys left. -/
def deleteAll
    (gateway : Gateway)
    (withHandshakes : Bool)
    (now : Int)
    (report : MaintenanceReport)
    (keys : List String) :
    GatewayProgram (Except StoreError MaintenanceReport) :=
  (Gateway.deleteAll withHandshakes keys).bind fun deleted =>
    tidy gateway withHandshakes now { report with deleted := report.deleted ++ deleted }

/-- What is left of the program at a stage. -/
def program
    (gateway : Gateway)
    (interval : Nat)
    (withHandshakes : Bool) :
    SweepStage → GatewayProgram (Except StoreError MaintenanceReport)
  | dating => gateway.sweep interval withHandshakes
  | listing now =>
      .call .listRecords fun
        | .error error => .done (.error error)
        | .ok records =>
            deleteAll gateway withHandshakes now .blank
              (gateway.expiring (Gateway.nextCycle now interval) records)
  | deleting now report key others =>
      deleteAll gateway withHandshakes now report (key :: others)
  | dropping now report key others =>
      .call (.dropReady (HostName.storeKey key)) fun _ =>
        deleteAll gateway withHandshakes now (report.withDeleted key) others
  | compacting now report => tidy gateway withHandshakes now report
  | purgingStaged now report =>
      (Gateway.purge withHandshakes).bind fun purged =>
        conclude gateway now { report with purged := purged }
  | purgingReady now report =>
      .call .purgeReady fun count =>
        conclude gateway now { report with purged := report.purged + count }
  | seekingPrimary now report => conclude gateway now report
  | launching report request =>
      .call (.startObtaining request) fun number =>
        .done (.ok { report with primaryRenewal := some number })
  | finished result => .done result

/-- The calls of a cycle and where their answers lead. -/
inductive Moves (gateway : Gateway) (interval : Nat) (withHandshakes : Bool) :
    SweepStage → (call : GatewayCall) → call.Answer → SweepStage → Prop where
  | dated (now : Int) :
      Moves gateway interval withHandshakes .dating .clock now (.listing now)
  | unlisted (now : Int) (error : StoreError) :
      Moves gateway interval withHandshakes (.listing now) .listRecords (.error error)
        (.finished (.error error))
  | listed (now : Int) (records : List (String × CertificateResource)) :
      Moves gateway interval withHandshakes (.listing now) .listRecords (.ok records)
        (delete now .blank (gateway.expiring (Gateway.nextCycle now interval) records))
  | deleted (now : Int) (report : MaintenanceReport) (key : String) (others : List String) :
      Moves gateway interval withHandshakes (.deleting now report key others)
        (.deleteRecord key) (.ok ()) (deleted withHandshakes now report key others)
  | notDeleted
      (now : Int)
      (report : MaintenanceReport)
      (key : String)
      (others : List String)
      (error : StoreError) :
      Moves gateway interval withHandshakes (.deleting now report key others)
        (.deleteRecord key) (.error error) (delete now report others)
  | dropped (now : Int) (report : MaintenanceReport) (key : String) (others : List String) :
      Moves gateway interval withHandshakes (.dropping now report key others)
        (.dropReady (HostName.storeKey key)) () (delete now (report.withDeleted key) others)
  | compacted (now : Int) (report : MaintenanceReport) (answer : Except StoreError String) :
      Moves gateway interval withHandshakes (.compacting now report) .compactStore answer
        (.purgingStaged now { report with compaction := answer.toOption })
  | stagedPurged (now : Int) (report : MaintenanceReport) (count : Nat) :
      Moves gateway interval withHandshakes (.purgingStaged now report) .purgeStaged count
        (purged withHandshakes now { report with purged := count })
  | readyPurged (now : Int) (report : MaintenanceReport) (count : Nat) :
      Moves gateway interval withHandshakes (.purgingReady now report) .purgeReady count
        (.seekingPrimary now { report with purged := report.purged + count })
  | unreadable (now : Int) (report : MaintenanceReport) (error : StoreError) :
      Moves gateway interval withHandshakes (.seekingPrimary now report)
        (.findRecord gateway.primaryDomain.key) (.error error) (.finished (.error error))
  | primaryFound
      (now : Int)
      (report : MaintenanceReport)
      (primary : Option CertificateResource) :
      Moves gateway interval withHandshakes (.seekingPrimary now report)
        (.findRecord gateway.primaryDomain.key) (.ok primary)
        (primaryFound gateway now report primary)
  | launched (report : MaintenanceReport) (request : ObtainRequest) (number : Nat) :
      Moves gateway interval withHandshakes (.launching report request)
        (.startObtaining request) number
        (.finished (.ok { report with primaryRenewal := some number }))

/-! ## The machine and the program -/

variable {gateway : Gateway} {interval : Nat} {withHandshakes : Bool}

@[simp] theorem program_delete
    (now : Int)
    (report : MaintenanceReport)
    (keys : List String) :
    (delete now report keys).program gateway interval withHandshakes =
      deleteAll gateway withHandshakes now report keys := by
  cases keys with
  | nil => simp [delete, program, deleteAll, Gateway.deleteAll, Program.bind, pure]
  | cons key others => rfl

@[simp] theorem program_primaryFound
    (now : Int)
    (report : MaintenanceReport)
    (primary : Option CertificateResource) :
    (primaryFound gateway now report primary).program gateway interval withHandshakes =
      (Gateway.start (primary.bind fun resource =>
        gateway.primaryRenewalRequest? resource now)).bind fun renewal =>
          .done (.ok { report with primaryRenewal := renewal }) := by
  unfold primaryFound
  cases primary.bind fun resource => gateway.primaryRenewalRequest? resource now <;> rfl

/-- A cycle that is to delete a record says whether it did. -/
theorem deleteAll_cons
    (interval : Nat)
    (now : Int)
    (report : MaintenanceReport)
    (key : String)
    (others : List String) :
    deleteAll gateway withHandshakes now report (key :: others) =
      .call (.deleteRecord key) fun
        | .error _ => deleteAll gateway withHandshakes now report others
        | .ok () =>
            (deleted withHandshakes now report key others).program gateway interval
              withHandshakes := by
  have further :
      (Gateway.deleteAll withHandshakes others).bind
          (fun rest => tidy gateway withHandshakes now
            { report with deleted := report.deleted ++ key :: rest }) =
        deleteAll gateway withHandshakes now (report.withDeleted key) others := by
    simp [deleteAll, MaintenanceReport.withDeleted]
  refine congrArg (Program.call (I := gatewayCalls) (GatewayCall.deleteRecord key))
    (funext fun answer => ?_)
  cases answer with
  | error error => rfl
  | ok =>
      cases withHandshakes with
      | true =>
          refine congrArg
            (Program.call (I := gatewayCalls) (GatewayCall.dropReady (HostName.storeKey key)))
            (funext fun _ => ?_)
          rw [← further]
          exact Program.bind_bind (Gateway.deleteAll true others)
            (fun rest => .done (key :: rest)) _
      | false =>
          change _ = (delete now (report.withDeleted key) others).program gateway interval false
          rw [program_delete, ← further]
          exact Program.bind_bind (Gateway.deleteAll false others)
            (fun rest => .done (key :: rest)) _

theorem purge_bind
    (interval : Nat)
    (now : Int)
    (report : MaintenanceReport) :
    ((Gateway.purge withHandshakes).bind fun purged =>
        conclude gateway now { report with purged := purged }) =
      .call .purgeStaged fun count =>
        (purged withHandshakes now { report with purged := count }).program gateway interval
          withHandshakes := by
  refine congrArg (Program.call (I := gatewayCalls) GatewayCall.purgeStaged)
    (funext fun count => ?_)
  cases withHandshakes <;> rfl

/-- Every answer to the next call of the program is a move of the machine. -/
theorem moves_of_program
    {stage : SweepStage}
    {call : GatewayCall}
    {next : call.Answer → GatewayProgram (Except StoreError MaintenanceReport)}
    (upcoming : stage.program gateway interval withHandshakes = .call call next)
    (answer : call.Answer) :
    ∃ later,
      Moves gateway interval withHandshakes stage call answer later ∧
        next answer = later.program gateway interval withHandshakes := by
  cases stage with
  | dating =>
      cases upcoming
      exact ⟨_, .dated answer, rfl⟩
  | listing now =>
      cases upcoming
      cases answer with
      | error error => exact ⟨_, .unlisted now error, rfl⟩
      | ok records => exact ⟨_, .listed now records, (program_delete now _ _).symm⟩
  | deleting now report key others =>
      rw [program, deleteAll_cons interval] at upcoming
      cases upcoming
      cases answer with
      | error error =>
          exact ⟨_, .notDeleted now report key others error, (program_delete now _ _).symm⟩
      | ok => exact ⟨_, .deleted now report key others, rfl⟩
  | dropping now report key others =>
      cases upcoming
      exact ⟨_, .dropped now report key others, (program_delete now _ _).symm⟩
  | compacting now report =>
      cases upcoming
      exact ⟨_, .compacted now report answer, rfl⟩
  | purgingStaged now report =>
      rw [program, purge_bind interval] at upcoming
      cases upcoming
      exact ⟨_, .stagedPurged now report answer, rfl⟩
  | purgingReady now report =>
      cases upcoming
      exact ⟨_, .readyPurged now report answer, rfl⟩
  | seekingPrimary now report =>
      cases upcoming
      cases answer with
      | error error => exact ⟨_, .unreadable now report error, rfl⟩
      | ok primary =>
          exact ⟨_, .primaryFound now report primary, (program_primaryFound now _ _).symm⟩
  | launching report request =>
      cases upcoming
      exact ⟨_, .launched report request answer, rfl⟩
  | finished result => cases upcoming

end SweepStage

namespace TaskStage

variable {gateway : Gateway} {errand : Errand}

/-- A task that maintains the gateway stands at a stage with some property. -/
def SweepsAt
    (gateway : Gateway)
    (errand : Errand)
    (has : SweepStage → Prop) :
    TaskStage → Prop
  | upkeep rest _ =>
      ∃ interval withHandshakes stage,
        errand = .sweeping interval withHandshakes ∧
          rest = stage.program gateway interval withHandshakes ∧
          has stage
  | _ => True

theorem SweepsAt.imp
    {has hasToo : SweepStage → Prop}
    {stage : TaskStage}
    (implies : ∀ inner, has inner → hasToo inner)
    (sweeps : stage.SweepsAt gateway errand has) :
    stage.SweepsAt gateway errand hasToo := by
  cases stage with
  | upkeep rest only =>
      obtain ⟨interval, withHandshakes, inner, isSweep, upcoming, hasInner⟩ := sweeps
      exact ⟨interval, withHandshakes, inner, isSweep, upcoming, implies inner hasInner⟩
  | _ => trivial

theorem sweepsAt_requesting
    (request : ObtainRequest)
    (has : SweepStage → Prop) :
    (requesting gateway request).SweepsAt gateway errand has := by
  unfold requesting
  cases gateway.job? request <;> trivial

theorem sweepsAt_opening
    {has : SweepStage → Prop}
    (begins : has .dating) :
    (opening gateway errand).SweepsAt gateway errand has := by
  cases errand with
  | obtaining request => exact sweepsAt_requesting request has
  | sweeping interval withHandshakes =>
      exact ⟨interval, withHandshakes, .dating, rfl, rfl, begins⟩
  | _ => trivial

/-- A call of a task that maintains the gateway is a call of its cycle. -/
theorem SweepsAt.moves
    {has hasLater : SweepStage → Prop}
    {stage later : TaskStage}
    {call : GatewayCall}
    {answer : call.Answer}
    (sweeps : stage.SweepsAt gateway errand has)
    (moves : Moves gateway stage call answer later)
    (keeps :
      ∀ interval withHandshakes before after,
        errand = .sweeping interval withHandshakes →
        has before →
        SweepStage.Moves gateway interval withHandshakes before call answer after →
        hasLater after) :
    later.SweepsAt gateway errand hasLater := by
  cases moves with
  | handshake inside => trivial
  | @issuance job stage call answer progress inside => cases progress <;> trivial
  | primarySought answer =>
      match answer with
      | .error error => trivial
      | .ok (some resource) => trivial
      | .ok none => exact sweepsAt_requesting gateway.primaryRequest hasLater
  | @upkeep call next only answer =>
      obtain ⟨interval, withHandshakes, before, isSweep, upcoming, hasBefore⟩ := sweeps
      obtain ⟨after, inside, rest⟩ := SweepStage.moves_of_program upcoming.symm answer
      exact ⟨interval, withHandshakes, after, isSweep, rest,
        keeps interval withHandshakes before after isSweep hasBefore inside⟩

/-- Only a cycle of maintenance deletes records. -/
theorem SweepsAt.deletes
    {has : SweepStage → Prop}
    {stage later : TaskStage}
    {name : String}
    {answer : Except StoreError Unit}
    (sweeps : stage.SweepsAt gateway errand has)
    (moves : Moves gateway stage (.deleteRecord name) answer later) :
    ∃ interval withHandshakes before after only,
      errand = .sweeping interval withHandshakes ∧
        has before ∧
        SweepStage.Moves gateway interval withHandshakes before (.deleteRecord name) answer after ∧
        later = .upkeep (after.program gateway interval withHandshakes) only := by
  cases moves with
  | handshake inside =>
      cases inside with
      | issuance inside => cases inside
  | issuance inside => cases inside
  | upkeep only answer =>
      obtain ⟨interval, withHandshakes, before, isSweep, upcoming, hasBefore⟩ := sweeps
      obtain ⟨after, inside, rest⟩ := SweepStage.moves_of_program upcoming.symm answer
      refine ⟨interval, withHandshakes, before, after, rest ▸ only.rest answer, isSweep, hasBefore,
        inside, ?_⟩
      congr

end TaskStage

end OnDemandTls
