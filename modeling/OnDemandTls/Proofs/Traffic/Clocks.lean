import OnDemandTls.Proofs.Traffic.Persistence
import OnDemandTls.Proofs.Traffic.SweepStages

namespace OnDemandTls

/-!
# What tasks know of the time

A task knows the time from the answers that it has had.  A cycle of maintenance
asks once, at its beginning, and goes by that second to its end: it has the
primary certificate renewed if that expires within thirty days of it
(`Traffic.dated_of_run`).
-/

/-! ## Seconds that were told -/

/-- What a task is told of the time in an event. -/
def TrafficEvent.told?
    (number : Nat) :
    TrafficEvent → Option Int
  | calls task .clock second => if task = number then some second else none
  | _ => none

/-- The last second that a task was told. -/
def Traffic.lastTold?
    (events : List TrafficEvent)
    (number : Nat) :
    Option Int :=
  events.reverse.findSome? (TrafficEvent.told? number)

theorem TrafficEvent.told?_of_idle
    {event : TrafficEvent}
    {number : Nat}
    (idle : event.task? ≠ some number) :
    event.told? number = none := by
  cases event with
  | calls task call answer =>
      cases call with
      | clock => exact if_neg fun same => idle (congrArg some same)
      | _ => rfl
  | _ => rfl

theorem Traffic.lastTold?_snoc
    (events : List TrafficEvent)
    (event : TrafficEvent)
    (number : Nat) :
    lastTold? (events ++ [event]) number = (event.told? number).or (lastTold? events number) := by
  rw [lastTold?, List.reverse_append, List.findSome?_append]
  cases told : event.told? number <;> simp [told, lastTold?]

/-! ## The second of a cycle -/

namespace CertificateResource

/-- The resource is within the window in which a primary certificate is renewed. -/
def IsPrimaryClosing
    (resource : CertificateResource)
    (now : Int) :
    Prop :=
  resource.validTill ≤ now + Gateway.primaryRenewalWindow

theorem IsPrimaryClosing.mono
    {resource : CertificateResource}
    {now later : Int}
    (closing : resource.IsPrimaryClosing now)
    (since : now ≤ later) :
    resource.IsPrimaryClosing later := by
  unfold IsPrimaryClosing at closing ⊢
  omega

end CertificateResource

namespace Gateway

/-- What the renewal of the primary certificate asks for. -/
def primaryRenewal
    (gateway : Gateway)
    (resource : CertificateResource) :
    ObtainRequest where
  domains := gateway.primaryDomain.domains
  previous := some resource
  role := .primary

/-- The renewal of the primary certificate is asked for within its window, whether
the certificate is marked or not. -/
theorem primaryRenewalRequest?_eq_some_iff
    {gateway : Gateway}
    {resource : CertificateResource}
    {now : Int}
    {request : ObtainRequest} :
    gateway.primaryRenewalRequest? resource now = some request ↔
      resource.IsPrimaryClosing now ∧ request = gateway.primaryRenewal resource := by
  unfold primaryRenewalRequest? CertificateResource.IsPrimaryClosing
  by_cases early : now + primaryRenewalWindow < resource.validTill
  · rw [if_pos early]
    exact iff_of_false nofun fun renewed => Int.not_lt.mpr renewed.1 early
  · rw [if_neg early, Option.some_inj, and_iff_right (Int.not_lt.mp early)]
    exact eq_comm

end Gateway

namespace SweepStage

/-- A cycle goes by the second that it was told, and renews the primary certificate
within its window. -/
def Dated
    (gateway : Gateway)
    (now : Int)
    (told : Option Int) :
    SweepStage → Prop
  | listing second
  | deleting second _ _ _
  | dropping second _ _ _
  | compacting second _
  | purgingStaged second _
  | purgingReady second _
  | seekingPrimary second _ => told = some second ∧ second ≤ now
  | launching _ request =>
      ∃ record, record.IsPrimaryClosing now ∧ request = gateway.primaryRenewal record
  | dating | finished _ => True

variable {gateway : Gateway} {interval : Nat} {withHandshakes : Bool}
variable {now second : Int} {told : Option Int} {report : MaintenanceReport}

theorem Dated.mono
    {stage : SweepStage}
    {later : Int}
    (dated : stage.Dated gateway now told)
    (since : now ≤ later) :
    stage.Dated gateway later told := by
  cases stage with
  | dating => trivial
  | finished result => trivial
  | launching report request =>
      obtain ⟨record, closing, isRequest⟩ := dated
      exact ⟨record, closing.mono since, isRequest⟩
  | _ => exact ⟨dated.1, Int.le_trans dated.2 since⟩

@[simp] theorem dated_delete (keys : List String) :
    (delete second report keys).Dated gateway now told ↔ told = some second ∧ second ≤ now := by
  cases keys <;> rfl

@[simp] theorem dated_deleted
    (key : String)
    (others : List String) :
    (deleted withHandshakes second report key others).Dated gateway now told ↔
      told = some second ∧ second ≤ now := by
  cases withHandshakes with
  | true => rfl
  | false => exact dated_delete others

@[simp] theorem dated_purged :
    (purged withHandshakes second report).Dated gateway now told ↔
      told = some second ∧ second ≤ now := by
  cases withHandshakes <;> rfl

/-- Only the first call of a cycle asks for the time. -/
theorem dated_moves
    {scene : Scene}
    {stage later : SweepStage}
    {call : GatewayCall}
    {answer : call.Answer}
    (dated : stage.Dated gateway scene.second told)
    (admitted : scene.Admits call answer)
    (moves : Moves gateway interval withHandshakes stage call answer later)
    (number : Nat) :
    later.Dated gateway scene.second
      (((TrafficEvent.calls number call answer).told? number).or told) := by
  cases moves with
  | dated second =>
      obtain rfl : second = scene.second := admitted
      exact ⟨by rw [TrafficEvent.told?, if_pos rfl]; rfl, Int.le_refl _⟩
  | listed second records => exact (dated_delete _).mpr dated
  | deleted second report key others => exact (dated_deleted key others).mpr dated
  | notDeleted second report key others error => exact (dated_delete others).mpr dated
  | dropped second report key others => exact (dated_delete others).mpr dated
  | stagedPurged second report count => exact dated_purged.mpr dated
  | primaryFound second report primary =>
      unfold primaryFound
      cases found : primary.bind fun resource => gateway.primaryRenewalRequest? resource second with
      | none => trivial
      | some request =>
          obtain ⟨record, -, isRequest⟩ := Option.bind_eq_some_iff.mp found
          obtain ⟨closing, rfl⟩ := Gateway.primaryRenewalRequest?_eq_some_iff.mp isRequest
          exact ⟨record, closing.mono dated.2, rfl⟩
  | unlisted | unreadable | launched => trivial
  | compacted | readyPurged => exact dated

end SweepStage

/-- All cycles of a run go by the second that they were told. -/
theorem Traffic.dated_of_run
    {gateway : Gateway}
    {scene : Scene}
    {events : List TrafficEvent}
    {traffic : Traffic TaskStage}
    (run : Run gateway.stagedBehaviour (quiet scene) events traffic)
    {number : Nat}
    {task : GatewayTask TaskStage}
    {stage : TaskStage}
    (present : traffic.tasks[number]? = some task)
    (left : task.rest = some stage) :
    stage.SweepsAt gateway task.errand
      (SweepStage.Dated gateway traffic.scene.second (lastTold? events number)) := by
  induction run generalizing number task stage with
  | nil => cases present
  | @snoc events traffic later event run step inductionHypothesis =>
      refine TaskStage.SweepsAt.imp (fun _ dated => SweepStage.Dated.mono dated step.second_le) ?_
      rw [lastTold?_snoc]
      cases step.change present with
      | begins event errand =>
          cases left
          exact TaskStage.sweepsAt_opening trivial
      | moves there leftBefore moves admitted =>
          cases left
          refine (inductionHypothesis there leftBefore).moves moves ?_
          exact fun _ _ _ _ _ dated inside => SweepStage.dated_moves dated admitted inside number
      | panics there => cases left
      | stays there idle =>
          rw [TrafficEvent.told?_of_idle idle, Option.none_or]
          exact inductionHypothesis there left

/-- Cycles of maintenance come from outside. -/
theorem Traffic.Run.arrives_of_sweeping
    {ρ : Type}
    {behaviour : Behaviour ρ}
    {scene : Scene}
    {events : List TrafficEvent}
    {traffic : Traffic ρ}
    (run : Run behaviour (quiet scene) events traffic)
    {number : Nat}
    {task : GatewayTask ρ}
    {interval : Nat}
    {withHandshakes : Bool}
    (present : traffic.tasks[number]? = some task)
    (isSweep : task.errand = .sweeping interval withHandshakes) :
    .arrives (.sweeping interval withHandshakes) ∈ events := by
  induction run generalizing number task with
  | nil => cases present
  | snoc run step inductionHypothesis =>
      rcases step.errand_cases present with begins | ⟨before, there, sameErrand⟩
      · rw [isSweep] at begins
        rcases TrafficEvent.begun_cases begins with rfl | ⟨launcher, request, answer, -, other⟩
        · exact List.mem_append_right _ (List.mem_singleton_self _)
        · cases other
      · exact List.mem_append_left _ (inductionHypothesis there (sameErrand.trans isSweep))

end OnDemandTls
