import OnDemandTls.Proofs.Traffic.Guards

namespace OnDemandTls

/-!
# What lasts in traffic

Guards are numbered without repetition, so one that is gone does not come back
(`Traffic.Run.follows`).  A record stays under its key until another one is
written there or it is deleted (`Traffic.Run.stored`).
-/

namespace IssuanceLocks

/-- A registry comes after another one: no guard comes back. -/
structure Follows (later earlier : IssuanceLocks) : Prop where
  next_le : earlier.nextGuard ≤ later.nextGuard
  held_before :
    ∀ {name guardNumber},
      guardNumber < earlier.nextGuard →
      later.held.get? name = some guardNumber →
      earlier.held.get? name = some guardNumber

namespace Follows

theorem refl (locks : IssuanceLocks) : locks.Follows locks where
  next_le := Nat.le_refl _
  held_before _ found := found

theorem trans
    {first second third : IssuanceLocks}
    (later : third.Follows second)
    (earlier : second.Follows first) :
    third.Follows first where
  next_le := Nat.le_trans earlier.next_le later.next_le
  held_before old found :=
    earlier.held_before old (later.held_before (Nat.lt_of_lt_of_le old earlier.next_le) found)

theorem release
    (locks : IssuanceLocks)
    (name : String) :
    (locks.release name).Follows locks where
  next_le := Nat.le_refl _
  held_before _ found := by
    simp only [IssuanceLocks.release, Catalog.get?_erase] at found
    split at found
    · cases found
    · exact found

theorem acquire
    (locks : IssuanceLocks)
    (name : String) :
    (locks.acquire name).2.Follows locks := by
  cases claimed : (locks.acquire name).1 with
  | busy guardNumber =>
      rw [(acquire_busy claimed).2]
      exact refl locks
  | owner guardNumber =>
      obtain ⟨-, isNext, next⟩ := acquire_owner claimed
      rw [next, isNext]
      refine ⟨Nat.le_succ _, ?_⟩
      intro other otherGuard old found
      simp only [Catalog.get?_insert] at found
      split at found
      · cases found
        exact (Nat.lt_irrefl _ old).elim
      · exact found

end Follows

end IssuanceLocks

namespace Scene

/-- No guard comes back in a call. -/
theorem follows_after
    (scene : Scene)
    (call : GatewayCall)
    (answer : call.Answer) :
    (scene.after call answer).locks.Follows scene.locks := by
  cases call with
  | claim name => exact .acquire scene.locks name
  | release name => exact .release scene.locks name
  | _ =>
      rw [scene.locks_after answer nofun nofun]
      exact .refl scene.locks

theorem follows_dropGuard
    (scene : Scene)
    (guard : Option (String × Nat)) :
    (scene.dropGuard guard).locks.Follows scene.locks := by
  cases guard with
  | none => exact .refl scene.locks
  | some guard => exact .release scene.locks guard.1

end Scene

namespace Traffic

variable {ρ : Type} {behaviour : Behaviour ρ}

/-- No guard comes back in a step. -/
theorem Step.follows
    {traffic later : Traffic ρ}
    {event : TrafficEvent}
    (step : Step behaviour traffic event later) :
    later.scene.locks.Follows traffic.scene.locks := by
  rcases step.scene_cases with ⟨errand, -, sceneIs⟩ | ⟨number, call, answer, -, -, sceneIs⟩ |
    ⟨number, task, -, -, sceneIs⟩ | ⟨milliseconds, -, sceneIs⟩
  · rw [sceneIs]
    exact .refl _
  · rw [sceneIs]
    exact traffic.scene.follows_after call answer
  · rw [sceneIs]
    exact traffic.scene.follows_dropGuard task.guard
  · rw [sceneIs]
    exact .refl _

/-- No guard comes back in a run. -/
theorem Run.follows
    {start traffic : Traffic ρ}
    {events : List TrafficEvent}
    (run : Run behaviour start events traffic) :
    traffic.scene.locks.Follows start.scene.locks := by
  induction run with
  | nil => exact .refl _
  | snoc _ step inductionHypothesis => exact step.follows.trans inductionHypothesis

/-! ## Records since an event -/

/-- A record was written under a store key in the course of some events. -/
def WrittenIn
    (events : List TrafficEvent)
    (key : String)
    (record : CertificateResource) :
    Prop :=
  ∃ writer name,
    TrafficEvent.calls writer (.putRecord name record) (.ok ()) ∈ events ∧
      HostName.storeKey name = key

/-- Nothing under a store key is deleted in the course of some events. -/
def NeverDeletedIn
    (events : List TrafficEvent)
    (key : String) :
    Prop :=
  ∀ eraser name,
    TrafficEvent.calls eraser (.deleteRecord name) (.ok ()) ∈ events →
    HostName.storeKey name ≠ key

/-- All writes to the store work in the course of some events. -/
def WritesWork (events : List TrafficEvent) : Prop :=
  ∀ writer name record answer,
    TrafficEvent.calls writer (.putRecord name record) answer ∈ events → answer = .ok ()

theorem WritesWork.of_append
    {front back : List TrafficEvent}
    (works : WritesWork (front ++ back)) :
    WritesWork front ∧ WritesWork back :=
  ⟨fun writer name record answer member =>
      works writer name record answer (List.mem_append_left back member),
    fun writer name record answer member =>
      works writer name record answer (List.mem_append_right front member)⟩

theorem WrittenIn.append
    {events : List TrafficEvent}
    {key : String}
    {record : CertificateResource}
    (written : WrittenIn events key record)
    (more : List TrafficEvent) :
    WrittenIn (events ++ more) key record := by
  obtain ⟨writer, name, member, isKey⟩ := written
  exact ⟨writer, name, List.mem_append_left more member, isKey⟩

end Traffic

namespace Scene

open Traffic

/-- What is stored under a key stays, unless a call deletes or replaces it. -/
theorem stored_after
    {scene : Scene}
    {key : String}
    {record : CertificateResource}
    {number : Nat}
    {call : GatewayCall}
    {answer : call.Answer}
    (stored : scene.records.get? key = some record)
    (kept : NeverDeletedIn [.calls number call answer] key) :
    ∃ later,
      (scene.after call answer).records.get? key = some later ∧
        (later = record ∨ WrittenIn [.calls number call answer] key later) := by
  cases call with
  | putRecord name resource =>
      cases answer with
      | error error => exact ⟨record, stored, Or.inl rfl⟩
      | ok =>
          change ∃ later, (scene.records.insert (HostName.storeKey name) resource).get? key =
            some later ∧ _
          rw [Catalog.get?_insert]
          split
          · rename_i same
            exact ⟨resource, rfl, Or.inr ⟨number, name, List.mem_singleton_self _, same.symm⟩⟩
          · exact ⟨record, stored, Or.inl rfl⟩
  | deleteRecord name =>
      cases answer with
      | error error => exact ⟨record, stored, Or.inl rfl⟩
      | ok =>
          have another := kept number name (List.mem_singleton_self _)
          refine ⟨record, ?_, Or.inl rfl⟩
          change (scene.records.erase (HostName.storeKey name)).get? key = some record
          rw [Catalog.get?_erase, if_neg fun same => another same.symm]
          exact stored
  | _ => exact ⟨record, stored, Or.inl rfl⟩

/-- What is stored after a call was stored before it or is written by it. -/
theorem stored_before
    {scene : Scene}
    {key : String}
    {record : CertificateResource}
    {call : GatewayCall}
    {answer : call.Answer}
    (number : Nat)
    (stored : (scene.after call answer).records.get? key = some record) :
    scene.records.get? key = some record ∨ WrittenIn [.calls number call answer] key record := by
  cases call with
  | putRecord name resource =>
      cases answer with
      | error error => exact Or.inl stored
      | ok =>
          change (scene.records.insert (HostName.storeKey name) resource).get? key =
            some record at stored
          rw [Catalog.get?_insert] at stored
          split at stored
          · rename_i same
            cases stored
            exact Or.inr ⟨number, name, List.mem_singleton_self _, same.symm⟩
          · exact Or.inl stored
  | deleteRecord name =>
      cases answer with
      | error error => exact Or.inl stored
      | ok =>
          change (scene.records.erase (HostName.storeKey name)).get? key = some record at stored
          rw [Catalog.get?_erase] at stored
          split at stored
          · cases stored
          · exact Or.inl stored
  | _ => exact Or.inl stored

/-- Whoever reads a record, or that there is none, reads what is stored. -/
theorem find?_of_admits
    {scene : Scene}
    {name : String}
    {found : Option CertificateResource}
    (admitted : scene.Admits (.findRecord name) (.ok found)) :
    scene.records.find? name = found := by
  rcases admitted with same | ⟨error, unreadable⟩
  · exact (Except.ok.inj same).symm
  · cases unreadable

/-- A call takes no time. -/
theorem second_after
    (scene : Scene)
    (call : GatewayCall)
    (answer : call.Answer) :
    (scene.after call answer).second = scene.second := by
  cases call with
  | putRecord name resource => cases answer <;> rfl
  | deleteRecord name => cases answer <;> rfl
  | _ => rfl

theorem instant_after
    (scene : Scene)
    (call : GatewayCall)
    (answer : call.Answer) :
    (scene.after call answer).instant = scene.instant := by
  cases call with
  | putRecord name resource => cases answer <;> rfl
  | deleteRecord name => cases answer <;> rfl
  | _ => rfl

theorem second_dropGuard
    (scene : Scene)
    (guard : Option (String × Nat)) :
    (scene.dropGuard guard).second = scene.second := by
  cases guard <;> rfl

end Scene

/-- The milliseconds that go by in an event. -/
def TrafficEvent.milliseconds : TrafficEvent → Nat
  | passes milliseconds => milliseconds
  | _ => 0

namespace Traffic

/-- The milliseconds that go by in some events. -/
def elapsed : List TrafficEvent → Nat
  | [] => 0
  | event :: events => event.milliseconds + elapsed events

@[simp] theorem elapsed_append (events others : List TrafficEvent) :
    elapsed (events ++ others) = elapsed events + elapsed others := by
  induction events with
  | nil => simp [elapsed]
  | cons event events inductionHypothesis =>
      simp only [List.cons_append, elapsed, inductionHypothesis, Nat.add_assoc]

variable {ρ : Type} {behaviour : Behaviour ρ}

/-- What is stored under a key stays, unless a step deletes or replaces it. -/
theorem Step.stored
    {traffic later : Traffic ρ}
    {event : TrafficEvent}
    {key : String}
    {record : CertificateResource}
    (step : Step behaviour traffic event later)
    (stored : traffic.scene.records.get? key = some record)
    (kept : NeverDeletedIn [event] key) :
    ∃ next,
      later.scene.records.get? key = some next ∧
        (next = record ∨ WrittenIn [event] key next) := by
  rcases step.scene_cases with ⟨errand, -, sceneIs⟩ | ⟨number, call, answer, rfl, -, sceneIs⟩ |
    ⟨number, task, -, -, sceneIs⟩ | ⟨milliseconds, -, sceneIs⟩
  · rw [sceneIs]
    exact ⟨record, stored, Or.inl rfl⟩
  · rw [sceneIs]
    exact Scene.stored_after stored kept
  · rw [sceneIs]
    refine ⟨record, ?_, Or.inl rfl⟩
    cases task.guard <;> exact stored
  · rw [sceneIs]
    exact ⟨record, stored, Or.inl rfl⟩

/-- What is stored after a step was stored before it or is written by it. -/
theorem Step.stored_before
    {traffic later : Traffic ρ}
    {event : TrafficEvent}
    {key : String}
    {record : CertificateResource}
    (step : Step behaviour traffic event later)
    (stored : later.scene.records.get? key = some record) :
    traffic.scene.records.get? key = some record ∨ WrittenIn [event] key record := by
  rcases step.scene_cases with ⟨errand, -, sceneIs⟩ | ⟨number, call, answer, rfl, -, sceneIs⟩ |
    ⟨number, task, -, -, sceneIs⟩ | ⟨milliseconds, -, sceneIs⟩
  · rw [sceneIs] at stored
    exact Or.inl stored
  · rw [sceneIs] at stored
    exact Scene.stored_before number stored
  · rw [sceneIs] at stored
    refine Or.inl ?_
    cases guard : task.guard <;> rw [guard] at stored <;> exact stored
  · rw [sceneIs] at stored
    exact Or.inl stored

/-- The clock does not go back. -/
theorem Step.second_le
    {traffic later : Traffic ρ}
    {event : TrafficEvent}
    (step : Step behaviour traffic event later) :
    traffic.scene.second ≤ later.scene.second := by
  rcases step.scene_cases with ⟨errand, -, sceneIs⟩ | ⟨number, call, answer, -, -, sceneIs⟩ |
    ⟨number, task, -, -, sceneIs⟩ | ⟨milliseconds, -, sceneIs⟩
  · exact Int.le_of_eq (by rw [sceneIs])
  · exact Int.le_of_eq (by rw [sceneIs, Scene.second_after])
  · exact Int.le_of_eq (by rw [sceneIs, Scene.second_dropGuard])
  · rw [sceneIs]
    simp only [Scene.second]
    omega

theorem Run.second_le
    {start traffic : Traffic ρ}
    {events : List TrafficEvent}
    (run : Run behaviour start events traffic) :
    start.scene.second ≤ traffic.scene.second := by
  induction run with
  | nil => exact Int.le_refl _
  | snoc _ step inductionHypothesis => exact Int.le_trans inductionHypothesis step.second_le

/-- The time of a run is that of its events. -/
theorem Run.instant_eq
    {start traffic : Traffic ρ}
    {events : List TrafficEvent}
    (run : Run behaviour start events traffic) :
    traffic.scene.instant = start.scene.instant + elapsed events := by
  induction run with
  | nil => rfl
  | @snoc events traffic later event _ step inductionHypothesis =>
      have passed : later.scene.instant = traffic.scene.instant + event.milliseconds := by
        cases step with
        | calls => exact Scene.instant_after _ _ _
        | @panics number task stage next call answer => cases task.guard <;> rfl
        | _ => rfl
      rw [passed, inductionHypothesis, elapsed_append, Nat.add_assoc]
      rfl

/-- Of two moments of a run, the one with the earlier time comes first. -/
theorem Run.prefix_of_earlier
    {start middle before : Traffic ρ}
    {front back earlier rest : List TrafficEvent}
    (frontRun : Run behaviour start front middle)
    (earlierRun : Run behaviour start earlier before)
    (same : front ++ back = earlier ++ rest)
    (isEarlier : before.scene.instant < middle.scene.instant) :
    earlier <+: front := by
  rcases List.append_eq_append_iff.mp same with ⟨between, rfl, -⟩ | ⟨between, rfl, -⟩
  · have atFront := frontRun.instant_eq
    have atEarlier := earlierRun.instant_eq
    rw [elapsed_append] at atEarlier
    omega
  · exact List.prefix_append _ _

/-- Whoever asked for the time was not told a later one than it is now. -/
theorem Run.second_le_of_clock
    {start traffic : Traffic ρ}
    {events : List TrafficEvent}
    {number : Nat}
    {second : Int}
    (run : Run behaviour start events traffic)
    (asked : .calls number .clock second ∈ events) :
    second ≤ traffic.scene.second := by
  induction run with
  | nil => cases asked
  | snoc _ step inductionHypothesis =>
      rcases List.mem_append.mp asked with earlier | now
      · exact Int.le_trans (inductionHypothesis earlier) step.second_le
      · cases List.mem_singleton.mp now
        obtain ⟨_, _, _, _, _, _, admitted, _, _⟩ := step.called
        rw [show second = _ from admitted]
        exact step.second_le

/-- Once a record is stored and none is deleted, there is a record: that one or
one that was written since. -/
theorem Run.stored
    {start traffic : Traffic ρ}
    {events : List TrafficEvent}
    {key : String}
    {record : CertificateResource}
    (run : Run behaviour start events traffic)
    (stored : start.scene.records.get? key = some record)
    (kept : NeverDeletedIn events key) :
    ∃ now,
      traffic.scene.records.get? key = some now ∧
        (now = record ∨ WrittenIn events key now) := by
  induction run with
  | nil => exact ⟨record, stored, Or.inl rfl⟩
  | @snoc events middle later event _ step inductionHypothesis =>
      obtain ⟨before, storedBefore, beforeIs⟩ := inductionHypothesis fun eraser name member =>
        kept eraser name (List.mem_append_left _ member)
      obtain ⟨now, storedNow, nowIs⟩ := step.stored storedBefore fun eraser name member =>
        kept eraser name (List.mem_append_right _ member)
      refine ⟨now, storedNow, ?_⟩
      rcases nowIs with rfl | ⟨writer, name, member, isKey⟩
      · exact beforeIs.imp_right fun written => written.append _
      · exact Or.inr ⟨writer, name, List.mem_append_right _ member, isKey⟩

end Traffic

/-! ## What an owner gives back -/

namespace IssuanceStage

theorem freshStage_ne_releasing
    (job : IssuanceJob)
    (result : Except ObtainError CertificateResource) :
    job.freshStage ≠ .releasing result := by
  unfold IssuanceJob.freshStage
  cases job.request.user <;> exact nofun

theorem firstStage_ne_releasing
    (job : IssuanceJob)
    (result : Except ObtainError CertificateResource) :
    job.firstStage ≠ .releasing result := by
  unfold IssuanceJob.firstStage
  split
  · exact nofun
  · split
    · exact nofun
    · cases job.previous with
      | none => exact freshStage_ne_releasing job result
      | some previous => exact nofun

theorem verdict_ne_releasing
    (job : IssuanceJob)
    (reason : AuthorityError)
    (second : Int)
    (result : Except ObtainError CertificateResource) :
    job.verdict reason second ≠ .releasing result := by
  unfold IssuanceJob.verdict
  cases job.previous.filter (fun resource => !resource.isExpired second) <;> exact nofun

/-- If its writes work, an owner gives back what it has stored. -/
theorem stored_of_releasing
    {scene : Scene}
    {number : Nat}
    {job : IssuanceJob}
    {stage later : IssuanceStage}
    {call : GatewayCall}
    {answer : call.Answer}
    {resource : CertificateResource}
    (works : Traffic.WritesWork [.calls number call answer])
    (moves : Moves job stage call answer (.on later))
    (releases : later = .releasing (.ok resource)) :
    (scene.after call answer).records.find? job.key = some resource := by
  cases moves with
  | owner guardNumber => exact (firstStage_ne_releasing job _ releases).elim
  | paidFailure => exact (freshStage_ne_releasing job _ releases).elim
  | judged reason second => exact (verdict_ne_releasing job reason second _ releases).elim
  | stored issued =>
      cases releases
      simp [Scene.after, Records.put, Records.find?]
  | marked previous second =>
      cases releases
      simp [Scene.after, Records.put, Records.find?]
  | mockStored cause made answer =>
      cases releases
      rw [works number job.key _ answer (List.mem_singleton_self _)]
      simp [Scene.after, Records.put, Records.find?]
  | _ => cases releases

end IssuanceStage

end OnDemandTls
