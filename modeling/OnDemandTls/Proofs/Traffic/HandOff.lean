import OnDemandTls.Proofs.Traffic.Persistence
import OnDemandTls.Proofs.Traffic.Replay

namespace OnDemandTls

/-!
# Handing an issuance on

Who finds a name in issuance waits until the guard that was seen is gone, asks
no authority and spends nothing, and takes what is stored then.  If the owner of
that guard stored a record, there is a record to take, and it is the owner's or
a later one.
-/

namespace GatewayCall

/-- The calls that ask an authority for a certificate. -/
def AsksAuthority : GatewayCall → Prop
  | renew _ _ | order _ _ => True
  | _ => False

/-- The calls that take a token. -/
def TakesToken : GatewayCall → Prop
  | spend _ | askUser _ => True
  | _ => False

theorem AsksAuthority.issues
    {call : GatewayCall}
    (asks : call.AsksAuthority) :
    call.Issues := by
  cases call <;> first | exact trivial | exact asks.elim

theorem TakesToken.issues
    {call : GatewayCall}
    (takes : call.TakesToken) :
    call.Issues := by
  cases call <;> first | exact trivial | exact takes.elim

end GatewayCall

namespace GatewayTask

/-- An authority has been asked by a task and has not answered yet. -/
def AsksAuthority (task : GatewayTask (GatewayProgram TaskResult)) : Prop :=
  ∃ (call : GatewayCall) (next : call.Answer → GatewayProgram TaskResult),
    task.rest = some (.call call next) ∧ call.AsksAuthority

end GatewayTask

namespace IssuanceStage

/-- Only the owner of a name asks an authority. -/
theorem owns_of_asks
    {job : IssuanceJob}
    {stage : IssuanceStage}
    {call : GatewayCall}
    {answer : call.Answer}
    {later : IssuanceProgress}
    (moves : Moves job stage call answer later)
    (asks : call.AsksAuthority) :
    stage.owns = true := by
  cases moves <;> first | rfl | exact asks.elim

end IssuanceStage

namespace TaskStage

/-- A task that asks an authority owns the name of its certificate. -/
theorem owned_of_asks
    {gateway : Gateway}
    {errand : Errand}
    {stage later : TaskStage}
    {call : GatewayCall}
    {answer : call.Answer}
    (fits : stage.Fits gateway errand)
    (moves : Moves gateway stage call answer later)
    (asks : call.AsksAuthority) :
    (stage.standing gateway).owned? = errand.certificateName? gateway ∧
      (errand.certificateName? gateway).isSome = true := by
  obtain ⟨job, inner, progress, stands, inside, -⟩ :=
    (standing_moves moves).inside_of_issues asks.issues
  rw [certificateName?_of_standing fits stands, stands]
  exact ⟨if_pos (IssuanceStage.owns_of_asks inside asks), rfl⟩

end TaskStage

/-! ## Waiters -/

/-- How a task stands that has found a name in issuance by somebody else. -/
inductive AfterBusy (locks : IssuanceLocks) (name : String) (guardNumber : Nat) :
    Standing → Prop where
  | waiting (job : IssuanceJob) :
      job.key = name →
      AfterBusy locks name guardNumber (.during job (.waiting guardNumber))
  | taking (job : IssuanceJob) :
      job.key = name →
      locks.held.get? name ≠ some guardNumber →
      AfterBusy locks name guardNumber (.during job .taking)
  | past :
      locks.held.get? name ≠ some guardNumber →
      AfterBusy locks name guardNumber .past

namespace AfterBusy

variable {locks : IssuanceLocks} {name : String} {guardNumber : Nat} {standing : Standing}

/-- A waiter stays one while guards come and go. -/
theorem mono
    {laterLocks : IssuanceLocks}
    (after : AfterBusy locks name guardNumber standing)
    (follows : laterLocks.Follows locks)
    (old : guardNumber < locks.nextGuard) :
    AfterBusy laterLocks name guardNumber standing := by
  cases after with
  | waiting job isKey => exact .waiting job isKey
  | taking job isKey gone =>
      exact .taking job isKey fun held => gone (follows.held_before old held)
  | past gone => exact .past fun held => gone (follows.held_before old held)

/-- A waiter goes on once the guard is gone, asks no authority, takes no token
and has no guard to take or to give. -/
theorem moves
    {scene : Scene}
    {later : Standing}
    {call : GatewayCall}
    {answer : call.Answer}
    (after : AfterBusy scene.locks name guardNumber standing)
    (moves : Standing.Moves standing call answer later)
    (admitted : scene.Admits call answer) :
    AfterBusy scene.locks name guardNumber later ∧
      scene.locks.held.get? name ≠ some guardNumber ∧
      ¬ call.AsksAuthority ∧
      ¬ call.TakesToken := by
  cases after with
  | waiting job isKey =>
      cases moves with
      | inside inside =>
          cases inside with
          | awaited =>
              have gone : scene.locks.held.get? name ≠ some guardNumber := by
                subst isKey
                intro held
                simp [Scene.Admits, IssuanceLocks.holds, held] at admitted
              exact ⟨.taking job isKey gone, gone, id, id⟩
  | taking job isKey gone =>
      cases moves with
      | inside inside => cases inside <;> exact ⟨.past gone, gone, id, id⟩
  | past gone =>
      cases moves with
      | ends harmless =>
          exact ⟨.past gone, gone, fun asks => harmless asks.issues,
            fun takes => harmless takes.issues⟩

end AfterBusy

namespace Traffic

variable {gateway : Gateway} {scene : Scene} {events : List TrafficEvent}

/-- A task that found a name in issuance is a waiter from then on. -/
theorem afterBusy_of_run
    {traffic : Traffic TaskStage}
    (free : scene.locks.isEmpty = true)
    (run : Run gateway.stagedBehaviour (quiet scene) events traffic)
    {number : Nat}
    {name : String}
    {guardNumber : Nat}
    (found : .calls number (.claim name) (.busy guardNumber) ∈ events) :
    guardNumber < traffic.scene.locks.nextGuard ∧
      ∃ task,
        traffic.tasks[number]? = some task ∧
          ∀ stage,
            task.rest = some stage →
            AfterBusy traffic.scene.locks name guardNumber (stage.standing gateway) := by
  induction run with
  | nil => cases found
  | @snoc events traffic later event run step inductionHypothesis =>
      rcases List.mem_append.mp found with earlier | now
      · obtain ⟨old, task, present, waits⟩ := inductionHypothesis earlier
        refine ⟨Nat.lt_of_lt_of_le old step.follows.next_le, ?_⟩
        obtain ⟨now, presentLater, -, waitsLater⟩ :=
          step.carry
            (fun stage _ => AfterBusy later.scene.locks name guardNumber (stage.standing gateway))
            present
            (fun stage left _ => (waits stage left).mono step.follows old)
            fun stage call answer next left _ moves admitted =>
              ((waits stage left).moves (TaskStage.standing_moves moves) admitted).1.mono
                step.follows old
        exact ⟨now, presentLater, waitsLater⟩
      · cases List.mem_singleton.mp now
        obtain ⟨task, stage, next, there, left, moves, admitted, -, presentLater⟩ := step.called
        obtain ⟨held, -⟩ := IssuanceLocks.acquire_busy admitted.symm
        have old := (GuardsFit.of_run free run).registers.fresh held
        refine ⟨Nat.lt_of_lt_of_le old step.follows.next_le, _, presentLater, ?_⟩
        rintro _ ⟨⟩
        obtain ⟨job, inner, progress, -, inside, leads⟩ :=
          (TaskStage.standing_moves moves).inside_of_issues trivial
        cases inside with
        | busy =>
            rw [leads]
            exact .waiting job rfl

/-- A task that took a guard and did not release it holds it, or has panicked. -/
theorem guard_of_run
    {traffic : Traffic TaskStage}
    (free : scene.locks.isEmpty = true)
    (run : Run gateway.stagedBehaviour (quiet scene) events traffic)
    {number : Nat}
    {name : String}
    {guardNumber : Nat}
    (claimed : .calls number (.claim name) (.owner guardNumber) ∈ events)
    (unreleased : .calls number (.release name) () ∉ events) :
    ∃ task,
      traffic.tasks[number]? = some task ∧
        ∀ stage, task.rest = some stage → task.guard = some (name, guardNumber) := by
  induction run with
  | nil => cases claimed
  | @snoc events traffic later event run step inductionHypothesis =>
      rcases List.mem_append.mp claimed with earlier | now
      · obtain ⟨task, present, holds⟩ := inductionHypothesis earlier fun released =>
          unreleased (List.mem_append_left _ released)
        obtain ⟨now, presentLater, -, holdsLater⟩ :=
          step.carry (fun _ guard => guard = some (name, guardNumber)) present
            (fun stage left _ => holds stage left)
            fun stage call answer next left isCall moves _ => by
              have held := holds stage left
              have owner := (GuardsFit.of_run free run).owners present
              rw [left, Option.bind_some, held, Option.map_some] at owner
              have ownership := (TaskStage.standing_moves moves).ownership
              rw [← owner] at ownership
              generalize (next.standing gateway).owned? = afterwards at ownership
              cases ownership with
              | keeps noClaim noRelease =>
                  exact (guardAfter_eq _ answer noClaim noRelease).trans held
              | gives =>
                  rw [isCall] at unreleased
                  exact (unreleased (List.mem_append_right _ (List.mem_singleton_self _))).elim
        exact ⟨now, presentLater, holdsLater⟩
      · cases List.mem_singleton.mp now
        obtain ⟨task, stage, next, there, left, moves, -, -, presentLater⟩ := step.called
        exact ⟨_, presentLater, fun _ _ => rfl⟩

end Traffic

/-! ## What waiters take -/

/-- What becomes of what a waiter finds in the store. -/
def takenResult
    (key : String) :
    Except StoreError (Option CertificateResource) → Except ObtainError CertificateResource
  | .error error => .error (.store error)
  | .ok none => .error (.nothingLeftBehind key)
  | .ok (some resource) => .ok resource

namespace TaskStage

/-- The result of a task that was to obtain a certificate. -/
def result? : TaskStage → Option (Except ObtainError CertificateResource)
  | finished (.obtained result) => some result
  | _ => none

theorem result?_of_done
    {gateway : Gateway}
    {stage : TaskStage}
    {result : Except ObtainError CertificateResource}
    (ended : stage.program gateway = .done (.obtained result)) :
    stage.result? = some result := by
  rcases over_cases ended with ⟨resolved, -, isResult⟩ | ⟨swept, only, -, isResult⟩ | rfl
  · cases isResult
  · cases isResult
  · rfl

theorem standing_of_result?
    {gateway : Gateway}
    {stage : TaskStage}
    {result : Except ObtainError CertificateResource}
    (ended : stage.result? = some result) :
    stage.standing gateway = .past := by
  cases stage <;> first | rfl | cases ended

/-- A waiter ends with what it finds in the store. -/
theorem took_of_moves
    {gateway : Gateway}
    {locks : IssuanceLocks}
    {name : String}
    {guardNumber : Nat}
    {stage later : TaskStage}
    {call : GatewayCall}
    {answer : call.Answer}
    {result : Except ObtainError CertificateResource}
    (waits : AfterBusy locks name guardNumber (stage.standing gateway))
    (moves : Moves gateway stage call answer later)
    (ended : later.result? = some result) :
    ∃ found : Except StoreError (Option CertificateResource),
      (⟨call, answer⟩ : Σ call : GatewayCall, call.Answer) = ⟨.findRecord name, found⟩ ∧
        result = takenResult name found := by
  cases moves with
  | handshake inside => cases ended
  | upkeep only answer => cases ended
  | primarySought answer => cases waits
  | @issuance job inner call answer progress inside =>
      change AfterBusy locks name guardNumber (.during job inner) at waits
      cases waits with
      | waiting job isKey => cases inside with | awaited => cases ended
      | taking job isKey gone =>
          subst isKey
          cases inside <;> cases ended <;> exact ⟨_, rfl, rfl⟩

end TaskStage

namespace Traffic

variable {gateway : Gateway} {scene : Scene} {events : List TrafficEvent}

/-- The result of a waiter is what it found in the store after it had waited. -/
theorem took_of_run
    {traffic : Traffic TaskStage}
    (free : scene.locks.isEmpty = true)
    (run : Run gateway.stagedBehaviour (quiet scene) events traffic)
    {number : Nat}
    {name : String}
    {guardNumber : Nat}
    (found : .calls number (.claim name) (.busy guardNumber) ∈ events) :
    ∃ task,
      traffic.tasks[number]? = some task ∧
        ∀ stage,
          task.rest = some stage →
          ∀ result,
            stage.result? = some result →
            ∃ ahead behind answer,
              events = ahead ++ .calls number (.findRecord name) answer :: behind ∧
                .calls number (.claim name) (.busy guardNumber) ∈ ahead ∧
                result = takenResult name answer := by
  induction run with
  | nil => cases found
  | @snoc events traffic later event run step inductionHypothesis =>
      rcases List.mem_append.mp found with earlier | now
      · obtain ⟨task, present, took⟩ := inductionHypothesis earlier
        obtain ⟨-, waiter, there, waits⟩ := afterBusy_of_run free run earlier
        cases present.symm.trans there
        obtain ⟨now, presentLater, -, tookLater⟩ :=
          step.carry
            (fun stage _ =>
              ∀ result,
                stage.result? = some result →
                ∃ ahead behind answer,
                  events ++ [event] = ahead ++ .calls number (.findRecord name) answer :: behind ∧
                    .calls number (.claim name) (.busy guardNumber) ∈ ahead ∧
                    result = takenResult name answer)
            present
            (fun stage left _ result ended => by
              obtain ⟨ahead, behind, answer, rfl, before, isTaken⟩ := took stage left result ended
              exact ⟨ahead, behind ++ [event], answer, by simp, before, isTaken⟩)
            fun stage call answer next left isCall moves _ result ended => by
              obtain ⟨read, isRead, isTaken⟩ :=
                TaskStage.took_of_moves (waits stage left) moves ended
              cases isRead
              exact ⟨events, [], read, by rw [isCall], earlier, isTaken⟩
        exact ⟨now, presentLater, tookLater⟩
      · cases List.mem_singleton.mp now
        obtain ⟨task, stage, next, there, left, moves, -, -, presentLater⟩ := step.called
        refine ⟨_, presentLater, fun laterStage laterLeft result ended => ?_⟩
        cases laterLeft
        obtain ⟨job, inner, progress, -, inside, leads⟩ :=
          (TaskStage.standing_moves moves).inside_of_issues trivial
        rw [TaskStage.standing_of_result? ended] at leads
        cases inside with
        | busy => cases leads

/-- The names that are claimed are store keys. -/
theorem storeKey_of_claim
    {traffic : Traffic TaskStage}
    (run : Run gateway.stagedBehaviour (quiet scene) events traffic)
    {number : Nat}
    {name : String}
    {answer : LockClaim}
    (claimed : .calls number (.claim name) answer ∈ events) :
    HostName.storeKey name = name := by
  obtain ⟨ahead, behind, rfl⟩ := List.append_of_mem claimed
  obtain ⟨before, after, runBefore, step, -⟩ := run.split_at
  obtain ⟨task, stage, next, there, left, moves, -, -, -⟩ := step.called
  obtain ⟨job, inner, progress, stands, inside, -⟩ :=
    (TaskStage.standing_moves moves).inside_of_issues trivial
  have fits := GuardsFit.fits_of_run runBefore there left
  obtain ⟨-, isJob⟩ := TaskStage.request_of_standing fits stands
  cases inside <;> exact Gateway.storeKey_key isJob

/-- The owner of a guard stores a record while it holds the guard; the events
since then begin with this. -/
def StoredUnderGuard
    (events since : List TrafficEvent)
    (owner : Nat)
    (name : String)
    (guardNumber : Nat) :
    Prop :=
  ∃ ahead record behind,
    events = ahead ++ since ∧
      since = .calls owner (.putRecord name record) (.ok ()) :: behind ∧
      .calls owner (.claim name) (.owner guardNumber) ∈ ahead ∧
      .calls owner (.release name) () ∉ ahead

/-- Who waited for a guard reads after the owner of the guard has stored. -/
theorem read_after_stored
    {traffic : Traffic TaskStage}
    (free : scene.locks.isEmpty = true)
    (run : Run gateway.stagedBehaviour (quiet scene) events traffic)
    {since ahead behind : List TrafficEvent}
    {owner waiter : Nat}
    {name : String}
    {guardNumber : Nat}
    {answer : Except StoreError (Option CertificateResource)}
    (stored : StoredUnderGuard events since owner name guardNumber)
    (reads : events = ahead ++ .calls waiter (.findRecord name) answer :: behind)
    (waited : .calls waiter (.claim name) (.busy guardNumber) ∈ ahead) :
    ∃ between,
      since = between ++ .calls waiter (.findRecord name) answer :: behind ∧ between ≠ [] := by
  obtain ⟨front, record, back, rfl, rfl, claimed, unreleased⟩ := stored
  rcases List.append_eq_append_iff.mp reads with ⟨between, -, restIs⟩ | ⟨between, frontIs, restIs⟩
  · cases between with
    | nil => cases restIs
    | cons first rest => exact ⟨_, restIs, nofun⟩
  · cases between with
    | nil => cases restIs
    | cons first rest =>
        -- The read would come before the write, while the guard is still held.
        cases restIs
        obtain ⟨storing, _, runFront, putStep, -⟩ := run.split_at
        subst frontIs
        obtain ⟨reading, _, runAhead, readStep, runRest⟩ := runFront.split_at
        obtain ⟨old, waiting, there, waits⟩ := afterBusy_of_run free runAhead waited
        obtain ⟨reader, stage, next, readerThere, left, moves, admitted, -, -⟩ := readStep.called
        cases there.symm.trans readerThere
        obtain ⟨-, gone, -⟩ := (waits stage left).moves (TaskStage.standing_moves moves) admitted
        obtain ⟨owning, ownerThere, holds⟩ := guard_of_run free runFront claimed unreleased
        obtain ⟨writer, writing, _, writerThere, writerLeft, -⟩ := putStep.called
        cases ownerThere.symm.trans writerThere
        have held :=
          (GuardsFit.of_run free runFront).registers.held_iff.mpr
            ⟨owner, (guards_of_present ownerThere).trans (holds writing writerLeft)⟩
        exact (gone ((runRest.follows.trans readStep.follows).held_before old held)).elim

/-- Who waited for a guard whose owner has stored finds a record, unless the
store fails: the owner's record or one that was written later. -/
theorem found_after_stored
    {traffic : Traffic TaskStage}
    (free : scene.locks.isEmpty = true)
    (run : Run gateway.stagedBehaviour (quiet scene) events traffic)
    {since ahead behind : List TrafficEvent}
    {owner waiter : Nat}
    {name : String}
    {guardNumber : Nat}
    {answer : Except StoreError (Option CertificateResource)}
    (stored : StoredUnderGuard events since owner name guardNumber)
    (kept : NeverDeletedIn since name)
    (reads : events = ahead ++ .calls waiter (.findRecord name) answer :: behind)
    (waited : .calls waiter (.claim name) (.busy guardNumber) ∈ ahead) :
    (∃ found, answer = .ok (some found) ∧ WrittenIn since name found) ∨
      ∃ error,
        answer = .error error ∧ .calls waiter (.findRecord name) (.error error) ∈ since := by
  obtain ⟨between, sinceIs, nonempty⟩ := read_after_stored free run stored reads waited
  obtain ⟨front, record, back, rfl, isSince, claimed, -⟩ := stored
  have isKey := storeKey_of_claim run (List.mem_append_left since claimed)
  cases between with
  | nil => exact (nonempty rfl).elim
  | cons first rest =>
      subst sinceIs
      cases isSince
      obtain ⟨_, written, _, putStep, runBack⟩ := run.split_at
      obtain ⟨reading, _, runRest, readStep, -⟩ := runBack.split_at
      obtain ⟨_, _, _, _, _, _, _, sceneIs, _⟩ := putStep.called
      have storedThen : written.scene.records.get? name = some record := by
        rw [sceneIs]
        change (Catalog.insert _ (HostName.storeKey name) record).get? name = some record
        rw [Catalog.get?_insert, isKey, if_pos rfl]
      obtain ⟨now, storedNow, nowIs⟩ := runRest.stored storedThen fun eraser erased member =>
        kept eraser erased (List.mem_cons_of_mem _ (List.mem_append_left _ member))
      obtain ⟨_, _, _, _, _, _, admitted, _, _⟩ := readStep.called
      rcases admitted with isFound | ⟨error, isError⟩
      · refine Or.inl ⟨now, ?_, ?_⟩
        · rw [isFound, Records.find?, isKey, storedNow]
        · rcases nowIs with rfl | ⟨writer, name, member, sameKey⟩
          · exact ⟨owner, name, List.mem_cons_self, isKey⟩
          · exact ⟨writer, name, List.mem_cons_of_mem _ (List.mem_append_left _ member), sameKey⟩
      · subst isError
        exact Or.inr ⟨error, rfl, List.mem_append_right _ List.mem_cons_self⟩

/-! ## The programs -/

variable {traffic : Traffic TaskStage}

/-- Who asks an authority owns the name of the certificate. -/
theorem owner_of_asks
    (run : Run gateway.stagedBehaviour (quiet scene) events traffic)
    {number : Nat}
    {task : GatewayTask (GatewayProgram TaskResult)}
    (present : (traffic.programs gateway).tasks[number]? = some task)
    (asks : task.AsksAuthority) :
    ∃ original stage name,
      traffic.tasks[number]? = some original ∧
        original.rest = some stage ∧
        (stage.standing gateway).owned? = some name ∧
        task.errand.certificateName? gateway = some name := by
  obtain ⟨call, next, left, asking⟩ := asks
  obtain ⟨original, stage, behind, same, stageLeft, programIs⟩ :=
    original_of_programs present left
  obtain ⟨later, moves, -⟩ := TaskStage.moves_of_program programIs call.someAnswer
  have fits := GuardsFit.fits_of_run run behind stageLeft
  obtain ⟨owned, named⟩ := TaskStage.owned_of_asks fits moves asking
  obtain ⟨name, isName⟩ := Option.isSome_iff_exists.mp named
  have sameErrand : task.errand = original.errand := by rw [← same, GatewayTask.map_errand]
  exact ⟨original, stage, name, behind, stageLeft, owned.trans isName, by rw [sameErrand, isName]⟩

/-- When all tasks have ended, no guard is left. -/
theorem guards_of_ended
    (free : scene.locks.isEmpty = true)
    (run : Run gateway.stagedBehaviour (quiet scene) events traffic)
    (ended : ∀ task ∈ (traffic.programs gateway).tasks, task.Ended)
    (number : Nat) :
    traffic.guards number = none := by
  cases present : traffic.tasks[number]? with
  | none => rw [guards, present, Option.bind_none]
  | some task =>
      have owner := (GuardsFit.of_run free run).owners present
      rw [guards_of_present present]
      cases left : task.rest with
      | none =>
          rw [left] at owner
          exact Option.map_eq_none_iff.mp owner
      | some stage =>
          have member : task.map (TaskStage.program gateway) ∈ (traffic.programs gateway).tasks :=
            List.mem_map_of_mem (List.mem_of_getElem? present)
          obtain ⟨result, isDone⟩ := ended _ member (stage.program gateway) (by simp [left])
          rw [left, Option.bind_some, TaskStage.owned?_of_done isDone] at owner
          exact Option.map_eq_none_iff.mp owner

/-- When all tasks have ended, no name is locked. -/
theorem isEmpty_of_ended
    (free : scene.locks.isEmpty = true)
    (run : Run gateway.stagedBehaviour (quiet scene) events traffic)
    (ended : ∀ task ∈ (traffic.programs gateway).tasks, task.Ended) :
    traffic.scene.locks.isEmpty = true := by
  refine Catalog.isEmpty_iff.mpr fun name => ?_
  cases held : traffic.scene.locks.held.get? name with
  | none => rfl
  | some guardNumber =>
      obtain ⟨number, guard⟩ := (GuardsFit.of_run free run).registers.held_iff.mp held
      rw [guards_of_ended free run ended number] at guard
      cases guard

/-- A name is locked exactly while a task holds a guard for it. -/
theorem isLocked_iff
    (fits : GuardsFit gateway traffic)
    (name : String) :
    traffic.scene.locks.isLocked name = true ↔
      ∃ number guardNumber, traffic.guards number = some (name, guardNumber) := by
  change (traffic.scene.locks.held.get? name).isSome = true ↔ _
  rw [Option.isSome_iff_exists]
  constructor
  · rintro ⟨guardNumber, held⟩
    obtain ⟨number, guard⟩ := fits.registers.held_iff.mp held
    exact ⟨number, guardNumber, guard⟩
  · rintro ⟨number, guardNumber, guard⟩
    exact ⟨guardNumber, fits.registers.held_iff.mpr ⟨number, guard⟩⟩

/-- No two tasks ask an authority for the certificate of one name. -/
theorem asks_unique
    (free : scene.locks.isEmpty = true)
    (run : Run gateway.stagedBehaviour (quiet scene) events traffic)
    {number : Nat}
    {task : GatewayTask (GatewayProgram TaskResult)}
    (present : (traffic.programs gateway).tasks[number]? = some task)
    (asks : task.AsksAuthority) :
    ∃ name,
      task.errand.certificateName? gateway = some name ∧
        ∀ (other : Nat) (otherTask : GatewayTask (GatewayProgram TaskResult)),
          (traffic.programs gateway).tasks[other]? = some otherTask →
          otherTask.AsksAuthority →
          otherTask.errand.certificateName? gateway = some name →
          other = number := by
  obtain ⟨original, stage, name, behind, left, owned, named⟩ := owner_of_asks run present asks
  refine ⟨name, named, fun other otherTask otherPresent otherAsks otherNamed => ?_⟩
  obtain ⟨otherOriginal, otherStage, otherName, otherBehind, otherLeft, otherOwned, isName⟩ :=
    owner_of_asks run otherPresent otherAsks
  cases isName.symm.trans otherNamed
  exact (GuardsFit.of_run free run).owner_unique otherBehind otherLeft otherOwned behind left owned

/-- Who found a name in issuance makes a call only when that guard is gone, and
neither asks an authority nor takes a token. -/
theorem patient_of_busy
    {later : Traffic TaskStage}
    (free : scene.locks.isEmpty = true)
    (run : Run gateway.stagedBehaviour (quiet scene) events traffic)
    {number : Nat}
    {name : String}
    {guardNumber : Nat}
    {call : GatewayCall}
    {answer : call.Answer}
    (found : .calls number (.claim name) (.busy guardNumber) ∈ events)
    (step : Step gateway.stagedBehaviour traffic (.calls number call answer) later) :
    (∀ holder, traffic.guards holder ≠ some (name, guardNumber)) ∧
      ¬ call.AsksAuthority ∧
      ¬ call.TakesToken := by
  obtain ⟨old, task, present, waits⟩ := afterBusy_of_run free run found
  obtain ⟨acting, stage, next, there, left, moves, admitted, -, -⟩ := step.called
  cases present.symm.trans there
  obtain ⟨-, gone, noAsk, noToken⟩ :=
    (waits stage left).moves (TaskStage.standing_moves moves) admitted
  refine ⟨fun holder held => ?_, noAsk, noToken⟩
  exact gone ((GuardsFit.of_run free run).registers.held_iff.mpr ⟨holder, held⟩)

/-- What a task that waited for a record can have got: one that was written in
the course of some events, or the error of a store that it could not read then. -/
def GotWritten
    (since : List TrafficEvent)
    (waiter : Nat)
    (key : String)
    (result : Except ObtainError CertificateResource) :
    Prop :=
  (∃ found, result = .ok found ∧ WrittenIn since key found) ∨
    ∃ error,
      result = .error (.store error) ∧
        .calls waiter (.findRecord key) (.error error) ∈ since

/-- What a waiter reads is what the owner has stored, or was stored later. -/
theorem gotWritten_of_read
    (free : scene.locks.isEmpty = true)
    (run : Run gateway.stagedBehaviour (quiet scene) events traffic)
    {since ahead behind : List TrafficEvent}
    {owner waiter : Nat}
    {name : String}
    {guardNumber : Nat}
    {answer : Except StoreError (Option CertificateResource)}
    (stored : StoredUnderGuard events since owner name guardNumber)
    (kept : NeverDeletedIn since name)
    (reads : events = ahead ++ .calls waiter (.findRecord name) answer :: behind)
    (waited : .calls waiter (.claim name) (.busy guardNumber) ∈ ahead) :
    GotWritten since waiter name (takenResult name answer) := by
  rcases found_after_stored free run stored kept reads waited with
    ⟨found, rfl, written⟩ | ⟨error, rfl, member⟩
  · exact Or.inl ⟨found, rfl, written⟩
  · exact Or.inr ⟨error, rfl, member⟩

/-- What a waiter ends with is what the owner has stored, or was stored later. -/
theorem gotWritten_of_done
    (free : scene.locks.isEmpty = true)
    (run : Run gateway.stagedBehaviour (quiet scene) events traffic)
    {since : List TrafficEvent}
    {owner waiter : Nat}
    {name : String}
    {guardNumber : Nat}
    {task : GatewayTask (GatewayProgram TaskResult)}
    {result : Except ObtainError CertificateResource}
    (stored : StoredUnderGuard events since owner name guardNumber)
    (kept : NeverDeletedIn since name)
    (waited : .calls waiter (.claim name) (.busy guardNumber) ∈ events)
    (present : (traffic.programs gateway).tasks[waiter]? = some task)
    (left : task.rest = some (.done (.obtained result))) :
    GotWritten since waiter name result := by
  obtain ⟨original, stage, behind, same, stageLeft, programIs⟩ :=
    original_of_programs present left
  obtain ⟨waiting, there, took⟩ := took_of_run free run waited
  cases behind.symm.trans there
  obtain ⟨ahead, after, answer, isRead, before, rfl⟩ :=
    took stage stageLeft result (TaskStage.result?_of_done programIs)
  exact gotWritten_of_read free run stored kept isRead before

/-- Issuance in traffic.  At most one task at a time asks an authority for the
certificate of a name; a name is locked exactly while one task holds its guard,
so that no lock is left when all tasks have ended; who found a name in issuance
goes on only when that guard is gone, and neither asks an authority nor takes a
token from then on; and if the owner of the guard stored a record and nothing is
deleted, who waited gets that record or a later one. -/
theorem issuance_excludes_and_hands_on
    {gateway : Gateway}
    {scene : Scene}
    {events : List TrafficEvent}
    {traffic : Traffic (GatewayProgram TaskResult)}
    (free : scene.locks.isEmpty = true)
    (run : Run gateway.behaviour (quiet scene) events traffic) :
    (∀ (number : Nat) (task : GatewayTask (GatewayProgram TaskResult)),
      traffic.tasks[number]? = some task →
      task.AsksAuthority →
      ∃ name,
        task.errand.certificateName? gateway = some name ∧
          ∀ (other : Nat) (otherTask : GatewayTask (GatewayProgram TaskResult)),
            traffic.tasks[other]? = some otherTask →
            otherTask.AsksAuthority →
            otherTask.errand.certificateName? gateway = some name →
            other = number) ∧
    (∀ name,
      traffic.scene.locks.isLocked name = true ↔
        ∃ number guardNumber, traffic.guards number = some (name, guardNumber)) ∧
    (∀ number other name guardNumber otherGuard,
      traffic.guards number = some (name, guardNumber) →
      traffic.guards other = some (name, otherGuard) →
      number = other) ∧
    ((∀ task ∈ traffic.tasks, task.Ended) → traffic.scene.locks.isEmpty = true) ∧
    (∀ number name guardNumber call answer later,
      .calls number (.claim name) (.busy guardNumber) ∈ events →
      Step gateway.behaviour traffic (.calls number call answer) later →
      (∀ holder, traffic.guards holder ≠ some (name, guardNumber)) ∧
        ¬ call.AsksAuthority ∧
        ¬ call.TakesToken) ∧
    (∀ since owner waiter name guardNumber,
      StoredUnderGuard events since owner name guardNumber →
      NeverDeletedIn since name →
      .calls waiter (.claim name) (.busy guardNumber) ∈ events →
      (∀ ahead behind answer,
        events = ahead ++ .calls waiter (.findRecord name) answer :: behind →
        .calls waiter (.claim name) (.busy guardNumber) ∈ ahead →
        GotWritten since waiter name (takenResult name answer)) ∧
      ∀ (task : GatewayTask (GatewayProgram TaskResult)) (result),
        traffic.tasks[waiter]? = some task →
        task.rest = some (.done (.obtained result)) →
        GotWritten since waiter name result) := by
  obtain ⟨staged, stagedRun, rfl⟩ := run_staged run
  have fits := GuardsFit.of_run free stagedRun
  refine ⟨?exclusive, ?locked, ?unique, ?released, ?patient, ?handedOn⟩
  case exclusive =>
    intro number task present asks
    exact asks_unique free stagedRun present asks
  case locked =>
    intro name
    rw [guards_programs]
    exact isLocked_iff fits name
  case unique =>
    intro number other name guardNumber otherGuard held otherHeld
    rw [guards_programs] at held otherHeld
    exact fits.registers.unique held otherHeld
  case released =>
    intro ended
    exact isEmpty_of_ended free stagedRun ended
  case patient =>
    intro number name guardNumber call answer later found step
    obtain ⟨laterStaged, stagedStep, -⟩ := step_staged step
    rw [guards_programs]
    exact patient_of_busy free stagedRun found stagedStep
  case handedOn =>
    intro since owner waiter name guardNumber stored kept waited
    constructor
    · intro ahead behind answer isRead before
      exact gotWritten_of_read free stagedRun stored kept isRead before
    · intro task result present left
      exact gotWritten_of_done free stagedRun stored kept waited present left

/-- Two requests for one name in a run: the second one waits for the first. -/
def handOffEvents : List TrafficEvent :=
  let issued := SmallGateway.certificate "issued" 1707776000
  [ .arrives (.obtaining { domains := [SmallGateway.blog] })
  , .arrives (.obtaining { domains := [SmallGateway.blog] })
  , .calls 0 (.claim SmallGateway.blog) (.owner 0)
  , .calls 1 (.claim SmallGateway.blog) (.busy 0)
  , .calls 0 (.spend .order) ()
  , .calls 0 (.spend .request) ()
  , .calls 0 (.order .general [SmallGateway.blog]) (.ok issued)
  , .calls 0 (.putRecord SmallGateway.blog issued) (.ok ())
  , .calls 0 (.release SmallGateway.blog) ()
  , .calls 1 (.awaitRelease SmallGateway.blog 0) ()
  , .calls 1 (.findRecord SmallGateway.blog) (.ok (some issued)) ]

/-- The second of two requests gets what was written from the first one's write
on, and no lock is left. -/
theorem second_request_gets_written :
    ∃ traffic,
      Run SmallGateway.gateway.behaviour (quiet (SmallGateway.scene Catalog.empty))
          handOffEvents traffic ∧
        traffic.scene.locks.isEmpty = true ∧
        ∃ task result,
          traffic.tasks[1]? = some task ∧
            task.rest = some (.done (.obtained result)) ∧
            GotWritten (handOffEvents.drop 7) 1 SmallGateway.blog result := by
  let issued := SmallGateway.certificate "issued" 1707776000
  have replayed :
      ((replay SmallGateway.gateway (quiet (SmallGateway.scene Catalog.empty))
        handOffEvents).any fun traffic =>
          traffic.tasks.map GatewayTask.obtained? == [some issued, some issued]) = true := by
    decide +kernel
  obtain ⟨traffic, accepted, obtained⟩ := (Option.any_eq_true _ _).mp replayed
  have bothObtained := eq_of_beq obtained
  have run := run_of_replay .nil accepted
  obtain ⟨-, -, -, released, -, handedOn⟩ := issuance_excludes_and_hands_on rfl run
  refine ⟨traffic, run, released ?_, ?_⟩
  · intro task member program left
    have obtainedIssued : task.obtained? = some issued := by
      have mapped : task.obtained? ∈ traffic.tasks.map GatewayTask.obtained? :=
        List.mem_map_of_mem member
      simpa [bothObtained] using mapped
    cases left.symm.trans (GatewayTask.rest_of_obtained? obtainedIssued)
    exact ⟨_, rfl⟩
  · obtain ⟨task, present, obtainedIssued⟩ : ∃ task,
        traffic.tasks[1]? = some task ∧ task.obtained? = some issued := by
      have second := congrArg (·[1]?) bothObtained
      simp only [List.getElem?_map] at second
      exact Option.map_eq_some_iff.mp second
    have left := GatewayTask.rest_of_obtained? obtainedIssued
    have stored :
        StoredUnderGuard handOffEvents (handOffEvents.drop 7) 0 SmallGateway.blog 0 :=
      ⟨handOffEvents.take 7, _, _, rfl, rfl, by simp [handOffEvents], by simp [handOffEvents]⟩
    have kept : NeverDeletedIn (handOffEvents.drop 7) SmallGateway.blog := by
      intro eraser name member
      simp [handOffEvents] at member
    have waited :
        .calls 1 (.claim SmallGateway.blog) (.busy 0) ∈ handOffEvents := by
      simp [handOffEvents]
    exact ⟨task, _, present, left, (handedOn _ _ 1 _ _ stored kept waited).2 task _ present left⟩

end Traffic

end OnDemandTls
