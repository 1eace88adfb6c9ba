import OnDemandTls.Proofs.Traffic.Guards

namespace OnDemandTls

/-!
# Traffic goes on

Only a task that waits for a guard can be kept from its next call, and the task
that holds the guard never waits itself.  So some task goes on as long as one has
not ended (`Traffic.goesOn_of_unfinished`), and a handshake makes no more than a
fixed number of calls (`Traffic.calls_le`).
-/

namespace Scene

/-- Only a call that waits for a guard may have to stay without an answer. -/
theorem exists_admitted
    (scene : Scene)
    {call : GatewayCall}
    (noWait : ∀ name guardNumber, call ≠ .awaitRelease name guardNumber) :
    ∃ answer, scene.Admits call answer := by
  cases call with
  | awaitRelease name guardNumber => exact (noWait name guardNumber rfl).elim
  | findRecord name => exact ⟨_, Or.inl rfl⟩
  | listRecords => exact ⟨_, Or.inl rfl⟩
  | clock => exact ⟨_, rfl⟩
  | claim name => exact ⟨_, rfl⟩
  | findReady key => exact ⟨_, rfl⟩
  | purgeReady => exact ⟨_, rfl⟩
  | _ => exact ⟨GatewayCall.someAnswer _, trivial⟩

end Scene

namespace IssuanceStage

/-- The owner of a name waits for nobody. -/
theorem not_await_of_owns
    {job : IssuanceJob}
    {stage : IssuanceStage}
    {call : GatewayCall}
    {answer : call.Answer}
    {later : IssuanceProgress}
    (moves : Moves job stage call answer later)
    (owns : stage.owns = true)
    (name : String)
    (guardNumber : Nat) :
    call ≠ .awaitRelease name guardNumber := by
  cases moves with
  | awaited seen => cases owns
  | _ => nofun

end IssuanceStage

namespace TaskStage

/-- A task that owns a name has a call to make, and waits for nobody. -/
theorem call_of_owned
    {gateway : Gateway}
    {stage : TaskStage}
    {name : String}
    (owned : (stage.standing gateway).owned? = some name) :
    ∃ (call : GatewayCall) (next : call.Answer → GatewayProgram TaskResult),
      stage.program gateway = .call call next ∧
        ∀ other guardNumber, call ≠ .awaitRelease other guardNumber := by
  cases upcoming : stage.program gateway with
  | done result =>
      rw [owned?_of_done upcoming] at owned
      cases owned
  | call call next =>
      refine ⟨call, next, rfl, ?_⟩
      rintro other guardNumber rfl
      obtain ⟨later, moves, -⟩ := moves_of_program upcoming ()
      obtain ⟨job, inner, progress, stands, inside, -⟩ :=
        (standing_moves moves).inside_of_issues trivial
      rw [stands, Standing.owned?] at owned
      split at owned
      · rename_i owns
        exact IssuanceStage.not_await_of_owns inside owns other guardNumber rfl
      · cases owned

end TaskStage

namespace Traffic

variable {gateway : Gateway} {scene : Scene} {events : List TrafficEvent}

/-- Some task has a call to make that can have an answer, and goes on with
whatever answer it has. -/
def GoesOn
    (gateway : Gateway)
    (traffic : Traffic (GatewayProgram TaskResult)) :
    Prop :=
  ∃ number call,
    (∃ answer, traffic.scene.Admits call answer) ∧
      ∀ answer,
        traffic.scene.Admits call answer →
        ∃ later, Step gateway.behaviour traffic (.calls number call answer) later

theorem goesOn_of_admitted
    {traffic : Traffic (GatewayProgram TaskResult)}
    {number : Nat}
    {task : GatewayTask (GatewayProgram TaskResult)}
    {call : GatewayCall}
    {next : call.Answer → GatewayProgram TaskResult}
    (present : traffic.tasks[number]? = some task)
    (left : task.rest = some (.call call next))
    (admitted : ∃ answer, traffic.scene.Admits call answer) :
    traffic.GoesOn gateway := by
  refine ⟨number, call, admitted, fun answer isAdmitted => ?_⟩
  have moves : gateway.behaviour.Moves (.call call next) call answer (next answer) :=
    ⟨next, rfl, rfl⟩
  exact ⟨_, .calls present left moves isAdmitted⟩

/-- A task that has to make a call can make it, or waits for a guard whose holder
can make its next call. -/
theorem admitted_or_waits
    {traffic : Traffic (GatewayProgram TaskResult)}
    {number : Nat}
    {task : GatewayTask (GatewayProgram TaskResult)}
    {call : GatewayCall}
    {next : call.Answer → GatewayProgram TaskResult}
    (free : scene.locks.isEmpty = true)
    (run : Run gateway.behaviour (quiet scene) events traffic)
    (present : traffic.tasks[number]? = some task)
    (left : task.rest = some (.call call next)) :
    (∃ answer, traffic.scene.Admits call answer) ∨
      ∃ (name : String) (guardNumber holder : Nat)
        (owner : GatewayTask (GatewayProgram TaskResult)) (ownCall : GatewayCall)
        (ownNext : ownCall.Answer → GatewayProgram TaskResult),
        call = .awaitRelease name guardNumber ∧
          traffic.tasks[holder]? = some owner ∧
          owner.guard = some (name, guardNumber) ∧
          owner.rest = some (.call ownCall ownNext) ∧
          ∃ answer, traffic.scene.Admits ownCall answer := by
  obtain ⟨staged, stagedRun, rfl⟩ := run_staged run
  by_cases waits : ∃ name guardNumber, call = .awaitRelease name guardNumber
  · obtain ⟨name, guardNumber, rfl⟩ := waits
    cases held : staged.scene.locks.holds name guardNumber with
    | false => exact Or.inl ⟨(), held⟩
    | true =>
        -- The holder of the guard owns the name, and so waits for nobody.
        have fits := GuardsFit.of_run free stagedRun
        obtain ⟨holder, guard⟩ := fits.registers.held_iff.mp (eq_of_beq held)
        obtain ⟨owner, ownerThere, ownerGuard⟩ := Option.bind_eq_some_iff.mp guard
        have owned := fits.owners ownerThere
        rw [ownerGuard, Option.map_some] at owned
        obtain ⟨stage, stageLeft, stageOwns⟩ := Option.bind_eq_some_iff.mp owned.symm
        obtain ⟨ownCall, ownNext, upcoming, noWait⟩ := TaskStage.call_of_owned stageOwns
        have ownLeft :
            (owner.map (TaskStage.program gateway)).rest = some (.call ownCall ownNext) := by
          simp only [GatewayTask.map_rest, stageLeft, Option.map_some, upcoming]
        exact Or.inr ⟨name, guardNumber, holder, _, ownCall, ownNext, rfl,
          getElem?_programs ownerThere, ownerGuard, ownLeft, staged.scene.exists_admitted noWait⟩
  · refine Or.inl (Scene.exists_admitted _ ?_)
    exact fun name guardNumber same => waits ⟨name, guardNumber, same⟩

/-- As long as a task has not ended, some task goes on. -/
theorem goesOn_of_unfinished
    {traffic : Traffic (GatewayProgram TaskResult)}
    (free : scene.locks.isEmpty = true)
    (run : Run gateway.behaviour (quiet scene) events traffic)
    (unfinished : ¬ ∀ task ∈ traffic.tasks, task.Ended) :
    traffic.GoesOn gateway := by
  obtain ⟨task, member, unended⟩ : ∃ task ∈ traffic.tasks, ¬ task.Ended := by
    simpa using unfinished
  obtain ⟨number, present⟩ := List.mem_iff_getElem?.mp member
  obtain ⟨program, left, undone⟩ :
      ∃ program, task.rest = some program ∧ ∀ result, program ≠ .done result := by
    simpa [GatewayTask.Ended] using unended
  cases program with
  | done result => exact (undone result rfl).elim
  | call call next =>
      rcases admitted_or_waits free run present left with
        admitted | ⟨name, guardNumber, holder, owner, ownCall, ownNext, -, shown, -, ownLeft, admitted⟩
      · exact goesOn_of_admitted present left admitted
      · exact goesOn_of_admitted shown ownLeft admitted

end Traffic

/-! ## Calls that are left -/

namespace IssuanceStage

/-- How many calls an issuance makes at most from a stage on. -/
def callsLeft : IssuanceStage → Nat
  | claiming => 13
  | waiting _ => 2
  | taking => 1
  | payingRenewal _ => 12
  | renewing _ => 11
  | payingFailure => 10
  | charging _ => 9
  | payingOrder => 8
  | payingRequest => 7
  | ordering => 6
  | judging _ => 5
  | marking _ _ => 4
  | datingMock _ => 3
  | storing _ | storingMock _ _ => 2
  | releasing _ => 1

end IssuanceStage

namespace IssuanceProgress

/-- How many calls an issuance makes at most from here on. -/
def callsLeft : IssuanceProgress → Nat
  | on stage => stage.callsLeft
  | ended _ => 0

end IssuanceProgress

namespace IssuanceJob

theorem callsLeft_freshStage (job : IssuanceJob) : job.freshStage.callsLeft ≤ 9 := by
  unfold freshStage
  cases job.request.user with
  | none => exact Nat.le_succ 8
  | some user => exact Nat.le_refl 9

theorem callsLeft_firstStage (job : IssuanceJob) : job.firstStage.callsLeft ≤ 12 := by
  unfold firstStage
  split
  · decide
  · split
    · decide
    · cases job.previous with
      | none => exact Nat.le_trans job.callsLeft_freshStage (by decide)
      | some previous => exact Nat.le_refl 12

theorem callsLeft_verdict
    (job : IssuanceJob)
    (reason : AuthorityError)
    (second : Int) :
    (job.verdict reason second).callsLeft ≤ 4 := by
  unfold verdict
  cases job.previous.filter (fun resource => !resource.isExpired second) with
  | none => exact Nat.le_succ 3
  | some previous => exact Nat.le_refl 4

end IssuanceJob

namespace IssuanceStage

/-- With every call of an issuance there is one less to make. -/
theorem callsLeft_moves
    {job : IssuanceJob}
    {stage : IssuanceStage}
    {call : GatewayCall}
    {answer : call.Answer}
    {later : IssuanceProgress}
    (moves : Moves job stage call answer later) :
    later.callsLeft < stage.callsLeft := by
  cases moves with
  | owner guardNumber => exact Nat.lt_succ_of_le job.callsLeft_firstStage
  | paidFailure => exact Nat.lt_succ_of_le job.callsLeft_freshStage
  | judged reason second => exact Nat.lt_succ_of_le (job.callsLeft_verdict reason second)
  | _ => simp [IssuanceProgress.callsLeft, callsLeft]

end IssuanceStage

namespace HandshakeStage

/-- How many calls a handshake makes at most from a stage on. -/
def callsLeft : HandshakeStage → Nat
  | validating _ => 1
  | seekingReady _ _ => 18
  | seekingRecord _ _ => 17
  | dating _ _ _ => 3
  | launching _ _ _ _ => 2
  | obtaining _ _ stage => 3 + stage.callsLeft
  | datingFallback _ _ _ => 3
  | storingFallback _ _ _ _ => 2
  | keeping _ _ => 1
  | finished _ => 0

theorem callsLeft_serve
    (target : ServingTarget)
    (name : String)
    (resource : CertificateResource) :
    (serve target name resource).callsLeft ≤ 1 := by
  unfold serve
  cases resource.certifiedKey with
  | error reason => exact Nat.zero_le 1
  | ok certified => exact Nat.le_refl 1

theorem callsLeft_validated
    (name : String)
    (answer : Option String) :
    (validated name answer).callsLeft = 0 := by
  unfold validated
  cases answer with
  | none => rfl
  | some keyAuthorization =>
      simp only
      cases ValidationCertificate.make? name keyAuthorization <;> rfl

theorem callsLeft_opening
    (gateway : Gateway)
    (serverName : Option String)
    (protocols : List String) :
    (opening gateway serverName protocols).callsLeft ≤ 18 := by
  unfold opening
  split
  · exact Nat.zero_le 18
  · split
    · exact (by decide : 1 ≤ 18)
    · exact Nat.le_refl 18

/-- With every call of a handshake there is one less to make. -/
theorem callsLeft_moves
    {gateway : Gateway}
    {stage later : HandshakeStage}
    {call : GatewayCall}
    {answer : call.Answer}
    (moves : Moves gateway stage call answer later) :
    later.callsLeft < stage.callsLeft := by
  cases moves with
  | validated name answer =>
      rw [callsLeft_validated]
      exact Nat.zero_lt_one
  | found target name resource =>
      unfold found
      split
      · exact Nat.lt_of_le_of_lt (callsLeft_serve target name resource) (by decide : 1 < 17)
      · exact (by decide : 3 < 17)
  | missing target name =>
      unfold missing
      split
      · exact Nat.zero_lt_succ 16
      · split
        · exact Nat.lt_succ_self 16
        · exact Nat.zero_lt_succ 16
  | dated target name resource second =>
      unfold dated
      cases Gateway.renewalRequest? target.key resource second with
      | none => exact Nat.lt_of_le_of_lt (callsLeft_serve target name resource) (by decide : 1 < 3)
      | some request => exact Nat.lt_succ_self 2
  | launched target name resource request number =>
      exact Nat.lt_succ_of_le (callsLeft_serve target name resource)
  | @issuance target name stage call answer later inside =>
      have fewer := IssuanceStage.callsLeft_moves inside
      match later with
      | .on stage => exact Nat.add_lt_add_left fewer 3
      | .ended (.ok resource) =>
          refine Nat.lt_of_le_of_lt (callsLeft_serve target name resource) ?_
          exact Nat.lt_add_right stage.callsLeft (by decide : 1 < 3)
      | .ended (.error reason) => exact Nat.lt_add_of_pos_right fewer
  | fallbackStored target name reason mock answer =>
      exact Nat.lt_succ_of_le (callsLeft_serve target name mock)
  | _ => simp [callsLeft]

end HandshakeStage

namespace TaskStage

/-- A handshake goes on as a handshake. -/
theorem handshake_moves
    {gateway : Gateway}
    {stage : HandshakeStage}
    {later : TaskStage}
    {call : GatewayCall}
    {answer : call.Answer}
    (moves : Moves gateway (.handshake stage) call answer later) :
    ∃ laterStage,
      later = .handshake laterStage ∧
        HandshakeStage.Moves gateway stage call answer laterStage := by
  cases moves with
  | handshake inside => exact ⟨_, rfl, inside⟩

end TaskStage

namespace TrafficEvent

/-- Whether a task makes a call in an event. -/
def isCallOf
    (number : Nat) :
    TrafficEvent → Bool
  | calls task _ _ => task == number
  | _ => false

/-- A task makes no call in an event in which it does not act. -/
theorem isCallOf_of_idle
    {event : TrafficEvent}
    {number : Nat}
    (idle : event.task? ≠ some number) :
    event.isCallOf number = false := by
  cases event with
  | calls task call answer => exact beq_false_of_ne fun same => idle (congrArg some same)
  | _ => rfl

end TrafficEvent

namespace Traffic

variable {gateway : Gateway} {scene : Scene} {events : List TrafficEvent}

theorem countP_snoc_other
    {event : TrafficEvent}
    {number : Nat}
    (noCall : event.isCallOf number = false) :
    (events ++ [event]).countP (TrafficEvent.isCallOf number) =
      events.countP (TrafficEvent.isCallOf number) := by
  rw [countP_snoc, noCall]
  rfl

theorem countP_snoc_call
    (number : Nat)
    (call : GatewayCall)
    (answer : call.Answer) :
    (events ++ [TrafficEvent.calls number call answer]).countP
        (TrafficEvent.isCallOf number) =
      events.countP (TrafficEvent.isCallOf number) + 1 := by
  rw [countP_snoc]
  exact congrArg _ (if_pos (beq_self_eq_true number))

/-- Tasks that are not there make no calls. -/
theorem calls_of_absent
    {traffic : Traffic TaskStage}
    (run : Run gateway.stagedBehaviour (quiet scene) events traffic)
    {number : Nat}
    (absent : traffic.tasks[number]? = none) :
    events.countP (TrafficEvent.isCallOf number) = 0 := by
  induction run with
  | nil => rfl
  | @snoc events middle later event _ step inductionHypothesis =>
      have absentBefore : middle.tasks[number]? = none := by
        cases there : middle.tasks[number]? with
        | none => rfl
        | some task =>
            obtain ⟨now, present, -⟩ := step.persists there
            rw [absent] at present
            cases present
      rw [countP_snoc_other (TrafficEvent.isCallOf_of_idle ?_), inductionHypothesis absentBefore]
      intro acts
      cases event with
      | arrives errand => cases acts
      | passes milliseconds => cases acts
      | calls actor call answer =>
          cases acts
          obtain ⟨_, _, _, there, -⟩ := step.called
          rw [absentBefore] at there
          cases there
      | panics actor =>
          cases acts
          obtain ⟨_, there, -⟩ := step.panicked
          rw [absentBefore] at there
          cases there

/-- The calls that a handshake has made and those that it has left are no more
than a fixed number. -/
theorem calls_add_callsLeft_le
    {traffic : Traffic TaskStage}
    (run : Run gateway.stagedBehaviour (quiet scene) events traffic)
    {number : Nat}
    {task : GatewayTask TaskStage}
    {serverName : Option String}
    {protocols : List String}
    (present : traffic.tasks[number]? = some task)
    (isHandshake : task.errand = .resolving serverName protocols) :
    events.countP (TrafficEvent.isCallOf number) ≤ 18 ∧
      ∀ stage,
        task.rest = some stage →
        ∃ inner,
          stage = .handshake inner ∧
            events.countP (TrafficEvent.isCallOf number) + inner.callsLeft ≤ 18 := by
  induction run generalizing task with
  | nil => cases present
  | @snoc events middle later event earlier step inductionHypothesis =>
      cases step.change present with
      | begins event errand absent idle =>
          rw [countP_snoc_other (TrafficEvent.isCallOf_of_idle idle), calls_of_absent earlier absent]
          refine ⟨Nat.zero_le 18, fun stage left => ?_⟩
          cases isHandshake
          cases left
          refine ⟨_, rfl, ?_⟩
          rw [Nat.zero_add]
          exact HandshakeStage.callsLeft_opening gateway serverName protocols
      | @moves task stage next call answer there leftBefore moves =>
          obtain ⟨-, before⟩ := inductionHypothesis there isHandshake
          obtain ⟨inner, rfl, most⟩ := before stage leftBefore
          obtain ⟨laterInner, rfl, inside⟩ := TaskStage.handshake_moves moves
          have fewer := HandshakeStage.callsLeft_moves inside
          rw [countP_snoc_call, Nat.succ_le_iff]
          refine ⟨by omega, fun stage left => ?_⟩
          cases left
          exact ⟨laterInner, rfl, by omega⟩
      | @panics task there =>
          obtain ⟨most, -⟩ := inductionHypothesis there isHandshake
          rw [countP_snoc_other rfl]
          exact ⟨most, fun stage left => nomatch left⟩
      | stays there idle =>
          rw [countP_snoc_other (TrafficEvent.isCallOf_of_idle idle)]
          exact inductionHypothesis there isHandshake

/-- A handshake makes at most eighteen calls. -/
theorem calls_le
    {traffic : Traffic (GatewayProgram TaskResult)}
    (run : Run gateway.behaviour (quiet scene) events traffic)
    {number : Nat}
    {task : GatewayTask (GatewayProgram TaskResult)}
    {serverName : Option String}
    {protocols : List String}
    (present : traffic.tasks[number]? = some task)
    (isHandshake : task.errand = .resolving serverName protocols) :
    events.countP (TrafficEvent.isCallOf number) ≤ 18 := by
  obtain ⟨staged, stagedRun, rfl⟩ := run_staged run
  obtain ⟨original, there, rfl⟩ := getElem?_map present
  exact (calls_add_callsLeft_le stagedRun there isHandshake).1

end Traffic

end OnDemandTls
