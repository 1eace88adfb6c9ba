import OnDemandTls.Program

namespace OnDemandTls

/-!
# Schedules

A schedule carries out tasks, each of which is a program, against one world.  A
task goes on until it has to wait; then the task that has been ready for longest
goes on.  The clock stands still while there is a task that can go on, and
otherwise jumps to the first instant for which a task sleeps.  Times are
milliseconds.
-/

/-- What comes of a call of a task. -/
inductive Reply (I : Interface) (ρ σ : Type) (request : I.Call) where
  /-- The task goes on. -/
  | answer (value : I.Answer request) (world : σ)
  /-- The task goes on when all others wait. -/
  | answerLast (value : I.Answer request) (world : σ)
  /-- The task calls again at an instant. -/
  | retryAt (deadline : Nat) (world : σ)
  /-- The task calls again when the call would not be held up. -/
  | heldUp
  /-- A new task is started, and its number is made an answer. -/
  | started (program : Program I ρ) (answer : Nat → I.Answer request)

/-- What carries out calls, given the time and the state of a world. -/
abbrev Performer (I : Interface) (ρ σ : Type) :=
  Nat → (request : I.Call) → σ → Reply I ρ σ request

/-- A task that is not finished. -/
structure ScheduledTask (I : Interface) (ρ : Type) where
  number : Nat
  program : Program I ρ

/-- Tasks and the world that they call. -/
structure Schedule (I : Interface) (ρ σ : Type) where
  now : Nat
  world : σ
  /-- Tasks that can go on, the next one first. -/
  ready : List (ScheduledTask I ρ)
  /-- Tasks that go on when all others wait, the next one first. -/
  last : List (ScheduledTask I ρ)
  /-- Sleeping tasks with the instants at which they go on, in order. -/
  sleeping : List (Nat × ScheduledTask I ρ)
  /-- Tasks that are held up, the first one that was held up first. -/
  heldUp : List (ScheduledTask I ρ)
  /-- The results of tasks under their numbers. -/
  finished : List (Nat × ρ)
  /-- The number of the next task. -/
  next : Nat

namespace Schedule

variable {I : Interface} {ρ σ : Type}

/-- A world without tasks. -/
def ofWorld (world : σ) : Schedule I ρ σ where
  now := 0
  world := world
  ready := []
  last := []
  sleeping := []
  heldUp := []
  finished := []
  next := 0

/-- Add a task; it is started after all tasks that can go on. -/
def start
    (schedule : Schedule I ρ σ)
    (program : Program I ρ) :
    Schedule I ρ σ :=
  { schedule with
    ready := schedule.ready ++ [⟨schedule.next, program⟩]
    next := schedule.next + 1 }

/-- The result of a task, if it is finished. -/
def result?
    (schedule : Schedule I ρ σ)
    (number : Nat) :
    Option ρ :=
  schedule.finished.lookup number

/-- Whether some task can go on without the clock going on. -/
def isBusy (schedule : Schedule I ρ σ) : Bool :=
  !schedule.ready.isEmpty || !schedule.last.isEmpty

/-- File a sleeping task behind those that sleep as long. -/
def insertSleeping
    (deadline : Nat)
    (task : ScheduledTask I ρ) :
    List (Nat × ScheduledTask I ρ) → List (Nat × ScheduledTask I ρ)
  | [] => [(deadline, task)]
  | head :: rest =>
      if deadline < head.1 then
        (deadline, task) :: head :: rest
      else
        head :: insertSleeping deadline task rest

/-- Whether the next call of a program would be held up. -/
def isHeldUp
    (perform : Performer I ρ σ)
    (now : Nat)
    (world : σ) :
    Program I ρ → Bool
  | .done _ => false
  | .call request _ =>
      match perform now request world with
      | .heldUp => true
      | _ => false

/-- Put tasks that are no longer held up behind those that can go on. -/
def releaseHeldUp
    (perform : Performer I ρ σ)
    (schedule : Schedule I ρ σ) :
    Schedule I ρ σ :=
  let (heldUp, released) :=
    schedule.heldUp.partition fun task =>
      isHeldUp perform schedule.now schedule.world task.program
  { schedule with ready := schedule.ready ++ released, heldUp := heldUp }

/-- Have a task make its next call. -/
def advance
    (perform : Performer I ρ σ)
    (task : ScheduledTask I ρ)
    (schedule : Schedule I ρ σ) :
    Schedule I ρ σ :=
  match task.program with
  | .done value => { schedule with finished := schedule.finished ++ [(task.number, value)] }
  | .call request next =>
      match perform schedule.now request schedule.world with
      | .answer value world =>
          { schedule with
            world := world
            ready := ⟨task.number, next value⟩ :: schedule.ready }
      | .answerLast value world =>
          { schedule with
            world := world
            last := schedule.last ++ [⟨task.number, next value⟩] }
      | .retryAt deadline world =>
          { schedule with
            world := world
            sleeping := insertSleeping deadline task schedule.sleeping }
      | .heldUp => { schedule with heldUp := schedule.heldUp ++ [task] }
      | .started program answer =>
          let schedule' := schedule.start program
          { schedule' with ready := ⟨task.number, next (answer schedule.next)⟩ :: schedule'.ready }

/-- One step: the next task makes a call, or the clock goes on.  Nothing happens
when all tasks are finished or held up. -/
def step
    (perform : Performer I ρ σ)
    (schedule : Schedule I ρ σ) :
    Schedule I ρ σ :=
  match schedule.ready, schedule.last, schedule.sleeping with
  | task :: ready, _, _ =>
      (advance perform task { schedule with ready := ready }).releaseHeldUp perform
  | [], task :: last, _ =>
      (advance perform task { schedule with last := last }).releaseHeldUp perform
  | [], [], (deadline, task) :: rest =>
      let now := max schedule.now deadline
      let (due, sleeping) := rest.span fun entry => entry.1 ≤ now
      { schedule with
        now := now
        ready := task :: due.map Prod.snd
        sleeping := sleeping }
  | [], [], [] => schedule

/-- Steps, at most `limit` of them, as long as a condition holds. -/
def runWhile
    (perform : Performer I ρ σ)
    (condition : Schedule I ρ σ → Bool) :
    Nat → Schedule I ρ σ → Schedule I ρ σ
  | 0, schedule => schedule
  | limit + 1, schedule =>
      if condition schedule && (schedule.isBusy || !schedule.sleeping.isEmpty) then
        runWhile perform condition limit (schedule.step perform)
      else
        schedule

end Schedule

end OnDemandTls
