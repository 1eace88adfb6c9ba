import OnDemandTls.Gateway.Maintenance
import OnDemandTls.Rehearsal.Task

namespace OnDemandTls

/-!
# Traffic

A gateway has any number of errands to run at the same time: handshakes,
requests for certificates, cycles of maintenance.  Each errand is a task, every
call of a task is one step, and the steps of all tasks come in any order.  The
store, the locks and the ready certificates answer as they are; an authority, a
write to the store, a budget and whatever else lies outside may answer anything.
A task can panic at any of its calls, and its guard then drops.

What the tasks do next is left to a behaviour.  `Gateway.behaviour` is that of
the programs of a gateway, and a run of traffic is a run of these programs.
-/

/-- What a gateway has to do. -/
inductive Errand where
  /-- Choose the certificate for a handshake. -/
  | resolving (serverName : Option String) (protocols : List String)
  | obtaining (request : ObtainRequest)
  | ensuringPrimary
  | sweeping (interval : Nat) (withHandshakes : Bool)

namespace Errand

/-- The program that runs an errand. -/
def program
    (gateway : Gateway) :
    Errand → GatewayProgram TaskResult
  | resolving serverName protocols =>
      (gateway.resolve serverName protocols).bind fun result => .done (.resolved result)
  | obtaining request =>
      (gateway.obtain request).bind fun result => .done (.obtained result)
  | ensuringPrimary =>
      gateway.ensurePrimary.bind fun result => .done (.obtained result)
  | sweeping interval withHandshakes =>
      (gateway.sweep interval withHandshakes).bind fun result => .done (.swept result)

/-- The request for a certificate that an errand may come to make. -/
def request?
    (gateway : Gateway) :
    Errand → Option ObtainRequest
  | resolving serverName _ =>
      ((serverName.map HostName.asked).filter (· ≠ "")).map fun name =>
        { domains := [name], user := (gateway.classify name).user }
  | obtaining request => some request
  | ensuringPrimary => some { domains := gateway.primaryDomain.domains, role := .primary }
  | sweeping _ _ => none

/-- The normalized name of the certificate that an errand may come to request. -/
def certificateName?
    (gateway : Gateway)
    (errand : Errand) :
    Option String :=
  (errand.request? gateway).bind fun request =>
    (Issuance.ofRequest? (gateway.client? request.role) request).map Issuance.key

end Errand

namespace GatewayCall

/-- Some answer to a call. -/
def someAnswer : (call : GatewayCall) → call.Answer
  | clock => (0 : Int)
  | findRecord _ => .ok none
  | putRecord _ _ | deleteRecord _ => .ok ()
  | listRecords => .ok []
  | compactStore => .ok ""
  | claim _ => LockClaim.busy 0
  | awaitRelease _ _ | release _ | spend _ | keepReady _ _ | dropReady _ | rest _ => ()
  | askUser _ | goesOn => true
  | renew _ _ | order _ _ => .error (.generation "")
  | findReady _ => none
  | stagedAnswer _ => none
  | purgeReady | purgeStaged | startObtaining _ => (0 : Nat)

end GatewayCall

/-- What the tasks of a gateway share. -/
structure Scene where
  /-- The second since 1970 at which the clock of milliseconds began. -/
  epoch : Int
  /-- The clock of milliseconds. -/
  instant : Nat
  records : Records
  locks : IssuanceLocks
  readyCertificates : TimedCatalog CertifiedKey

namespace Scene

/-- The second since 1970. -/
def second (scene : Scene) : Int :=
  scene.epoch + (scene.instant / 1000 : Nat)

/-- Whether a call can have an answer.  The store may fail to read and to write,
but what it reads is there. -/
def Admits
    (scene : Scene) :
    (call : GatewayCall) → call.Answer → Prop
  | .clock, answer => answer = scene.second
  | .findRecord name, answer =>
      answer = .ok (scene.records.find? name) ∨ ∃ error, answer = .error error
  | .listRecords, answer =>
      answer = .ok scene.records.toList ∨ ∃ error, answer = .error error
  | .claim name, answer => answer = (scene.locks.acquire name).1
  | .awaitRelease name guardNumber, _ => scene.locks.holds name guardNumber = false
  | .findReady key, answer => answer = (scene.readyCertificates.get key scene.instant).1
  | .purgeReady, answer => answer = (scene.readyCertificates.purge scene.instant).1
  | _, _ => True

/-- What an answered call leaves. -/
def after
    (scene : Scene) :
    (call : GatewayCall) → call.Answer → Scene
  | .putRecord name resource, .ok () =>
      { scene with records := scene.records.put name resource }
  | .deleteRecord name, .ok () =>
      { scene with records := scene.records.delete name }
  | .claim name, _ =>
      { scene with locks := (scene.locks.acquire name).2 }
  | .release name, _ =>
      { scene with locks := scene.locks.release name }
  | .findReady key, _ =>
      { scene with
        readyCertificates := (scene.readyCertificates.get key scene.instant).2 }
  | .keepReady key certified, _ =>
      { scene with
        readyCertificates :=
          scene.readyCertificates.file key certified (scene.instant + Gateway.readyLifetime) }
  | .dropReady key, _ =>
      { scene with readyCertificates := scene.readyCertificates.remove key }
  | .purgeReady, _ =>
      { scene with
        readyCertificates := (scene.readyCertificates.purge scene.instant).2 }
  | _, _ => scene

/-- Drop a guard, if there is one. -/
def dropGuard
    (scene : Scene) :
    Option (String × Nat) → Scene
  | none => scene
  | some (name, _) => { scene with locks := scene.locks.release name }

end Scene

/-- One errand on its way. -/
structure GatewayTask (ρ : Type) where
  errand : Errand
  /-- What is left to do; nothing is left after a panic. -/
  rest : Option ρ
  /-- The name and number of the guard that the task holds. -/
  guard : Option (String × Nat)

/-- The guard of a task after one of its calls. -/
def guardAfter
    (guard : Option (String × Nat)) :
    (call : GatewayCall) → call.Answer → Option (String × Nat)
  | .claim name, .owner guardNumber => some (name, guardNumber)
  | .release _, _ => none
  | _, _ => guard

/-- The errands that a call sends on their way. -/
def launched : GatewayCall → List Errand
  | .startObtaining request => [.obtaining request]
  | _ => []

/-- A gateway with all its tasks. -/
structure Traffic (ρ : Type) where
  scene : Scene
  tasks : List (GatewayTask ρ)

/-- One step of traffic. -/
inductive TrafficEvent where
  /-- A new errand begins. -/
  | arrives (errand : Errand)
  /-- A task makes a call and gets an answer. -/
  | calls (task : Nat) (call : GatewayCall) (answer : call.Answer)
  | panics (task : Nat)
  /-- Milliseconds go by. -/
  | passes (milliseconds : Nat)

/-- How errands begin, and how what is left of them gets on. -/
structure Behaviour (ρ : Type) where
  opening : Errand → ρ
  Moves : ρ → (call : GatewayCall) → call.Answer → ρ → Prop

namespace GatewayTask

/-- A task has come to its end or has panicked. -/
def Ended (task : GatewayTask (GatewayProgram TaskResult)) : Prop :=
  ∀ program, task.rest = some program → ∃ result, program = .done result

end GatewayTask

namespace Gateway

/-- The behaviour of the programs of a gateway. -/
def behaviour (gateway : Gateway) : Behaviour (GatewayProgram TaskResult) where
  opening := Errand.program gateway
  Moves program call answer rest :=
    ∃ next : call.Answer → GatewayProgram TaskResult,
      program = .call call next ∧ rest = next answer

end Gateway

namespace Traffic

variable {ρ : Type}

/-- A scene without tasks. -/
def quiet (scene : Scene) : Traffic ρ where
  scene := scene
  tasks := []

/-- A task that is about to begin. -/
def newTask
    (behaviour : Behaviour ρ)
    (errand : Errand) :
    GatewayTask ρ where
  errand := errand
  rest := some (behaviour.opening errand)
  guard := none

/-- The steps of traffic. -/
inductive Step (behaviour : Behaviour ρ) : Traffic ρ → TrafficEvent → Traffic ρ → Prop where
  | arrives
      (traffic : Traffic ρ)
      (errand : Errand) :
      Step behaviour traffic (.arrives errand)
        { traffic with tasks := traffic.tasks ++ [newTask behaviour errand] }
  | calls
      {traffic : Traffic ρ}
      {number : Nat}
      {task : GatewayTask ρ}
      {stage next : ρ}
      {call : GatewayCall}
      {answer : call.Answer} :
      traffic.tasks[number]? = some task →
      task.rest = some stage →
      behaviour.Moves stage call answer next →
      traffic.scene.Admits call answer →
      Step behaviour traffic (.calls number call answer)
        { scene := traffic.scene.after call answer
          tasks :=
            traffic.tasks.set number
                { task with rest := some next, guard := guardAfter task.guard call answer } ++
              (launched call).map (newTask behaviour) }
  | panics
      {traffic : Traffic ρ}
      {number : Nat}
      {task : GatewayTask ρ}
      {stage next : ρ}
      {call : GatewayCall}
      {answer : call.Answer} :
      traffic.tasks[number]? = some task →
      task.rest = some stage →
      behaviour.Moves stage call answer next →
      Step behaviour traffic (.panics number)
        { scene := traffic.scene.dropGuard task.guard
          tasks := traffic.tasks.set number { task with rest := none, guard := none } }
  | passes
      (traffic : Traffic ρ)
      (milliseconds : Nat) :
      Step behaviour traffic (.passes milliseconds)
        { traffic with
          scene := { traffic.scene with instant := traffic.scene.instant + milliseconds } }

/-- The runs of traffic, with all that happens in them. -/
inductive Run (behaviour : Behaviour ρ) (start : Traffic ρ) :
    List TrafficEvent → Traffic ρ → Prop where
  | nil :
      Run behaviour start [] start
  | snoc
      {events : List TrafficEvent}
      {traffic later : Traffic ρ}
      {event : TrafficEvent} :
      Run behaviour start events traffic →
      Step behaviour traffic event later →
      Run behaviour start (events ++ [event]) later

end Traffic

end OnDemandTls
