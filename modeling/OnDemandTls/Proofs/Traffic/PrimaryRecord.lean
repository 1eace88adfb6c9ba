import OnDemandTls.Proofs.PrimaryNames
import OnDemandTls.Proofs.Store.Reopening
import OnDemandTls.Proofs.Traffic.Entitlement
import OnDemandTls.Proofs.Traffic.Persistence
import OnDemandTls.Proofs.Traffic.SweepStages

namespace OnDemandTls

/-!
# The record of the primary certificate

A cycle of maintenance lists what expires and leaves out the key of the primary
certificate.  It compares that key with the keys as they are filed, and deletes
by their store keys; since the records are filed under store keys and the key of
the primary domain is one, whatever suffix it is made from, the primary record
is spared.  Nobody else deletes records, so once it is there it stays there.
-/

namespace Records

/-- All records are filed under store keys. -/
def Filed (records : Records) : Prop :=
  ∀ key, (records.get? key).isSome → HostName.storeKey key = key

theorem filed_empty : Filed Catalog.empty :=
  fun key filed => by cases filed

theorem Filed.put
    {records : Records}
    (filed : records.Filed)
    (name : String)
    (resource : CertificateResource) :
    (records.put name resource).Filed := by
  intro key present
  rw [Records.put, Catalog.get?_insert] at present
  split at present
  · rename_i same
    rw [same, HostName.storeKey_storeKey]
  · exact filed key present

theorem Filed.delete
    {records : Records}
    (filed : records.Filed)
    (name : String) :
    (records.delete name).Filed := by
  intro key present
  rw [Records.delete, Catalog.get?_erase] at present
  split at present
  · cases present
  · exact filed key present

end Records

/-- A store that is opened files under store keys. -/
theorem Records.filed_ofNamed (named : Catalog CertificateResource) :
    (Records.ofNamed named).Filed :=
  fun _ filed => storeKey_of_ofNamed filed

theorem Scene.filed_after
    {scene : Scene}
    (filed : scene.records.Filed)
    (call : GatewayCall)
    (answer : call.Answer) :
    (scene.after call answer).records.Filed := by
  cases call with
  | putRecord name resource =>
      cases answer with
      | ok => exact filed.put name resource
      | error error => exact filed
  | deleteRecord name =>
      cases answer with
      | ok => exact filed.delete name
      | error error => exact filed
  | _ => exact filed

theorem Traffic.Step.filed
    {ρ : Type}
    {behaviour : Behaviour ρ}
    {traffic later : Traffic ρ}
    {event : TrafficEvent}
    (step : Step behaviour traffic event later)
    (filed : traffic.scene.records.Filed) :
    later.scene.records.Filed := by
  rcases step.scene_cases with ⟨errand, -, sceneIs⟩ | ⟨number, call, answer, -, -, sceneIs⟩ |
    ⟨number, task, -, -, sceneIs⟩ | ⟨milliseconds, -, sceneIs⟩
  · rw [sceneIs]
    exact filed
  · rw [sceneIs]
    exact Scene.filed_after filed call answer
  · rw [sceneIs]
    cases task.guard <;> exact filed
  · rw [sceneIs]
    exact filed

/-! ## What a cycle spares -/

namespace SweepStage

/-- The keys whose records are still to be deleted. -/
def toDelete : SweepStage → List String
  | deleting _ _ key others => key :: others
  | dropping _ _ _ others => others
  | _ => []

@[simp] theorem toDelete_delete
    (now : Int)
    (report : MaintenanceReport)
    (keys : List String) :
    (delete now report keys).toDelete = keys := by
  cases keys <;> rfl

@[simp] theorem toDelete_deleted
    (withHandshakes : Bool)
    (now : Int)
    (report : MaintenanceReport)
    (key : String)
    (others : List String) :
    (deleted withHandshakes now report key others).toDelete = others := by
  cases withHandshakes with
  | true => rfl
  | false => exact toDelete_delete now _ others

/-- No record that is still to be deleted is the primary one. -/
def Spares
    (gateway : Gateway)
    (stage : SweepStage) :
    Prop :=
  ∀ key ∈ stage.toDelete, HostName.storeKey key ≠ gateway.primaryDomain.key

variable {gateway : Gateway} {interval : Nat} {withHandshakes : Bool}

theorem spares_of_expiring
    {records : Records}
    (filed : records.Filed)
    {threshold : Int}
    {key : String}
    (expires : key ∈ gateway.expiring threshold records.toList) :
    HostName.storeKey key ≠ gateway.primaryDomain.key := by
  obtain ⟨⟨listedKey, resource⟩, listed, same⟩ := List.mem_map.mp expires
  obtain rfl : listedKey = key := same
  obtain ⟨member, chosen⟩ := List.mem_filter.mp listed
  have another : listedKey ≠ gateway.primaryDomain.key := by
    simp only [Bool.and_eq_true, decide_eq_true_eq] at chosen
    exact chosen.1
  have stored := Catalog.get?_eq_some_iff.mpr member
  rwa [filed listedKey (by rw [stored]; rfl)]

/-- A cycle goes on to spare the primary record. -/
theorem spares_moves
    {scene : Scene}
    {stage later : SweepStage}
    {call : GatewayCall}
    {answer : call.Answer}
    (filed : scene.records.Filed)
    (admitted : scene.Admits call answer)
    (spares : stage.Spares gateway)
    (moves : Moves gateway interval withHandshakes stage call answer later) :
    later.Spares gateway := by
  cases moves with
  | listed now records =>
      intro key toDelete
      rw [toDelete_delete] at toDelete
      rcases admitted with isList | ⟨error, fails⟩
      · cases isList
        exact spares_of_expiring filed toDelete
      · cases fails
  | deleted now report key others =>
      intro other toDelete
      rw [toDelete_deleted] at toDelete
      exact spares other (List.mem_cons_of_mem key toDelete)
  | notDeleted now report key others error =>
      intro other toDelete
      rw [toDelete_delete] at toDelete
      exact spares other (List.mem_cons_of_mem key toDelete)
  | dropped now report key others =>
      intro other toDelete
      rw [toDelete_delete] at toDelete
      exact spares other toDelete
  | stagedPurged now report count =>
      cases withHandshakes <;> exact fun _ none => nomatch none
  | primaryFound now report primary =>
      unfold primaryFound
      cases primary.bind fun resource => gateway.primaryRenewalRequest? resource now <;>
        exact fun _ none => nomatch none
  | _ => exact fun _ none => nomatch none

end SweepStage

namespace Traffic

/-- Records are filed under store keys, and all cycles of maintenance spare the
primary one. -/
structure Sparing
    (gateway : Gateway)
    (traffic : Traffic TaskStage) :
    Prop where
  filed : traffic.scene.records.Filed
  spares :
    ∀ {number : Nat} {task : GatewayTask TaskStage} {stage : TaskStage},
      traffic.tasks[number]? = some task →
      task.rest = some stage →
      stage.SweepsAt gateway task.errand (SweepStage.Spares gateway)

namespace Sparing

variable {gateway : Gateway} {traffic later : Traffic TaskStage} {event : TrafficEvent}

theorem step
    (sparing : Sparing gateway traffic)
    (step : Step gateway.stagedBehaviour traffic event later) :
    Sparing gateway later := by
  refine ⟨step.filed sparing.filed, fun {number task stage} present left => ?_⟩
  cases step.change present with
  | begins event errand =>
      cases left
      exact TaskStage.sweepsAt_opening fun _ none => nomatch none
  | moves there leftBefore moves admitted =>
      cases left
      refine (sparing.spares there leftBefore).moves moves ?_
      intro interval withHandshakes before after _ spares inside
      exact SweepStage.spares_moves sparing.filed admitted spares inside
  | panics there => cases left
  | stays there => exact sparing.spares there left

theorem of_run
    {scene : Scene}
    {events : List TrafficEvent}
    (filed : scene.records.Filed)
    (run : Run gateway.stagedBehaviour (quiet scene) events traffic) :
    Sparing gateway traffic := by
  induction run with
  | nil => exact ⟨filed, fun present => nomatch present⟩
  | snoc _ step inductionHypothesis => exact inductionHypothesis.step step

/-- No step deletes the primary record. -/
theorem neverDeleted
    (sparing : Sparing gateway traffic)
    (step : Step gateway.stagedBehaviour traffic event later) :
    NeverDeletedIn [event] gateway.primaryDomain.key := by
  intro eraser name deletes
  cases List.mem_singleton.mp deletes
  obtain ⟨task, stage, next, there, left, moves, -⟩ := step.called
  obtain ⟨interval, withHandshakes, before, after, only, -, spares, inside, -⟩ :=
    (sparing.spares there left).deletes moves
  cases inside with
  | deleted now report key others => exact spares name List.mem_cons_self

end Sparing

end Traffic

/-! ## Handshakes that miss the primary record -/

namespace HandshakeStage

variable {gateway : Gateway} {serverName : Option String}

/-- A handshake finds no primary certificate only where there is none. -/
theorem noPrimary_of_moves
    {scene : Scene}
    {stage later : HandshakeStage}
    {call : GatewayCall}
    {answer : call.Answer}
    (fits : stage.Fits gateway serverName)
    (admitted : scene.Admits call answer)
    (moves : Moves gateway stage call answer later)
    (fails : later = .finished (.error .noPrimaryCertificate)) :
    scene.records.find? gateway.primaryDomain.key = none := by
  cases moves with
  | validated name answer =>
      unfold validated at fails
      cases answer with
      | none => cases fails
      | some keyAuthorization =>
          simp only at fails
          cases made : ValidationCertificate.make? name keyAuthorization <;>
            rw [made] at fails <;> cases fails
  | found target name resource =>
      obtain ⟨reason, -, isResult⟩ := of_found_eq_finished fails
      cases isResult
  | dated target name resource second =>
      obtain ⟨reason, -, isResult⟩ := of_dated_eq_finished fails
      cases isResult
  | launched target name resource request number =>
      obtain ⟨reason, -, isResult⟩ := of_serve_eq_finished fails
      cases isResult
  | issuance inside =>
      obtain ⟨issued, reason, -, -, isResult⟩ := of_proceed_eq_finished fails
      cases isResult
  | fallbackStored target name reason mock answer =>
      obtain ⟨fault, -, isResult⟩ := of_serve_eq_finished fails
      cases isResult
  | missing target name =>
      rcases of_missing_eq_finished fails with ⟨isPrimary, -⟩ | ⟨-, isResult⟩
      · obtain ⟨-, rfl⟩ := fits
        have primaryTarget : gateway.classify name = gateway.primaryTarget := by
          rcases gateway.classify_cases name with same | ⟨custom, claim, claimed, authorized⟩
          · exact same
          · rw [Gateway.classify_of_claimed custom claimed authorized] at isPrimary
            cases isPrimary
        rw [primaryTarget] at admitted
        exact Scene.find?_of_admits admitted
      · cases isResult
  | _ => cases fails

end HandshakeStage

namespace TaskStage

variable {gateway : Gateway} {errand : Errand}

/-- A task ends without the primary certificate for its handshake, or like a
handshake without being one. -/
def LacksPrimary : TaskStage → Prop
  | handshake stage => stage = .finished (.error .noPrimaryCertificate)
  | finished result => ∃ resolved, result = .resolved resolved
  | _ => False

theorem lacksPrimary_of_done
    {stage : TaskStage}
    (ended : stage.program gateway = .done (.resolved (.error .noPrimaryCertificate))) :
    stage.LacksPrimary := by
  rcases over_cases ended with ⟨resolved, rfl, isResult⟩ | ⟨swept, only, -, isResult⟩ | rfl
  · cases isResult
    rfl
  · cases isResult
  · exact ⟨_, rfl⟩

theorem not_lacksPrimary_requesting (request : ObtainRequest) :
    ¬ (requesting gateway request).LacksPrimary := by
  unfold requesting
  cases gateway.job? request with
  | none => rintro ⟨resolved, isResolved⟩; cases isResolved
  | some job => exact id

theorem not_lacksPrimary_opening : ¬ (opening gateway errand).LacksPrimary := by
  cases errand with
  | resolving serverName protocols =>
      simp only [opening, LacksPrimary, HandshakeStage.opening]
      split
      · intro lacks; cases lacks
      · split <;> (intro lacks; cases lacks)
  | obtaining request => exact not_lacksPrimary_requesting request
  | _ => exact id

/-- No task comes to lack the primary certificate where it is stored. -/
theorem not_lacksPrimary_moves
    {scene : Scene}
    {stage later : TaskStage}
    {call : GatewayCall}
    {answer : call.Answer}
    (fits : stage.Fits gateway errand)
    (admitted : scene.Admits call answer)
    (stored : scene.records.find? gateway.primaryDomain.key ≠ none)
    (moves : Moves gateway stage call answer later) :
    ¬ later.LacksPrimary := by
  cases moves with
  | handshake inside =>
      obtain ⟨serverName, protocols, -, stageFits⟩ := fits
      exact fun fails => stored (HandshakeStage.noPrimary_of_moves stageFits admitted inside fails)
  | @issuance job stage call answer progress inside =>
      cases progress with
      | on later => exact id
      | ended result => rintro ⟨resolved, isResolved⟩; cases isResolved
  | primarySought answer =>
      match answer with
      | .error error => rintro ⟨resolved, isResolved⟩; cases isResolved
      | .ok (some resource) => rintro ⟨resolved, isResolved⟩; cases isResolved
      | .ok none => exact not_lacksPrimary_requesting gateway.primaryRequest
  | upkeep only answer => exact id

end TaskStage

/-! ## The first primary certificate -/

namespace Gateway

variable {gateway : Gateway} {suffix : String}

/-- The primary certificate is requested under the key of the primary domain,
through any client. -/
theorem key_ofRequest?_primary
    (isPrimary : gateway.primaryDomain = .ofSuffix suffix)
    (client : Option AuthorityClient) :
    (Issuance.ofRequest? client gateway.primaryRequest).map Issuance.key =
      some gateway.primaryDomain.key := by
  have key : HostName.storeKey (HostName.fold ("*" ++ gateway.primaryDomain.key)) =
      gateway.primaryDomain.key := by
    rw [HostName.storeKey_fold, isPrimary]
    exact PrimaryDomain.storeKey_wildcard_ofSuffix suffix
  exact congrArg some key

theorem key_of_primaryRequest
    {job : IssuanceJob}
    (isPrimary : gateway.primaryDomain = .ofSuffix suffix)
    (isJob : gateway.job? gateway.primaryRequest = some job) :
    job.key = gateway.primaryDomain.key := by
  have named := gateway.key_ofRequest?_primary isPrimary (gateway.client? .primary)
  obtain ⟨issuance, isIssuance, rfl⟩ := Option.map_eq_some_iff.mp isJob
  rw [show Issuance.ofRequest? (gateway.client? .primary) gateway.primaryRequest = some issuance
    from isIssuance] at named
  exact Option.some.inj named

end Gateway

namespace TaskStage

variable {gateway : Gateway} {scene : Scene}

/-- A stage on the way to the primary certificate: what is given back is what is
stored. -/
def Ensures
    (gateway : Gateway)
    (records : Records) :
    TaskStage → Prop
  | seekingPrimary => True
  | issuance job stage =>
      gateway.job? gateway.primaryRequest = some job ∧
        ∀ resource, stage = .releasing (.ok resource) → records.find? job.key = some resource
  | finished (.obtained result) =>
      ∀ resource,
        result = .ok resource → records.find? gateway.primaryDomain.key = some resource
  | _ => False

theorem Ensures.not_lacksPrimary
    {records : Records}
    {stage : TaskStage}
    (ensures : stage.Ensures gateway records) :
    ¬ stage.LacksPrimary := by
  cases stage with
  | handshake stage => exact ensures.elim
  | finished result =>
      rintro ⟨resolved, rfl⟩
      exact ensures
  | _ => exact id

theorem ensures_requesting (records : Records) :
    (requesting gateway gateway.primaryRequest).Ensures gateway records := by
  unfold requesting
  cases found : gateway.job? gateway.primaryRequest with
  | none => exact nofun
  | some job => exact ⟨found, nofun⟩

end TaskStage

namespace TaskStage

variable {gateway : Gateway} {scene : Scene} {suffix : String} {number : Nat}

/-- A call on the way to the primary certificate leads further on that way, and
launches nothing. -/
theorem ensures_moves
    {stage later : TaskStage}
    {call : GatewayCall}
    {answer : call.Answer}
    (isPrimary : gateway.primaryDomain = .ofSuffix suffix)
    (ensures : stage.Ensures gateway scene.records)
    (works : Traffic.WritesWork [.calls number call answer])
    (admitted : scene.Admits call answer)
    (moves : Moves gateway stage call answer later) :
    later.Ensures gateway (scene.after call answer).records ∧ launched call = [] := by
  cases moves with
  | handshake inside => exact ensures.elim
  | upkeep only answer => exact ensures.elim
  | primarySought answer =>
      refine ⟨?_, rfl⟩
      match answer with
      | .error error => exact nofun
      | .ok none => exact ensures_requesting scene.records
      | .ok (some resource) =>
          intro other same
          cases same
          exact Scene.find?_of_admits admitted
  | @issuance job stage call answer progress inside =>
      obtain ⟨isJob, released⟩ := ensures
      refine ⟨?_, by cases inside <;> rfl⟩
      cases progress with
      | on later =>
          exact ⟨isJob, fun resource => IssuanceStage.stored_of_releasing works inside⟩
      | ended result =>
          have isKey := Gateway.key_of_primaryRequest isPrimary isJob
          rintro resource isResult
          cases inside with
          | unreadable error => cases isResult
          | missing => cases isResult
          | taken found =>
              cases isResult
              rw [← isKey]
              exact Scene.find?_of_admits admitted
          | released result =>
              cases isResult
              rw [← isKey]
              exact released resource rfl

end TaskStage

namespace Traffic

variable {gateway : Gateway} {suffix : String} {events : List TrafficEvent}

/-- Only the primary certificate is seen to. -/
def OnlyEnsures
    (gateway : Gateway)
    (traffic : Traffic TaskStage) :
    Prop :=
  ∃ task,
    traffic.tasks = [task] ∧
      ∀ stage, task.rest = some stage → stage.Ensures gateway traffic.scene.records

theorem OnlyEnsures.step
    {traffic later : Traffic TaskStage}
    {event : TrafficEvent}
    (isPrimary : gateway.primaryDomain = .ofSuffix suffix)
    (alone : ∀ errand, event ≠ .arrives errand)
    (works : WritesWork [event])
    (only : OnlyEnsures gateway traffic)
    (step : Step gateway.stagedBehaviour traffic event later) :
    OnlyEnsures gateway later := by
  obtain ⟨task, isOnly, ensures⟩ := only
  have isTask : ∀ {number acting}, traffic.tasks[number]? = some acting →
      number = 0 ∧ acting = task := by
    intro number acting there
    rw [isOnly] at there
    cases number with
    | zero => exact ⟨rfl, (Option.some.inj there).symm⟩
    | succ number => cases there
  cases step with
  | arrives errand => exact (alone errand rfl).elim
  | @calls number acting stage next call answer there left moves admitted =>
      obtain ⟨rfl, rfl⟩ := isTask there
      obtain ⟨ensuresNext, launchesNothing⟩ :=
        TaskStage.ensures_moves isPrimary (ensures stage left) works admitted moves
      refine ⟨{ acting with rest := some next, guard := guardAfter acting.guard call answer },
        ?_, ?_⟩
      · rw [launchesNothing, isOnly]
        rfl
      · intro stage left
        cases left
        exact ensuresNext
  | @panics number acting stage next call answer there left moves =>
      obtain ⟨rfl, rfl⟩ := isTask there
      refine ⟨{ acting with rest := none, guard := none }, ?_, fun stage left => ?_⟩
      · rw [isOnly]
        rfl
      · cases left
  | passes milliseconds => exact ⟨task, isOnly, ensures⟩

theorem OnlyEnsures.of_run
    {start traffic : Traffic TaskStage}
    (isPrimary : gateway.primaryDomain = .ofSuffix suffix)
    (alone : ∀ errand, .arrives errand ∉ events)
    (works : WritesWork events)
    (only : OnlyEnsures gateway start)
    (run : Run gateway.stagedBehaviour start events traffic) :
    OnlyEnsures gateway traffic := by
  induction run with
  | nil => exact only
  | snoc run step inductionHypothesis =>
      have onlyBefore := inductionHypothesis
        (fun errand arrived => alone errand (List.mem_append_left _ arrived)) works.of_append.1
      refine onlyBefore.step isPrimary (fun errand isArrival => ?_) works.of_append.2 step
      exact alone errand (List.mem_append_right _ (isArrival ▸ List.mem_singleton_self _))

theorem OnlyEnsures.of_arrival
    {scene : Scene}
    {traffic : Traffic TaskStage}
    (isPrimary : gateway.primaryDomain = .ofSuffix suffix)
    (alone : ∀ errand, .arrives errand ∉ events)
    (works : WritesWork events)
    (run :
      Run gateway.stagedBehaviour (quiet scene) (.arrives .ensuringPrimary :: events) traffic) :
    OnlyEnsures gateway traffic := by
  rw [← List.nil_append (_ :: events)] at run
  obtain ⟨before, after, first, arrival, rest⟩ := run.split_at
  have begins : OnlyEnsures gateway after := by
    cases first.eq_of_nil
    cases arrival
    refine ⟨_, rfl, fun stage left => ?_⟩
    cases left
    trivial
  exact begins.of_run isPrimary alone works rest

/-- What is given back as the primary certificate is what is stored. -/
theorem OnlyEnsures.stored
    {traffic : Traffic TaskStage}
    {task : GatewayTask TaskStage}
    {resource : CertificateResource}
    (only : OnlyEnsures gateway traffic)
    (present : traffic.tasks[0]? = some task)
    (ended : task.rest = some (.finished (.obtained (.ok resource)))) :
    traffic.scene.records.find? gateway.primaryDomain.key = some resource := by
  obtain ⟨onlyTask, isOnly, ensures⟩ := only
  rw [isOnly] at present
  cases present
  exact ensures _ ended resource rfl

/-! ## Later runs -/

/-- The primary record is there, and no task has missed it. -/
structure KeepsPrimary
    (gateway : Gateway)
    (traffic : Traffic TaskStage) :
    Prop where
  stored : traffic.scene.records.find? gateway.primaryDomain.key ≠ none
  found :
    ∀ {number : Nat} {task : GatewayTask TaskStage} {stage : TaskStage},
      traffic.tasks[number]? = some task → task.rest = some stage → ¬ stage.LacksPrimary

theorem KeepsPrimary.of_onlyEnsures
    {traffic : Traffic TaskStage}
    (only : OnlyEnsures gateway traffic)
    (stored : traffic.scene.records.find? gateway.primaryDomain.key ≠ none) :
    KeepsPrimary gateway traffic := by
  refine ⟨stored, fun {number task stage} present left => ?_⟩
  obtain ⟨onlyTask, isOnly, ensures⟩ := only
  rw [isOnly] at present
  obtain rfl : task = onlyTask := List.mem_singleton.mp (List.mem_of_getElem? present)
  exact (ensures stage left).not_lacksPrimary

theorem KeepsPrimary.step
    {scene : Scene}
    {traffic later : Traffic TaskStage}
    {event : TrafficEvent}
    (normal : HostName.storeKey gateway.primaryDomain.key = gateway.primaryDomain.key)
    (filed : scene.records.Filed)
    (run : Run gateway.stagedBehaviour (quiet scene) events traffic)
    (keeps : KeepsPrimary gateway traffic)
    (step : Step gateway.stagedBehaviour traffic event later) :
    KeepsPrimary gateway later := by
  have stored := keeps.stored
  simp only [Records.find?, normal] at stored
  obtain ⟨record, isStored⟩ := Option.ne_none_iff_exists'.mp stored
  refine ⟨?stored, fun {number task stage} present left => ?found⟩
  case stored =>
    obtain ⟨next, isNext, -⟩ := step.stored isStored ((Sparing.of_run filed run).neverDeleted step)
    simp [Records.find?, normal, isNext]
  case found =>
    cases step.change present with
    | begins event errand =>
        cases left
        exact TaskStage.not_lacksPrimary_opening
    | moves there leftBefore moves admitted =>
        cases left
        have fits := GuardsFit.fits_of_run run there leftBefore
        exact TaskStage.not_lacksPrimary_moves fits admitted keeps.stored moves
    | panics there => cases left
    | stays there => exact keeps.found there left

theorem KeepsPrimary.of_run
    {scene : Scene}
    {more : List TrafficEvent}
    {traffic later : Traffic TaskStage}
    (normal : HostName.storeKey gateway.primaryDomain.key = gateway.primaryDomain.key)
    (filed : scene.records.Filed)
    (run : Run gateway.stagedBehaviour (quiet scene) events traffic)
    (keeps : KeepsPrimary gateway traffic)
    (laterRun : Run gateway.stagedBehaviour traffic more later) :
    KeepsPrimary gateway later := by
  induction laterRun with
  | nil => exact keeps
  | snoc before step inductionHypothesis =>
      exact inductionHypothesis.step normal filed (run.append before) step

/-- The primary record is never lost, whatever suffix the primary domain is made
from.  Its key is a store key, and the one under which the primary certificate is
requested.  So once the search for the primary certificate, alone on a gateway,
has given back a resource and its writes have worked, that resource is found
under the key; and from then on, whatever errands come, whatever the authorities
answer, whatever writes and reads fail and whichever tasks panic, something is
found there, and no handshake ends because the primary certificate is missing. -/
theorem primary_record_lasts
    (isPrimary : gateway.primaryDomain = .ofSuffix suffix) :
    HostName.storeKey gateway.primaryDomain.key = gateway.primaryDomain.key ∧
    (∀ client,
      (Issuance.ofRequest? client gateway.primaryRequest).map Issuance.key =
        some gateway.primaryDomain.key) ∧
    ∀ {scene : Scene} {events : List TrafficEvent}
      {ensured : Traffic (GatewayProgram TaskResult)}
      {task : GatewayTask (GatewayProgram TaskResult)} {resource : CertificateResource},
      scene.records.Filed →
      Run gateway.behaviour (quiet scene) (.arrives .ensuringPrimary :: events) ensured →
      (∀ errand, .arrives errand ∉ events) →
      WritesWork events →
      ensured.tasks[0]? = some task →
      task.rest = some (.done (.obtained (.ok resource))) →
      ensured.scene.records.find? gateway.primaryDomain.key = some resource ∧
      ∀ {more : List TrafficEvent} {later : Traffic (GatewayProgram TaskResult)},
        Run gateway.behaviour ensured more later →
        later.scene.records.find? gateway.primaryDomain.key ≠ none ∧
        ∀ (number : Nat) (handshake : GatewayTask (GatewayProgram TaskResult)),
          later.tasks[number]? = some handshake →
          handshake.rest ≠ some (.done (.resolved (.error .noPrimaryCertificate))) := by
  have normal : HostName.storeKey gateway.primaryDomain.key = gateway.primaryDomain.key := by
    rw [isPrimary]
    exact PrimaryDomain.storeKey_key_ofSuffix suffix
  refine ⟨normal, gateway.key_ofRequest?_primary isPrimary, ?lasts⟩
  case lasts =>
    intro scene events ensured task resource filed run alone works present ended
    obtain ⟨staged, stagedRun, rfl⟩ := run_staged run
    obtain ⟨original, there, rfl⟩ := getElem?_map present
    obtain ⟨stage, left, isEnd⟩ := Option.map_eq_some_iff.mp ended
    have only := OnlyEnsures.of_arrival isPrimary alone works stagedRun
    have stored : staged.scene.records.find? gateway.primaryDomain.key = some resource := by
      rcases TaskStage.over_cases isEnd with
        ⟨resolved, -, isResult⟩ | ⟨swept, only, -, isResult⟩ | rfl
      · cases isResult
      · cases isResult
      · exact only.stored there left
    refine ⟨stored, fun {more later} laterRun => ?_⟩
    obtain ⟨laterStaged, laterStagedRun, rfl⟩ := run_staged_from staged laterRun
    have keeps := KeepsPrimary.of_onlyEnsures only (by rw [stored]; exact nofun)
    have keepsLater := keeps.of_run normal filed stagedRun laterStagedRun
    refine ⟨keepsLater.stored, fun number handshake handshakePresent missed => ?_⟩
    obtain ⟨handshakeOriginal, handshakeThere, rfl⟩ := getElem?_map handshakePresent
    obtain ⟨handshakeStage, handshakeLeft, missedAt⟩ := Option.map_eq_some_iff.mp missed
    exact keepsLater.found handshakeThere handshakeLeft (TaskStage.lacksPrimary_of_done missedAt)

/-- A gateway whose primary domain was written with a wildcard and blanks. -/
def pagesGateway : Gateway :=
  { SmallGateway.gateway with
    primaryDomain := .ofSuffix " *.Pages.example.org"
    primary := some { supportsWildcards := true } }

/-- A primary certificate that expires within the hour. -/
def expiringCertificate : CertificateResource :=
  SmallGateway.servable "AQID" 1700001800

/-- The primary certificate is ordered and stored. -/
def ensuringEvents : List TrafficEvent :=
  [ .calls 0 (.findRecord ".pages.example.org") (.ok none)
  , .calls 0 (.claim ".pages.example.org") (.owner 0)
  , .calls 0 (.spend .order) ()
  , .calls 0 (.spend .request) ()
  , .calls 0 (.order .primary ["*.pages.example.org", "pages.example.org"])
      (.ok expiringCertificate)
  , .calls 0 (.putRecord ".pages.example.org" expiringCertificate) (.ok ())
  , .calls 0 (.release ".pages.example.org") () ]

/-- A cycle of maintenance passes the primary certificate by, although it expires
before the next cycle. -/
def passingEvents : List TrafficEvent :=
  [ .arrives (.sweeping 3600 true)
  , .calls 1 .clock 1700000000
  , .calls 1 .listRecords (.ok [(".pages.example.org", expiringCertificate)])
  , .calls 1 .compactStore (.ok "")
  , .calls 1 .purgeStaged 0
  , .calls 1 .purgeReady 0
  , .calls 1 (.findRecord ".pages.example.org") (.ok (some expiringCertificate)) ]

/-- The primary certificate stays, and the theorem applies. -/
theorem expiring_primary_record_is_kept :
    ∃ ensured later,
      Run pagesGateway.behaviour (quiet (SmallGateway.scene Catalog.empty))
          (.arrives .ensuringPrimary :: ensuringEvents) ensured ∧
        Run pagesGateway.behaviour ensured passingEvents later ∧
        later.scene.records.find? pagesGateway.primaryDomain.key ≠ none := by
  have replayed :
      ((replay pagesGateway (quiet (SmallGateway.scene Catalog.empty))
          (.arrives .ensuringPrimary :: ensuringEvents)).bind fun ensured =>
        (replay pagesGateway ensured passingEvents).bind fun _ =>
          ensured.tasks[0]?.bind GatewayTask.obtained?) =
        some expiringCertificate := by
    decide +kernel
  obtain ⟨ensured, accepted, rest⟩ := Option.bind_eq_some_iff.mp replayed
  obtain ⟨later, acceptedLater, obtained⟩ := Option.bind_eq_some_iff.mp rest
  obtain ⟨task, present, isResource⟩ := Option.bind_eq_some_iff.mp obtained
  have run := run_of_replay .nil accepted
  have laterRun := run_of_replay .nil acceptedLater
  have alone : ∀ errand, .arrives errand ∉ ensuringEvents := by
    intro errand arrived
    simp [ensuringEvents] at arrived
  have works : WritesWork ensuringEvents := by
    intro writer name record answer member
    simp only [ensuringEvents, List.mem_cons, TrafficEvent.calls.injEq, reduceCtorEq, false_and,
      and_false, GatewayCall.putRecord.injEq, List.not_mem_nil, or_false, false_or] at member
    obtain ⟨-, ⟨rfl, rfl⟩, same⟩ := member
    exact eq_of_heq same
  have isPrimary : pagesGateway.primaryDomain = .ofSuffix " *.Pages.example.org" := rfl
  obtain ⟨-, -, lasts⟩ := primary_record_lasts isPrimary
  obtain ⟨-, stays⟩ :=
    lasts Records.filed_empty run alone works present (GatewayTask.rest_of_obtained? isResource)
  exact ⟨ensured, later, run, laterRun, (stays laterRun).1⟩

end Traffic

end OnDemandTls
