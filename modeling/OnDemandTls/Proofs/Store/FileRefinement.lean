import OnDemandTls.Store.Opened

namespace OnDemandTls

/-!
# A store in a file as a store in memory

Whatever is asked of a store in a file, and whichever of its writes fail, it
answers like a store in memory that was given the acknowledged changes only
(`FileHandle.refines_memory`).  The file is as it was found until the first
write that works, and then it is always the snapshot of the records.
-/

/-- What a store can be asked for. -/
inductive StoreRequest where
  | put (name : String) (resource : CertificateResource)
  | get (name : String)
  | delete (name : String)
  | items (page pageSize : Nat)
  | compact
  | close
  deriving DecidableEq

namespace StoreRequest

/-- What a request gives when it does not fail; a request for records whose place
cannot be counted panics, and gives nothing. -/
abbrev Value : StoreRequest → Type
  | put _ _ => Unit
  | get _ => Option CertificateResource
  | delete _ => Unit
  | items _ _ => Option (List (String × CertificateResource))
  | compact => String
  | close => Unit

abbrev Answer (request : StoreRequest) : Type :=
  Except StoreError request.Value

end StoreRequest

structure StoreExchange where
  request : StoreRequest
  answer : request.Answer

/-- A request, with the failure that a write for it has, if it has one. -/
structure StoreAttempt where
  request : StoreRequest
  failure : Option StoreError

/-- The file of a store, and how often it was written. -/
structure StoreDisk where
  file : Option String
  writes : Nat

namespace StoreDisk

/-- Write a text; if that fails, nothing is changed. -/
def save
    (disk : StoreDisk)
    (failure : Option StoreError)
    (text : String) :
    Except StoreError Unit × StoreDisk :=
  match failure with
  | some error => (.error error, disk)
  | none => (.ok (), { file := some text, writes := disk.writes + 1 })

end StoreDisk

/-- A store with its file. -/
structure FileHandle where
  store : FileStore
  disk : StoreDisk

namespace FileHandle

/-- Open a store on the file that is found. -/
def opened (found : Option String) : Except StoreError FileHandle :=
  match found with
  | none => .ok { store := .empty, disk := { file := none, writes := 0 } }
  | some text =>
      (FileStore.ofText text).map fun store =>
        { store := store, disk := { file := some text, writes := 0 } }

/-- An answer beside what a write has left. -/
def answered
    {α : Type}
    (left : Except StoreError α × FileStore × StoreDisk) :
    Except StoreError α × FileHandle :=
  (left.1, { store := left.2.1, disk := left.2.2 })

def perform
    (handle : FileHandle)
    (failure : Option StoreError) :
    (request : StoreRequest) → request.Answer × FileHandle
  | .put name resource =>
      answered (handle.store.put name resource handle.disk (handle.disk.save failure))
  | .get name => (handle.store.get? name, handle)
  | .delete name => answered (handle.store.delete name handle.disk (handle.disk.save failure))
  | .items page pageSize => (handle.store.items page pageSize, handle)
  | .compact => answered (handle.store.compact handle.disk (handle.disk.save failure))
  | .close => answered (handle.store.close handle.disk (handle.disk.save failure))

def run : FileHandle → List StoreAttempt → List StoreExchange × FileHandle
  | handle, [] => ([], handle)
  | handle, attempt :: rest =>
      let (answer, next) := handle.perform attempt.failure attempt.request
      let (exchanges, last) := run next rest
      (⟨attempt.request, answer⟩ :: exchanges, last)

end FileHandle

namespace MemoryStore

/-- Make a change if it was acknowledged. -/
def acknowledge
    (store : MemoryStore) :
    StoreExchange → MemoryStore
  | ⟨.put name resource, .ok ()⟩ => store.put name resource
  | ⟨.delete name, .ok ()⟩ => store.delete name
  | _ => store

def acknowledgeAll
    (store : MemoryStore)
    (exchanges : List StoreExchange) :
    MemoryStore :=
  exchanges.foldl acknowledge store

end MemoryStore

namespace StoreRequest

/-- What a closed store answers: it can be closed again, and that is all. -/
def closedAnswer : (request : StoreRequest) → request.Answer
  | put _ _ | get _ | delete _ | items _ _ | compact => .error .closed
  | close => .ok ()

end StoreRequest

namespace FileHandle

/-- A closed store refuses whatever is asked for, and nothing changes. -/
theorem perform_of_closed
    {handle : FileHandle}
    (closed : handle.store.isClosed = true)
    (failure : Option StoreError)
    (request : StoreRequest) :
    handle.perform failure request = (request.closedAnswer, handle) := by
  cases request <;>
    simp only [perform, answered, FileStore.put, FileStore.get?, FileStore.delete,
      FileStore.items, FileStore.compact, FileStore.close, closed, if_true,
      StoreRequest.closedAnswer]

/-- A store after records were written and made its own. -/
def wrote
    (handle : FileHandle)
    (records : Records) :
    FileHandle where
  store := { handle.store with records := records }
  disk := { file := some (Snapshot.write records), writes := handle.disk.writes + 1 }

/-- A store that refuses requests from now on. -/
def closed (handle : FileHandle) : FileHandle :=
  { handle with store := { handle.store with isClosed := true } }

/-- What comes of an attempt to write records that are to be those of a store. -/
def attempted
    {α : Type}
    (handle : FileHandle)
    (failure : Option StoreError)
    (records : Records)
    (value : α) :
    Except StoreError α × FileHandle :=
  match failure with
  | some error => (.error error, handle)
  | none => (.ok value, handle.wrote records)

section Open

variable {handle : FileHandle} (isOpen : handle.store.isClosed = false)
variable (failure : Option StoreError)

include isOpen

theorem perform_put
    (name : String)
    (resource : CertificateResource) :
    handle.perform failure (.put name resource) =
      handle.attempted failure (handle.store.records.put name resource) () := by
  unfold perform FileStore.put
  rw [isOpen]
  cases failure <;> rfl

theorem perform_delete (name : String) :
    handle.perform failure (.delete name) =
      if (handle.store.records.find? name).isNone then
        (.ok (), handle)
      else
        handle.attempted failure (handle.store.records.delete name) () := by
  unfold perform FileStore.delete
  simp only [isOpen, Bool.false_eq_true, if_false]
  split
  · rfl
  · cases failure <;> rfl

theorem perform_compact :
    handle.perform failure .compact =
      handle.attempted failure handle.store.records
        (handle.store.compactionSummary (Snapshot.write handle.store.records).utf8ByteSize) := by
  unfold perform FileStore.compact
  rw [isOpen]
  cases failure <;> rfl

theorem perform_close :
    handle.perform failure .close =
      handle.closed.attempted failure handle.store.records () := by
  unfold perform FileStore.close
  rw [isOpen]
  cases failure <;> rfl

/-- A store that is not closed is only closed by a request to close it. -/
theorem isClosed_perform (request : StoreRequest) :
    (handle.perform failure request).2.store.isClosed = decide (request = .close) := by
  cases request with
  | put name resource =>
      rw [perform_put isOpen]
      cases failure <;> exact isOpen
  | get name => exact isOpen
  | delete name =>
      rw [perform_delete isOpen]
      split
      · exact isOpen
      · cases failure <;> exact isOpen
  | items page pageSize => exact isOpen
  | compact =>
      rw [perform_compact isOpen]
      cases failure <;> exact isOpen
  | close =>
      rw [perform_close isOpen]
      cases failure <;> rfl

end Open

theorem attempted_of_error
    {α : Type}
    {handle : FileHandle}
    {failure : Option StoreError}
    {records : Records}
    {value : α}
    {error : StoreError}
    (failed : (handle.attempted failure records value).1 = .error error) :
    (handle.attempted failure records value).2 = handle := by
  cases failure with
  | none => cases failed
  | some reason => rfl

/-- A request that fails leaves the records and the file as they are. -/
theorem perform_of_error
    {handle : FileHandle}
    {failure : Option StoreError}
    {request : StoreRequest}
    {error : StoreError}
    (failed : (handle.perform failure request).1 = .error error) :
    (handle.perform failure request).2.store.records = handle.store.records ∧
      (handle.perform failure request).2.disk = handle.disk := by
  cases isOpen : handle.store.isClosed with
  | true =>
      rw [perform_of_closed isOpen]
      exact ⟨rfl, rfl⟩
  | false =>
      cases request with
      | put name resource =>
          rw [perform_put isOpen] at failed ⊢
          rw [attempted_of_error failed]
          exact ⟨rfl, rfl⟩
      | get name => exact ⟨rfl, rfl⟩
      | delete name =>
          rw [perform_delete isOpen] at failed ⊢
          split at failed
          · cases failed
          · rw [if_neg ‹_›, attempted_of_error failed]
            exact ⟨rfl, rfl⟩
      | items page pageSize => exact ⟨rfl, rfl⟩
      | compact =>
          rw [perform_compact isOpen] at failed ⊢
          rw [attempted_of_error failed]
          exact ⟨rfl, rfl⟩
      | close =>
          rw [perform_close isOpen] at failed ⊢
          rw [attempted_of_error failed]
          exact ⟨rfl, rfl⟩

end FileHandle

/-- A store in a file agrees with one in memory, and its file with its records. -/
structure Mirrors (found : Option String) (memory : MemoryStore) (handle : FileHandle) :
    Prop where
  records : handle.store.records = memory.records
  untouched : handle.disk.writes = 0 → handle.disk.file = found
  snapshot :
    0 < handle.disk.writes → handle.disk.file = some (Snapshot.write handle.store.records)

namespace Mirrors

variable {found : Option String} {memory : MemoryStore} {handle : FileHandle}

theorem of_opened (opened : FileHandle.opened found = .ok handle) :
    Mirrors found ⟨handle.store.records⟩ handle := by
  cases found with
  | none =>
      cases opened
      exact ⟨rfl, fun _ => rfl, fun written => (Nat.lt_irrefl 0 written).elim⟩
  | some text =>
      unfold FileHandle.opened at opened
      simp only at opened
      cases read : FileStore.ofText text with
      | error error =>
          rw [read] at opened
          cases opened
      | ok store =>
          rw [read] at opened
          cases opened
          exact ⟨rfl, fun _ => rfl, fun written => (Nat.lt_irrefl 0 written).elim⟩

/-- A store that has just written the records of a store in memory agrees with it. -/
theorem wrote
    (found : Option String)
    (memory : MemoryStore)
    (handle : FileHandle) :
    Mirrors found memory (handle.wrote memory.records) where
  records := rfl
  untouched unwritten := nomatch unwritten
  snapshot _ := rfl

theorem closed (mirrors : Mirrors found memory handle) :
    Mirrors found memory handle.closed :=
  ⟨mirrors.records, mirrors.untouched, mirrors.snapshot⟩

/-- The agreement is kept by every request, if the store in memory is given the
changes that were acknowledged. -/
theorem perform
    (mirrors : Mirrors found memory handle)
    (failure : Option StoreError)
    (request : StoreRequest) :
    Mirrors found
      (memory.acknowledge ⟨request, (handle.perform failure request).1⟩)
      (handle.perform failure request).2 := by
  cases isOpen : handle.store.isClosed with
  | true =>
      rw [FileHandle.perform_of_closed isOpen]
      cases request <;> exact mirrors
  | false =>
      cases request with
      | put name resource =>
          rw [FileHandle.perform_put isOpen, mirrors.records]
          cases failure with
          | none => exact wrote found (memory.put name resource) handle
          | some error => exact mirrors
      | get name => exact mirrors
      | delete name =>
          rw [FileHandle.perform_delete isOpen, mirrors.records]
          split
          · rename_i missing
            have unchanged : memory.delete name = memory :=
              congrArg MemoryStore.mk
                (Records.delete_of_find?_eq_none (Option.isNone_iff_eq_none.mp missing))
            change Mirrors found (memory.delete name) handle
            rw [unchanged]
            exact mirrors
          · cases failure with
            | none => exact wrote found (memory.delete name) handle
            | some error => exact mirrors
      | items page pageSize => exact mirrors
      | compact =>
          rw [FileHandle.perform_compact isOpen, mirrors.records]
          cases failure with
          | none => exact wrote found memory handle
          | some error => exact mirrors
      | close =>
          rw [FileHandle.perform_close isOpen, mirrors.records]
          cases failure with
          | none => exact wrote found memory handle.closed
          | some error => exact mirrors.closed

theorem run
    (mirrors : Mirrors found memory handle)
    (attempts : List StoreAttempt) :
    Mirrors found (memory.acknowledgeAll (handle.run attempts).1) (handle.run attempts).2 := by
  induction attempts generalizing memory handle with
  | nil => exact mirrors
  | cons attempt rest inductionHypothesis =>
      exact inductionHypothesis (mirrors.perform attempt.failure attempt.request)

end Mirrors

namespace FileHandle

theorem isClosed_of_opened
    {found : Option String}
    {handle : FileHandle}
    (opened : FileHandle.opened found = .ok handle) :
    handle.store.isClosed = false := by
  cases found with
  | none =>
      cases opened
      rfl
  | some text =>
      unfold FileHandle.opened FileStore.ofText at opened
      simp only at opened
      cases read : Snapshot.read text with
      | error error =>
          rw [read] at opened
          cases opened
      | ok records =>
          rw [read] at opened
          cases opened
          rfl

/-- A store is closed exactly when it was asked to be. -/
theorem isClosed_run
    (handle : FileHandle)
    (attempts : List StoreAttempt) :
    (handle.run attempts).2.store.isClosed =
      (handle.store.isClosed || attempts.any fun attempt => attempt.request = .close) := by
  induction attempts generalizing handle with
  | nil => simp [run]
  | cons attempt rest inductionHypothesis =>
      change ((handle.perform attempt.failure attempt.request).2.run rest).2.store.isClosed = _
      rw [inductionHypothesis, List.any_cons, ← Bool.or_assoc]
      congr 1
      cases isOpen : handle.store.isClosed with
      | true => rw [perform_of_closed isOpen, isOpen, Bool.true_or]
      | false => rw [isClosed_perform isOpen, Bool.false_or]

/-- A store in a file refines a store in memory.  After any requests, with any
failures of writes, it is asked for one thing more: unless the store is closed,
what it finds and lists is what a store in memory finds and lists that began
with the records of the file and was given the acknowledged changes; a request
that fails changes neither the records nor the file; the file is as it was found
until it is first written, and the snapshot of the records from then on; and
once the store was to be closed, it refuses all else and nothing changes. -/
theorem refines_memory
    {found : Option String}
    {start : FileHandle}
    (opened : FileHandle.opened found = .ok start)
    (attempts : List StoreAttempt) :
    let exchanges := (start.run attempts).1
    let handle := (start.run attempts).2
    let memory := MemoryStore.acknowledgeAll ⟨start.store.records⟩ exchanges
    let wasClosed := attempts.any fun attempt => attempt.request = .close
    (∀ failure name,
      (handle.perform failure (.get name)).1 =
        if wasClosed then .error .closed else (CertificateStore.memory memory).get? name) ∧
    (∀ failure page pageSize,
      (handle.perform failure (.items page pageSize)).1 =
        if wasClosed then .error .closed
        else (CertificateStore.memory memory).items page pageSize) ∧
    (∀ failure request error,
      (handle.perform failure request).1 = .error error →
      (handle.perform failure request).2.store.records = handle.store.records ∧
        (handle.perform failure request).2.disk = handle.disk) ∧
    handle.disk.file =
      (if handle.disk.writes = 0 then found else some (Snapshot.write handle.store.records)) ∧
    (wasClosed = true →
      ∀ failure request,
        handle.perform failure request = (request.closedAnswer, handle)) := by
  intro exchanges handle memory wasClosed
  have mirrors : Mirrors found memory handle := (Mirrors.of_opened opened).run attempts
  have isClosed : handle.store.isClosed = wasClosed := by
    rw [isClosed_run, isClosed_of_opened opened, Bool.false_or]
  refine ⟨?finds, ?lists, ?fails, ?written, ?refuses⟩
  case finds =>
    intro failure name
    simp only [perform, FileStore.get?, isClosed, mirrors.records]
    rfl
  case lists =>
    intro failure page pageSize
    simp only [perform, FileStore.items, isClosed, mirrors.records]
    rfl
  case fails =>
    intro failure request error failed
    exact perform_of_error failed
  case written =>
    split
    · rename_i unwritten
      exact mirrors.untouched unwritten
    · rename_i written
      exact mirrors.snapshot (Nat.pos_of_ne_zero written)
  case refuses =>
    intro closed failure request
    exact perform_of_closed (isClosed.trans closed) failure request

/-- A write that fails between two that work. -/
def someAttempts : List StoreAttempt :=
  [ ⟨.put " A.example" .blank, none⟩
  , ⟨.put "b.example" .blank, some .closed⟩
  , ⟨.delete "c.example", some .closed⟩
  , ⟨.compact, none⟩ ]

/-- What could not be written is not found, and the file holds the rest. -/
theorem failed_put_leaves_nothing :
    let handle := (FileHandle.run ⟨.empty, ⟨none, 0⟩⟩ someAttempts).2
    (handle.perform none (.get "b.example")).1 = .ok none ∧
      (handle.perform none (.get "a.example")).1 = .ok (some .blank) ∧
      handle.disk.file = some (Snapshot.write handle.store.records) := by
  have opened : FileHandle.opened none = .ok ⟨.empty, ⟨none, 0⟩⟩ := rfl
  obtain ⟨finds, -, -, written, -⟩ := refines_memory opened someAttempts
  refine ⟨(finds none "b.example").trans ?_, (finds none "a.example").trans ?_, written.trans ?_⟩
  · rfl
  · rfl
  · exact if_neg (by decide)

end FileHandle

end OnDemandTls
