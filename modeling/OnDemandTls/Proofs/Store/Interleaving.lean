import OnDemandTls.Proofs.Store.FileRefinement

namespace OnDemandTls

/-!
# Concurrent calls of a store in a file

Calls of an open store overlap in any way.  A call that finds or lists records
looks at them once.  A call that changes records goes through single steps: it
takes the flush lock, clones the records and changes the clone, writes the clone
to the file, publishes it and gives the lock back; a deletion has looked before
whether there is anything to delete.  A write that fails leaves the file as it
is.

A call that nobody disturbs does what `FileHandle.perform` does
(`CallStage.perform_of_alone`, `CallStage.alone_of_perform`), and as long as a
call has not returned, some call can go on (`ConcurrentStore.Run.exists_act`).
-/

namespace StoreRequest

/-- The requests that find, list or change records. -/
def IsOfRecords : StoreRequest → Prop
  | put _ _ | get _ | delete _ | items _ _ => True
  | compact | close => False

/-- The requests that change records. -/
def Changes : StoreRequest → Prop
  | put _ _ | delete _ => True
  | get _ | items _ _ | compact | close => False

/-- What a request makes of the records. -/
def change
    (records : Records) :
    StoreRequest → Records
  | put name resource => records.put name resource
  | delete name => records.delete name
  | get _ | items _ _ | compact | close => records

end StoreRequest

/-- What the calls of a store share. -/
structure SharedStore where
  handle : FileHandle
  /-- The call that holds the flush lock. -/
  lockedBy : Option Nat

namespace SharedStore

/-- The store after an attempt to write records to its file. -/
def saved
    (shared : SharedStore)
    (failure : Option StoreError)
    (next : Records) :
    SharedStore :=
  { shared with
    handle :=
      { shared.handle with
        disk := (shared.handle.disk.save failure (Snapshot.write next)).2 } }

/-- The store with other records. -/
def published
    (shared : SharedStore)
    (next : Records) :
    SharedStore :=
  { shared with
    handle := { shared.handle with store := { shared.handle.store with records := next } } }

/-- The store with its lock in some state. -/
def withLock
    (shared : SharedStore)
    (lockedBy : Option Nat) :
    SharedStore :=
  { shared with lockedBy := lockedBy }

end SharedStore

/-- What a call does in one step. -/
inductive StoreAct where
  | goesOn
  /-- The file cannot be written. -/
  | failsToWrite (error : StoreError)
  | returns
  deriving DecidableEq

/-- Where a call stands: before which step. -/
inductive CallStage (request : StoreRequest) where
  | beginning
  | locking
  | cloning
  | writing (next : Records)
  | publishing (next : Records)
  | releasing (answer : request.Answer)
  | returning (answer : request.Answer)
  | returned (answer : request.Answer)

namespace CallStage

/-- The steps of a call with some number. -/
inductive Moves (number : Nat) (shared : SharedStore) :
    {request : StoreRequest} →
      CallStage request → StoreAct → SharedStore → CallStage request → Prop where
  | refuses {request : StoreRequest} :
      shared.handle.store.isClosed = true →
      Moves number shared (.beginning : CallStage request) .goesOn shared
        (.returning request.closedAnswer)
  | gets (name : String) :
      Moves number shared (.beginning : CallStage (.get name)) .goesOn shared
        (.returning (shared.handle.store.get? name))
  | lists (page pageSize : Nat) :
      Moves number shared (.beginning : CallStage (.items page pageSize)) .goesOn shared
        (.returning (shared.handle.store.items page pageSize))
  | puts {name : String} {resource : CertificateResource} :
      shared.handle.store.isClosed = false →
      Moves number shared (.beginning : CallStage (.put name resource)) .goesOn shared .locking
  | misses {name : String} :
      shared.handle.store.isClosed = false →
      shared.handle.store.records.find? name = none →
      Moves number shared (.beginning : CallStage (.delete name)) .goesOn shared
        (.returning (.ok ()))
  | hits {name : String} {resource : CertificateResource} :
      shared.handle.store.isClosed = false →
      shared.handle.store.records.find? name = some resource →
      Moves number shared (.beginning : CallStage (.delete name)) .goesOn shared .locking
  | locks {request : StoreRequest} :
      shared.lockedBy = none →
      Moves number shared (.locking : CallStage request) .goesOn (shared.withLock (some number))
        .cloning
  | clones (request : StoreRequest) :
      Moves number shared (.cloning : CallStage request) .goesOn shared
        (.writing (request.change shared.handle.store.records))
  | writes (request : StoreRequest) (next : Records) :
      Moves number shared (.writing next : CallStage request) .goesOn (shared.saved none next)
        (.publishing next)
  | fails (request : StoreRequest) (next : Records) (error : StoreError) :
      Moves number shared (.writing next : CallStage request) (.failsToWrite error)
        (shared.saved (some error) next) (.releasing (.error error))
  | publishesPut (name : String) (resource : CertificateResource) (next : Records) :
      Moves number shared (.publishing next : CallStage (.put name resource)) .goesOn
        (shared.published next) (.releasing (.ok ()))
  | publishesDelete (name : String) (next : Records) :
      Moves number shared (.publishing next : CallStage (.delete name)) .goesOn
        (shared.published next) (.releasing (.ok ()))
  | releases {request : StoreRequest} (answer : request.Answer) :
      Moves number shared (.releasing answer) .goesOn (shared.withLock none) (.returning answer)
  | returns {request : StoreRequest} (answer : request.Answer) :
      Moves number shared (.returning answer) .returns shared (.returned answer)

end CallStage

/-! ## Undisturbed calls -/

namespace CallStage

/-- How far a call has come that began on some store and was disturbed by nobody. -/
inductive Alone (number : Nat) (start : SharedStore) {request : StoreRequest} :
    SharedStore → CallStage request → Prop where
  | begins :
      Alone number start start .beginning
  | moves
      {shared later : SharedStore}
      {stage next : CallStage request}
      {act : StoreAct} :
      Alone number start shared stage →
      stage.Moves number shared act later next →
      Alone number start later next

/-- The store is open, and the request is one for which a handle writes its file. -/
def Commits
    (handle : FileHandle)
    (request : StoreRequest) :
    Prop :=
  handle.store.isClosed = false ∧
    match request with
    | .put _ _ => True
    | .delete name => (handle.store.records.find? name).isNone = false
    | .get _ | .items _ _ | .compact | .close => False

theorem perform_failure
    {handle : FileHandle}
    {request : StoreRequest}
    (commits : Commits handle request)
    (error : StoreError) :
    handle.perform (some error) request = (.error error, handle) := by
  obtain ⟨isOpen, writes⟩ := commits
  cases request with
  | put name resource => rw [FileHandle.perform_put isOpen, FileHandle.attempted]
  | delete name =>
      have found : (handle.store.records.find? name).isNone = false := writes
      rw [FileHandle.perform_delete isOpen, found]
      rfl
  | get name => exact writes.elim
  | items page pageSize => exact writes.elim
  | compact => exact writes.elim
  | close => exact writes.elim

/-- What an undisturbed call leaves at each of its stages. -/
def Solo
    (number : Nat)
    (handle : FileHandle)
    {request : StoreRequest}
    (shared : SharedStore) :
    CallStage request → Prop
  | .beginning => shared = ⟨handle, none⟩
  | .locking => shared = ⟨handle, none⟩ ∧ Commits handle request
  | .cloning => shared = ⟨handle, some number⟩ ∧ Commits handle request
  | .writing next =>
      shared = ⟨handle, some number⟩ ∧ Commits handle request ∧
        next = request.change handle.store.records
  | .publishing next =>
      shared = SharedStore.saved ⟨handle, some number⟩ none next ∧ Commits handle request ∧
        next = request.change handle.store.records
  | .releasing answer => ∃ failure, handle.perform failure request = (answer, shared.handle)
  | .returning answer | .returned answer =>
      shared.lockedBy = none ∧ ∃ failure, handle.perform failure request = (answer, shared.handle)

theorem Solo.moves
    {number : Nat}
    {handle : FileHandle}
    {request : StoreRequest}
    {shared later : SharedStore}
    {stage next : CallStage request}
    {act : StoreAct}
    (solo : stage.Solo number handle shared)
    (moves : stage.Moves number shared act later next) :
    next.Solo number handle later := by
  cases moves with
  | refuses closed =>
      cases solo
      refine ⟨rfl, none, ?_⟩
      rw [FileHandle.perform_of_closed closed]
  | gets name =>
      cases solo
      exact ⟨rfl, none, rfl⟩
  | lists page pageSize =>
      cases solo
      exact ⟨rfl, none, rfl⟩
  | puts isOpen =>
      cases solo
      exact ⟨rfl, isOpen, trivial⟩
  | misses isOpen missing =>
      cases solo
      refine ⟨rfl, none, ?_⟩
      rw [FileHandle.perform_delete isOpen, if_pos (Option.isNone_iff_eq_none.mpr missing)]
  | hits isOpen found =>
      cases solo
      exact ⟨rfl, isOpen, congrArg Option.isNone found⟩
  | locks free =>
      obtain ⟨rfl, commits⟩ := solo
      exact ⟨rfl, commits⟩
  | clones =>
      obtain ⟨rfl, commits⟩ := solo
      exact ⟨rfl, commits, rfl⟩
  | writes =>
      obtain ⟨rfl, commits, isNext⟩ := solo
      exact ⟨rfl, commits, isNext⟩
  | fails request next error =>
      obtain ⟨rfl, commits, -⟩ := solo
      exact ⟨some error, perform_failure commits error⟩
  | publishesPut name resource next =>
      obtain ⟨rfl, ⟨isOpen, -⟩, rfl⟩ := solo
      exact ⟨none, by rw [FileHandle.perform_put isOpen]; rfl⟩
  | publishesDelete name next =>
      obtain ⟨rfl, ⟨isOpen, found⟩, rfl⟩ := solo
      have found : (handle.store.records.find? name).isNone = false := found
      exact ⟨none, by rw [FileHandle.perform_delete isOpen, found]; rfl⟩
  | releases answer => exact ⟨rfl, solo⟩
  | returns answer => exact solo

theorem Alone.solo
    {number : Nat}
    {handle : FileHandle}
    {request : StoreRequest}
    {shared : SharedStore}
    {stage : CallStage request}
    (alone : Alone number ⟨handle, none⟩ shared stage) :
    stage.Solo number handle shared := by
  induction alone with
  | begins => rfl
  | moves _ moves inductionHypothesis => exact inductionHypothesis.moves moves

/-- A call that nobody disturbs is performed as a whole. -/
theorem perform_of_alone
    {number : Nat}
    {handle : FileHandle}
    {request : StoreRequest}
    {shared : SharedStore}
    {answer : request.Answer}
    (alone : Alone number ⟨handle, none⟩ shared (.returning answer)) :
    shared.lockedBy = none ∧ ∃ failure, handle.perform failure request = (answer, shared.handle) :=
  alone.solo

/-- An undisturbed call that has come to the flush lock writes its clone. -/
theorem Alone.writing
    {number : Nat}
    {handle : FileHandle}
    {request : StoreRequest}
    (alone : Alone number ⟨handle, none⟩ ⟨handle, none⟩ (.locking : CallStage request)) :
    Alone number ⟨handle, none⟩ ⟨handle, some number⟩
      (.writing (request.change handle.store.records) : CallStage request) :=
  (alone.moves (.locks rfl)).moves (.clones request)

/-- Whatever is performed as a whole can be done by a call that nobody disturbs. -/
theorem alone_of_perform
    (number : Nat)
    (handle : FileHandle)
    (failure : Option StoreError)
    {request : StoreRequest}
    (ofRecords : request.IsOfRecords) :
    Alone number ⟨handle, none⟩ ⟨(handle.perform failure request).2, none⟩
      (.returning (handle.perform failure request).1) := by
  cases isOpen : handle.store.isClosed with
  | true =>
      rw [FileHandle.perform_of_closed isOpen]
      exact .moves .begins (.refuses isOpen)
  | false =>
      cases request with
      | put name resource =>
          rw [FileHandle.perform_put isOpen]
          have writing := (Alone.begins.moves (.puts isOpen) :
            Alone number ⟨handle, none⟩ _ (.locking : CallStage (.put name resource))).writing
          cases failure with
          | none => exact ((writing.moves (.writes _ _)).moves (.publishesPut _ _ _)).moves (.releases _)
          | some error => exact (writing.moves (.fails _ _ error)).moves (.releases _)
      | get name => exact .moves .begins (.gets name)
      | delete name =>
          rw [FileHandle.perform_delete isOpen]
          cases found : handle.store.records.find? name with
          | none => exact .moves .begins (.misses isOpen found)
          | some resource =>
              have writing := (Alone.begins.moves (.hits isOpen found) :
                Alone number ⟨handle, none⟩ _ (.locking : CallStage (.delete name))).writing
              cases failure with
              | none =>
                  exact ((writing.moves (.writes _ _)).moves (.publishesDelete _ _)).moves
                    (.releases _)
              | some error => exact (writing.moves (.fails _ _ error)).moves (.releases _)
      | items page pageSize => exact .moves .begins (.lists page pageSize)
      | compact => exact ofRecords.elim
      | close => exact ofRecords.elim

end CallStage

/-! ## Overlapping calls -/

/-- A call and how far it has come. -/
structure StoreCall where
  request : StoreRequest
  stage : CallStage request

/-- One step of the calls of a store. -/
inductive StoreEvent where
  /-- A call begins. -/
  | begins (number : Nat) (request : StoreRequest)
  | acts (number : Nat) (act : StoreAct)
  deriving DecidableEq

/-- A store with all calls that have begun. -/
structure ConcurrentStore where
  shared : SharedStore
  calls : List StoreCall

namespace ConcurrentStore

/-- A store that nobody has called yet. -/
def quiet (handle : FileHandle) : ConcurrentStore where
  shared := { handle := handle, lockedBy := none }
  calls := []

inductive Step : ConcurrentStore → StoreEvent → ConcurrentStore → Prop where
  | begins
      (store : ConcurrentStore)
      (request : StoreRequest) :
      request.IsOfRecords →
      Step store (.begins store.calls.length request)
        { store with calls := store.calls ++ [⟨request, .beginning⟩] }
  | acts
      {store : ConcurrentStore}
      {number : Nat}
      {request : StoreRequest}
      {stage next : CallStage request}
      {act : StoreAct}
      {shared : SharedStore} :
      store.calls[number]? = some ⟨request, stage⟩ →
      stage.Moves number store.shared act shared next →
      Step store (.acts number act)
        { shared := shared, calls := store.calls.set number ⟨request, next⟩ }

/-- The runs of a store, with all that happens in them. -/
inductive Run (start : ConcurrentStore) : List StoreEvent → ConcurrentStore → Prop where
  | nil :
      Run start [] start
  | snoc
      {events : List StoreEvent}
      {store later : ConcurrentStore}
      {event : StoreEvent} :
      Run start events store →
      Step store event later →
      Run start (events ++ [event]) later

end ConcurrentStore

/-! ## The flush lock -/

namespace CallStage

variable {number : Nat} {request : StoreRequest} {shared later : SharedStore}
variable {stage next : CallStage request} {act : StoreAct} {found : Option String}

/-- Whether a call holds the flush lock. -/
def holdsLock : CallStage request → Bool
  | cloning | writing _ | publishing _ | releasing _ => true
  | beginning | locking | returning _ | returned _ => false

/-- Only a call that changes records goes through the stages of a change. -/
def Possible : CallStage request → Prop
  | beginning => request.IsOfRecords
  | locking | cloning | writing _ | publishing _ => request.Changes
  | releasing _ | returning _ | returned _ => True

/-- What a call that holds the flush lock relies on. -/
def Fits
    (found : Option String)
    (handle : FileHandle) :
    CallStage request → Prop
  | cloning | releasing _ => Mirrors found ⟨handle.store.records⟩ handle
  | writing next =>
      next = request.change handle.store.records ∧ Mirrors found ⟨handle.store.records⟩ handle
  | publishing next =>
      next = request.change handle.store.records ∧
        0 < handle.disk.writes ∧
        handle.disk.file = some (Snapshot.write next)
  | beginning | locking | returning _ | returned _ => True

theorem fits_of_not_holdsLock
    (handle : FileHandle)
    (free : stage.holdsLock = false) :
    stage.Fits found handle := by
  cases stage <;> trivial

/-- A step changes the flush lock only if the call takes it or gives it back. -/
theorem Moves.lockedBy_eq
    (moves : stage.Moves number shared act later next)
    (held : stage.holdsLock = true → shared.lockedBy = some number) :
    later.lockedBy =
      if next.holdsLock then some number
      else if stage.holdsLock then none
      else shared.lockedBy := by
  cases moves with
  | clones | writes | fails | publishesPut | publishesDelete => exact held rfl
  | _ => rfl

/-- Nobody takes the flush lock that another call holds. -/
theorem Moves.free_or_held
    (moves : stage.Moves number shared act later next)
    (holds : next.holdsLock = true) :
    stage.holdsLock = true ∨ shared.lockedBy = none := by
  cases moves with
  | locks free => exact Or.inr free
  | clones | writes | fails | publishesPut | publishesDelete => exact Or.inl rfl
  | _ => cases holds

theorem Moves.possible
    (moves : stage.Moves number shared act later next)
    (possible : stage.Possible) :
    next.Possible := by
  cases moves <;> trivial

/-- Only a call that holds the flush lock changes the records or the file. -/
theorem Moves.handle_eq
    (moves : stage.Moves number shared act later next)
    (free : stage.holdsLock = false) :
    later.handle = shared.handle := by
  cases moves <;> first | rfl | cases free

/-- Whoever holds the flush lock can go on. -/
theorem exists_moves_of_holdsLock
    (number : Nat)
    (shared : SharedStore)
    (possible : stage.Possible)
    (holds : stage.holdsLock = true) :
    ∃ act later next, stage.Moves number shared act later next := by
  cases stage with
  | cloning => exact ⟨_, _, _, .clones request⟩
  | writing next => exact ⟨_, _, _, .writes request next⟩
  | publishing next =>
      cases request with
      | put name resource => exact ⟨_, _, _, .publishesPut name resource next⟩
      | delete name => exact ⟨_, _, _, .publishesDelete name next⟩
      | _ => exact possible.elim
  | releasing answer => exact ⟨_, _, _, .releases answer⟩
  | _ => cases holds

/-- A call that has just begun can go on. -/
theorem exists_moves_of_beginning
    (number : Nat)
    (shared : SharedStore)
    (ofRecords : request.IsOfRecords) :
    ∃ act later next,
      (.beginning : CallStage request).Moves number shared act later next := by
  cases isOpen : shared.handle.store.isClosed with
  | true => exact ⟨_, _, _, .refuses isOpen⟩
  | false =>
      cases request with
      | put name resource => exact ⟨_, _, _, .puts isOpen⟩
      | get name => exact ⟨_, _, _, .gets name⟩
      | delete name =>
          cases found : shared.handle.store.records.find? name with
          | none => exact ⟨_, _, _, .misses isOpen found⟩
          | some resource => exact ⟨_, _, _, .hits isOpen found⟩
      | items page pageSize => exact ⟨_, _, _, .lists page pageSize⟩
      | compact => exact ofRecords.elim
      | close => exact ofRecords.elim

/-- No step closes the store. -/
theorem Moves.isClosed_eq (moves : stage.Moves number shared act later next) :
    later.handle.store.isClosed = shared.handle.store.isClosed := by
  cases moves <;> rfl

/-- The records that have been written to the file are published next. -/
theorem mirrors_published
    (found : Option String)
    {next : Records}
    (written : 0 < shared.handle.disk.writes)
    (isSnapshot : shared.handle.disk.file = some (Snapshot.write next)) :
    Mirrors found ⟨next⟩ (shared.published next).handle where
  records := rfl
  untouched unwritten := (Nat.ne_of_gt written unwritten).elim
  snapshot _ := isSnapshot

/-- The holder of the flush lock leaves what its next step and whoever comes next
rely on. -/
theorem Moves.fits
    (moves : stage.Moves number shared act later next)
    (held : stage.holdsLock = true → shared.lockedBy = some number)
    (fits : stage.Fits found shared.handle)
    (free : shared.lockedBy = none → Mirrors found ⟨shared.handle.store.records⟩ shared.handle) :
    next.Fits found later.handle ∧
      (later.lockedBy = none →
        Mirrors found ⟨later.handle.store.records⟩ later.handle) := by
  cases moves with
  | locks isFree => exact ⟨free isFree, nofun⟩
  | clones => exact ⟨⟨rfl, fits⟩, free⟩
  | writes request written =>
      refine ⟨⟨fits.1, Nat.succ_pos _, rfl⟩, fun isFree => ?_⟩
      cases (held rfl).symm.trans isFree
  | fails => exact ⟨fits.2, free⟩
  | publishesPut name resource next =>
      have mirrors := mirrors_published found fits.2.1 fits.2.2
      exact ⟨mirrors, fun _ => mirrors⟩
  | publishesDelete name next =>
      have mirrors := mirrors_published found fits.2.1 fits.2.2
      exact ⟨mirrors, fun _ => mirrors⟩
  | releases answer => exact ⟨trivial, fun _ => fits⟩
  | _ => exact ⟨trivial, free⟩

end CallStage

namespace ConcurrentStore

/-- A call after one of several has been replaced. -/
theorem getElem?_set_cases
    {calls : List StoreCall}
    {number other : Nat}
    {call replaced : StoreCall}
    (present : (calls.set number replaced)[other]? = some call) :
    (other = number ∧ call = replaced) ∨ (other ≠ number ∧ calls[other]? = some call) := by
  rw [List.getElem?_set] at present
  split at present
  · rename_i same
    split at present
    · cases present
      exact Or.inl ⟨same.symm, rfl⟩
    · cases present
  · rename_i differs
    exact Or.inr ⟨fun same => differs same.symm, present⟩

/-- A call after another one has begun. -/
theorem getElem?_snoc_cases
    {calls : List StoreCall}
    {number : Nat}
    {call begun : StoreCall}
    (present : (calls ++ [begun])[number]? = some call) :
    calls[number]? = some call ∨ (number = calls.length ∧ call = begun) := by
  rcases Nat.lt_or_ge number calls.length with old | new
  · rw [List.getElem?_append_left old] at present
    exact Or.inl present
  · rw [List.getElem?_append_right new, List.getElem?_singleton] at present
    split at present
    · rename_i isLast
      cases present
      exact Or.inr ⟨Nat.le_antisymm (Nat.le_of_sub_eq_zero isLast) new, rfl⟩
    · cases present

theorem getElem?_snoc_of_some
    {calls : List StoreCall}
    {number : Nat}
    {call begun : StoreCall}
    (present : calls[number]? = some call) :
    (calls ++ [begun])[number]? = some call := by
  rw [List.getElem?_append_left (List.getElem?_eq_some_iff.mp present).1]
  exact present

/-- The flush lock guards the records and the file: whoever is in between taking
it and giving it back holds it, and while it is free, the file mirrors the
records. -/
structure Guarded (found : Option String) (store : ConcurrentStore) : Prop where
  isOpen : store.shared.handle.store.isClosed = false
  holder :
    ∀ {number : Nat} {call : StoreCall},
      store.calls[number]? = some call →
      call.stage.holdsLock = true →
      store.shared.lockedBy = some number
  held :
    ∀ {number : Nat},
      store.shared.lockedBy = some number →
      ∃ call, store.calls[number]? = some call ∧ call.stage.holdsLock = true
  fits :
    ∀ {number : Nat} {call : StoreCall},
      store.calls[number]? = some call → call.stage.Fits found store.shared.handle
  free :
    store.shared.lockedBy = none →
    Mirrors found ⟨store.shared.handle.store.records⟩ store.shared.handle
  possible :
    ∀ {number : Nat} {call : StoreCall},
      store.calls[number]? = some call → call.stage.Possible

namespace Guarded

variable {found : Option String} {store later : ConcurrentStore} {event : StoreEvent}

theorem quiet
    {start : FileHandle}
    (opened : FileHandle.opened found = .ok start) :
    Guarded found (quiet start) where
  isOpen := FileHandle.isClosed_of_opened opened
  holder present := nomatch present
  held locked := nomatch locked
  fits present := nomatch present
  free _ := Mirrors.of_opened opened
  possible present := nomatch present

theorem moves
    {number : Nat}
    {request : StoreRequest}
    {stage next : CallStage request}
    {act : StoreAct}
    {shared : SharedStore}
    (guarded : Guarded found store)
    (present : store.calls[number]? = some ⟨request, stage⟩)
    (moves : stage.Moves number store.shared act shared next) :
    Guarded found { shared := shared, calls := store.calls.set number ⟨request, next⟩ } := by
  have held : stage.holdsLock = true → store.shared.lockedBy = some number :=
    guarded.holder present
  have fitsNext := moves.fits held (guarded.fits present) guarded.free
  have lockedBy := moves.lockedBy_eq held
  -- No other call holds the lock that this one holds, or takes.
  have others {other : Nat} {call : StoreCall}
      (there : store.calls[other]? = some call)
      (differs : other ≠ number)
      (uses : stage.holdsLock = true ∨ next.holdsLock = true) :
      call.stage.holdsLock = false := by
    apply Bool.eq_false_iff.mpr
    intro holds
    have locked := guarded.holder there holds
    rcases uses.imp_right moves.free_or_held with holdsToo | holdsToo | isFree
    · exact differs (Option.some.inj (locked.symm.trans (held holdsToo)))
    · exact differs (Option.some.inj (locked.symm.trans (held holdsToo)))
    · cases locked.symm.trans isFree
  refine ⟨?isOpen, ?holder, ?held, ?fits, fitsNext.2, ?possible⟩
  case isOpen => exact moves.isClosed_eq.trans guarded.isOpen
  case holder =>
    intro other call there holds
    rcases getElem?_set_cases there with ⟨rfl, rfl⟩ | ⟨differs, before⟩
    · exact lockedBy.trans (if_pos holds)
    · have idle : stage.holdsLock = false ∧ next.holdsLock = false := by
        constructor <;> apply Bool.eq_false_iff.mpr <;> intro uses
        · exact Bool.false_ne_true ((others before differs (Or.inl uses)).symm.trans holds)
        · exact Bool.false_ne_true ((others before differs (Or.inr uses)).symm.trans holds)
      rw [idle.1, idle.2] at lockedBy
      exact lockedBy.trans (guarded.holder before holds)
  case held =>
    intro other locked
    have there : number < store.calls.length := (List.getElem?_eq_some_iff.mp present).1
    rw [lockedBy] at locked
    split at locked
    · rename_i holds
      cases locked
      exact ⟨_, List.getElem?_set_self there, holds⟩
    · split at locked
      · cases locked
      · rename_i idle
        obtain ⟨call, before, holds⟩ := guarded.held locked
        have differs : number ≠ other := by
          rintro rfl
          cases present.symm.trans before
          exact idle holds
        exact ⟨call, by rw [List.getElem?_set_ne differs, before], holds⟩
  case fits =>
    intro other call there
    rcases getElem?_set_cases there with ⟨rfl, rfl⟩ | ⟨differs, before⟩
    · exact fitsNext.1
    · cases uses : stage.holdsLock with
      | true =>
          exact CallStage.fits_of_not_holdsLock _ (others before differs (Or.inl uses))
      | false =>
          rw [show shared.handle = _ from moves.handle_eq uses]
          exact guarded.fits before
  case possible =>
    intro other call there
    rcases getElem?_set_cases there with ⟨rfl, rfl⟩ | ⟨-, before⟩
    · exact moves.possible (guarded.possible present)
    · exact guarded.possible before

theorem step
    (guarded : Guarded found store)
    (step : Step store event later) :
    Guarded found later := by
  cases step with
  | acts present moves => exact guarded.moves present moves
  | begins request ofRecords =>
      refine ⟨guarded.isOpen, fun there holds => ?_, fun locked => ?_, fun there => ?_,
        guarded.free, fun there => ?_⟩
      · rcases getElem?_snoc_cases there with before | ⟨-, rfl⟩
        · exact guarded.holder before holds
        · cases holds
      · obtain ⟨call, before, holds⟩ := guarded.held locked
        exact ⟨call, getElem?_snoc_of_some before, holds⟩
      · rcases getElem?_snoc_cases there with before | ⟨-, rfl⟩
        · exact guarded.fits before
        · trivial
      · rcases getElem?_snoc_cases there with before | ⟨-, rfl⟩
        · exact guarded.possible before
        · exact ofRecords

theorem run
    {start : FileHandle}
    {events : List StoreEvent}
    (opened : FileHandle.opened found = .ok start)
    (run : Run (.quiet start) events store) :
    Guarded found store := by
  induction run with
  | nil => exact .quiet opened
  | snoc _ step inductionHypothesis => exact inductionHypothesis.step step

end Guarded

/-- As long as a call has not returned, some call can go on. -/
theorem Run.exists_act
    {found : Option String}
    {start : FileHandle}
    {events : List StoreEvent}
    {store : ConcurrentStore}
    {number : Nat}
    {call : StoreCall}
    (opened : FileHandle.opened found = .ok start)
    (run : Run (.quiet start) events store)
    (present : store.calls[number]? = some call)
    (unreturned : ∀ answer, call.stage ≠ .returned answer) :
    ∃ actor act later, Step store (.acts actor act) later := by
  have guarded := Guarded.run opened run
  have act_of_moves {actor : Nat} {acting : StoreCall}
      (there : store.calls[actor]? = some acting)
      (goesOn : ∃ act shared next, acting.stage.Moves actor store.shared act shared next) :
      ∃ actor act later, Step store (.acts actor act) later := by
    obtain ⟨act, shared, next, moves⟩ := goesOn
    exact ⟨actor, act, _, .acts there moves⟩
  have possible := guarded.possible present
  obtain ⟨request, stage⟩ := call
  cases stage with
  | beginning =>
      exact act_of_moves present (CallStage.exists_moves_of_beginning number store.shared possible)
  | locking =>
      -- A call that waits for the lock leaves the step to whoever holds it.
      cases locked : store.shared.lockedBy with
      | none => exact act_of_moves present ⟨_, _, _, .locks locked⟩
      | some holder =>
          obtain ⟨holding, there, holds⟩ := guarded.held locked
          exact act_of_moves there
            (CallStage.exists_moves_of_holdsLock holder _ (guarded.possible there) holds)
  | returning answer => exact act_of_moves present ⟨_, _, _, .returns answer⟩
  | returned answer => exact (unreturned answer rfl).elim
  | _ => exact act_of_moves present (CallStage.exists_moves_of_holdsLock number _ possible rfl)

end ConcurrentStore

end OnDemandTls
