import OnDemandTls.Proofs.Store.Interleaving

namespace OnDemandTls

/-!
# The order of concurrent calls

Every call of a store in a file has one step in which its answer is settled: a
call that finds or lists records when it looks at them, a deletion that finds
nothing when it looks, a change when it is published, and a change that cannot
be written when its write fails.  In the order of these steps the calls are
those of a store in memory that is asked one thing after another
(`ConcurrentStore.Linearizes`), whatever the interleaving was.
-/

namespace MemoryStore

/-- A store in memory can answer a request so, if its changes may fail. -/
def Explains (memory : MemoryStore) : StoreExchange → Prop
  | ⟨.get name, answer⟩ => answer = .ok (memory.get? name)
  | ⟨.items page pageSize, answer⟩ => answer = .ok (memory.records.page page pageSize)
  | ⟨.put _ _, _⟩ | ⟨.delete _, _⟩ => True
  | ⟨.compact, _⟩ | ⟨.close, _⟩ => False

/-- A request that failed changes nothing. -/
theorem acknowledge_error
    (memory : MemoryStore)
    (request : StoreRequest)
    (error : StoreError) :
    memory.acknowledge ⟨request, .error error⟩ = memory := by
  cases request <;> rfl

theorem explains_of_changes
    (memory : MemoryStore)
    {request : StoreRequest}
    (changes : request.Changes)
    (answer : request.Answer) :
    memory.Explains ⟨request, answer⟩ := by
  cases request <;> trivial

theorem acknowledgeAll_snoc
    (memory : MemoryStore)
    (exchanges : List StoreExchange)
    (exchange : StoreExchange) :
    memory.acknowledgeAll (exchanges ++ [exchange]) =
      (memory.acknowledgeAll exchanges).acknowledge exchange := by
  simp [acknowledgeAll]

end MemoryStore

namespace CallStage

variable {number : Nat} {request : StoreRequest} {shared later : SharedStore}
variable {stage next : CallStage request} {act : StoreAct} {found : Option String}

/-- The answer of a call once it is settled. -/
def answer? : CallStage request → Option request.Answer
  | releasing answer | returning answer | returned answer => some answer
  | beginning | locking | cloning | writing _ | publishing _ => none

/-- What a step does to the answer of its call and to the records: the answer is
as settled as before and the records are the same, or the answer is settled now,
and answer and records are those of a store in memory. -/
theorem Moves.answer_cases
    (moves : stage.Moves number shared act later next)
    (isOpen : shared.handle.store.isClosed = false)
    (possible : stage.Possible)
    (fits : stage.Fits found shared.handle) :
    (next.answer? = stage.answer? ∧
        later.handle.store.records = shared.handle.store.records ∧
        (∀ error, act ≠ .failsToWrite error) ∧
        (act = .returns → stage.answer? ≠ none)) ∨
      (stage.answer? = none ∧
        act ≠ .returns ∧
        ∃ answer,
          next.answer? = some answer ∧
            MemoryStore.Explains ⟨shared.handle.store.records⟩ ⟨request, answer⟩ ∧
            (⟨later.handle.store.records⟩ : MemoryStore) =
              MemoryStore.acknowledge ⟨shared.handle.store.records⟩ ⟨request, answer⟩ ∧
            ∀ error, answer = .error error ↔ act = .failsToWrite error) := by
  cases moves with
  | refuses closed => cases isOpen.symm.trans closed
  | gets name =>
      have answers : shared.handle.store.get? name = .ok (shared.handle.store.records.find? name) := by
        rw [FileStore.get?, isOpen]
        rfl
      refine Or.inr ⟨rfl, by simp, _, rfl, answers, rfl, fun error => ?_⟩
      simp [answers]
  | lists page pageSize =>
      have answers :
          shared.handle.store.items page pageSize =
            .ok (shared.handle.store.records.page page pageSize) := by
        rw [FileStore.items, isOpen]
        rfl
      refine Or.inr ⟨rfl, by simp, _, rfl, answers, rfl, fun error => ?_⟩
      simp [answers]
  | misses _ missing =>
      have unchanged := Records.delete_of_find?_eq_none missing
      refine Or.inr ⟨rfl, by simp, _, rfl, trivial, ?_, by simp⟩
      exact congrArg MemoryStore.mk unchanged.symm
  | fails _ next error =>
      refine Or.inr ⟨rfl, by simp, _, rfl, MemoryStore.explains_of_changes _ possible _,
        (MemoryStore.acknowledge_error _ request error).symm, fun other => ?_⟩
      simp
  | publishesPut name resource next =>
      refine Or.inr ⟨rfl, by simp, _, rfl, trivial, ?_, by simp⟩
      exact congrArg MemoryStore.mk fits.1
  | publishesDelete name next =>
      refine Or.inr ⟨rfl, by simp, _, rfl, trivial, ?_, by simp⟩
      exact congrArg MemoryStore.mk fits.1
  | returns answer => exact Or.inl ⟨rfl, rfl, by simp, fun _ => Option.some_ne_none _⟩
  | _ => exact Or.inl ⟨rfl, rfl, by simp, by simp⟩

end CallStage

/-- The request of a call with its answer, once that is settled. -/
def StoreCall.exchange? (call : StoreCall) : Option StoreExchange :=
  call.stage.answer?.map fun answer => ⟨call.request, answer⟩

namespace ConcurrentStore

/-- Two elements stand in this order in a list with one more at its end. -/
theorem pair_sublist_snoc
    {β : Type}
    {first second last : β}
    {list : List β} :
    [first, second].Sublist (list ++ [last]) ↔
      [first, second].Sublist list ∨ (first ∈ list ∧ second = last) := by
  constructor
  · intro precedes
    obtain ⟨front, back, together, inFront, inBack⟩ := List.sublist_append_iff.mp precedes
    cases inBack with
    | cons _ none =>
        cases none
        rw [List.append_nil] at together
        exact Or.inl (together ▸ inFront)
    | cons_cons _ none =>
        cases none
        have split : [first] ++ [second] = front ++ [last] := together
        obtain ⟨rfl, same⟩ := List.append_inj' split rfl
        exact Or.inr ⟨List.singleton_sublist.mp inFront, List.head_eq_of_cons_eq same⟩
  · rintro (precedes | ⟨member, rfl⟩)
    · exact precedes.trans (List.sublist_append_left list [last])
    · exact (List.singleton_sublist.mpr member).append (List.Sublist.refl [second])

/-- A call that has just begun adds nothing to what some call has come to. -/
theorem exists_snoc_iff
    {calls : List StoreCall}
    {begun : StoreCall}
    {number : Nat}
    (has : StoreCall → Prop)
    (lacks : ¬ has begun) :
    (∃ call, (calls ++ [begun])[number]? = some call ∧ has call) ↔
      ∃ call, calls[number]? = some call ∧ has call := by
  constructor
  · rintro ⟨call, present, holds⟩
    rcases getElem?_snoc_cases present with before | ⟨-, rfl⟩
    · exact ⟨call, before, holds⟩
    · exact (lacks holds).elim
  · rintro ⟨call, present, holds⟩
    exact ⟨call, getElem?_snoc_of_some present, holds⟩

/-- What all calls have come to when one of several has gone on. -/
theorem exists_set_iff
    {calls : List StoreCall}
    {number other : Nat}
    {call replaced : StoreCall}
    (present : calls[number]? = some call)
    (has : StoreCall → Prop) :
    (∃ call, (calls.set number replaced)[other]? = some call ∧ has call) ↔
      (other = number ∧ has replaced) ∨
        (other ≠ number ∧ ∃ call, calls[other]? = some call ∧ has call) := by
  constructor
  · rintro ⟨found, there, holds⟩
    rcases getElem?_set_cases there with ⟨rfl, rfl⟩ | ⟨differs, before⟩
    · exact Or.inl ⟨rfl, holds⟩
    · exact Or.inr ⟨differs, found, before, holds⟩
  · rintro (⟨rfl, holds⟩ | ⟨differs, found, before, holds⟩)
    · exact ⟨replaced, List.getElem?_set_self (List.getElem?_eq_some_iff.mp present).1, holds⟩
    · exact ⟨found, by rw [List.getElem?_set_ne differs.symm, before], holds⟩

/-- A call that goes on without a change to something leaves it as it is. -/
theorem exists_set_iff_of_iff
    {calls : List StoreCall}
    {number other : Nat}
    {call replaced : StoreCall}
    (present : calls[number]? = some call)
    (has : StoreCall → Prop)
    (same : has replaced ↔ has call) :
    (∃ call, (calls.set number replaced)[other]? = some call ∧ has call) ↔
      ∃ call, calls[other]? = some call ∧ has call := by
  rw [exists_set_iff present]
  by_cases isActor : other = number
  · subst isActor
    simp [present, same]
  · simp [isActor]

/-- An order of settled calls in which they are those of a store in memory that
is asked one thing after another.  It has every call whose answer is settled, and
only these, each once; a call that returned before another one began stands
before it; and the store in memory ends with the published records.  The last
two fields relate the events of a run to how far its calls have come. -/
structure Linearizes
    (start : Records)
    (events : List StoreEvent)
    (store : ConcurrentStore)
    (order : List (Nat × StoreExchange)) :
    Prop where
  unique : (order.map Prod.fst).Nodup
  mem_iff :
    ∀ {number : Nat} {exchange : StoreExchange},
      (number, exchange) ∈ order ↔
        ∃ call, store.calls[number]? = some call ∧ call.exchange? = some exchange
  explained :
    ∀ {front : List (Nat × StoreExchange)} {number : Nat} {exchange : StoreExchange}
        {back : List (Nat × StoreExchange)},
      order = front ++ (number, exchange) :: back →
      (MemoryStore.acknowledgeAll ⟨start⟩ (front.map Prod.snd)).Explains exchange
  records :
    (⟨store.shared.handle.store.records⟩ : MemoryStore) =
      MemoryStore.acknowledgeAll ⟨start⟩ (order.map Prod.snd)
  realTime :
    ∀ {first second : Nat} {request : StoreRequest} {before after : StoreExchange},
      [.acts first .returns, .begins second request].Sublist events →
      (first, before) ∈ order →
      (second, after) ∈ order →
      [(first, before), (second, after)].Sublist order
  returned :
    ∀ {number : Nat},
      .acts number .returns ∈ events →
      ∃ call, store.calls[number]? = some call ∧ call.stage.answer? ≠ none
  failed :
    ∀ {number : Nat} {error : StoreError},
      .acts number (.failsToWrite error) ∈ events ↔
        ∃ call, store.calls[number]? = some call ∧ call.stage.answer? = some (.error error)

namespace Linearizes

variable {start : Records} {events : List StoreEvent} {store later : ConcurrentStore}
variable {order : List (Nat × StoreExchange)}

theorem quiet (handle : FileHandle) :
    Linearizes handle.store.records [] (quiet handle) [] where
  unique := List.nodup_nil
  mem_iff := iff_of_false (List.not_mem_nil) (by rintro ⟨call, present, -⟩; cases present)
  explained together :=
    (List.append_ne_nil_of_right_ne_nil _ (List.cons_ne_nil _ _) together.symm).elim
  records := rfl
  realTime precedes := nomatch precedes
  returned member := nomatch member
  failed := iff_of_false (List.not_mem_nil) (by rintro ⟨call, present, -⟩; cases present)

/-- A call that begins has no place in the order yet. -/
theorem begins
    (linearizes : Linearizes start events store order)
    (request : StoreRequest) :
    Linearizes start (events ++ [.begins store.calls.length request])
      { store with calls := store.calls ++ [⟨request, .beginning⟩] } order where
  unique := linearizes.unique
  mem_iff := linearizes.mem_iff.trans (exists_snoc_iff _ nofun).symm
  explained := linearizes.explained
  records := linearizes.records
  realTime precedes first second := by
    rcases pair_sublist_snoc.mp precedes with before | ⟨-, isLast⟩
    · exact linearizes.realTime before first second
    · cases isLast
      obtain ⟨call, present, -⟩ := linearizes.mem_iff.mp second
      exact (Nat.lt_irrefl _ (List.getElem?_eq_some_iff.mp present).1).elim
  returned member := by
    rcases List.mem_append.mp member with before | last
    · exact (exists_snoc_iff _ (not_not_intro rfl)).mpr (linearizes.returned before)
    · cases List.mem_singleton.mp last
  failed {number error} := by
    rw [exists_snoc_iff _ nofun, ← linearizes.failed]
    simp

section Acts

variable {number : Nat} {request : StoreRequest} {stage next : CallStage request}
variable {act : StoreAct} {shared : SharedStore}

/-- A call whose answer stays as settled as it is keeps its place, or stays
without one. -/
theorem goesOn
    (linearizes : Linearizes start events store order)
    (present : store.calls[number]? = some ⟨request, stage⟩)
    (sameAnswer : next.answer? = stage.answer?)
    (sameRecords : shared.handle.store.records = store.shared.handle.store.records)
    (works : ∀ error, act ≠ .failsToWrite error)
    (answered : act = .returns → stage.answer? ≠ none) :
    Linearizes start (events ++ [.acts number act])
      { shared := shared, calls := store.calls.set number ⟨request, next⟩ } order where
  unique := linearizes.unique
  mem_iff {other exchange} := by
    have sameExchange :
        (⟨request, next⟩ : StoreCall).exchange? = (⟨request, stage⟩ : StoreCall).exchange? := by
      simp only [StoreCall.exchange?, sameAnswer]
    rw [exists_set_iff_of_iff present _ (by rw [sameExchange])]
    exact linearizes.mem_iff
  explained := linearizes.explained
  records := by
    rw [sameRecords]
    exact linearizes.records
  realTime precedes first second := by
    rcases pair_sublist_snoc.mp precedes with before | ⟨-, isLast⟩
    · exact linearizes.realTime before first second
    · cases isLast
  returned member := by
    rw [exists_set_iff_of_iff present _ (by simp only [sameAnswer])]
    rcases List.mem_append.mp member with before | last
    · exact linearizes.returned before
    · cases List.mem_singleton.mp last
      exact ⟨_, present, answered rfl⟩
  failed {other error} := by
    rw [exists_set_iff_of_iff present _ (by simp only [sameAnswer]), ← linearizes.failed]
    have another : .acts other (.failsToWrite error) ≠ StoreEvent.acts number act := by
      intro same
      cases same
      exact works error rfl
    simp [another]

/-- A call without a settled answer has no place, since every place is that of a
settled call. -/
theorem not_mem_of_unsettled
    (linearizes : Linearizes start events store order)
    (present : store.calls[number]? = some ⟨request, stage⟩)
    (unsettled : stage.answer? = none)
    (exchange : StoreExchange) :
    (number, exchange) ∉ order := by
  intro member
  obtain ⟨call, there, isExchange⟩ := linearizes.mem_iff.mp member
  cases present.symm.trans there
  rw [StoreCall.exchange?, unsettled] at isExchange
  cases isExchange

theorem not_returned_of_unsettled
    (linearizes : Linearizes start events store order)
    (present : store.calls[number]? = some ⟨request, stage⟩)
    (unsettled : stage.answer? = none) :
    .acts number .returns ∉ events := by
  intro member
  obtain ⟨call, there, isSettled⟩ := linearizes.returned member
  cases present.symm.trans there
  exact isSettled unsettled

theorem not_failed_of_unsettled
    (linearizes : Linearizes start events store order)
    (present : store.calls[number]? = some ⟨request, stage⟩)
    (unsettled : stage.answer? = none)
    (error : StoreError) :
    .acts number (.failsToWrite error) ∉ events := by
  intro member
  obtain ⟨call, there, failed⟩ := linearizes.failed.mp member
  cases present.symm.trans there
  cases unsettled.symm.trans failed

/-- What a store in memory explains with its published records may come last. -/
theorem explained_snoc
    {exchange : StoreExchange}
    (linearizes : Linearizes start events store order)
    (explains : MemoryStore.Explains ⟨store.shared.handle.store.records⟩ exchange)
    {front back : List (Nat × StoreExchange)}
    {other : Nat}
    {settled : StoreExchange}
    (together : order ++ [(number, exchange)] = front ++ (other, settled) :: back) :
    (MemoryStore.acknowledgeAll ⟨start⟩ (front.map Prod.snd)).Explains settled := by
  rcases List.eq_nil_or_concat back with rfl | ⟨between, last, rfl⟩
  · obtain ⟨rfl, same⟩ := List.append_inj' together rfl
    cases same
    rw [← linearizes.records]
    exact explains
  · rw [List.concat_eq_append, ← List.cons_append, ← List.append_assoc] at together
    exact linearizes.explained (List.append_inj' together rfl).1

/-- A call whose answer is settled now comes last in the order. -/
theorem settles
    {answer : request.Answer}
    (linearizes : Linearizes start events store order)
    (present : store.calls[number]? = some ⟨request, stage⟩)
    (unsettled : stage.answer? = none)
    (unreturned : act ≠ .returns)
    (settled : next.answer? = some answer)
    (explains :
      MemoryStore.Explains ⟨store.shared.handle.store.records⟩ ⟨request, answer⟩)
    (records :
      (⟨shared.handle.store.records⟩ : MemoryStore) =
        MemoryStore.acknowledge ⟨store.shared.handle.store.records⟩ ⟨request, answer⟩)
    (fails : ∀ error, answer = .error error ↔ act = .failsToWrite error) :
    Linearizes start (events ++ [.acts number act])
      { shared := shared, calls := store.calls.set number ⟨request, next⟩ }
      (order ++ [(number, ⟨request, answer⟩)]) := by
  have absent := linearizes.not_mem_of_unsettled present unsettled
  have notReturned := linearizes.not_returned_of_unsettled present unsettled
  have isExchange :
      (⟨request, next⟩ : StoreCall).exchange? = some ⟨request, answer⟩ := by
    rw [StoreCall.exchange?, settled]
    rfl
  refine ⟨?unique, ?mem_iff, ?explained, ?records, ?realTime, ?returned, ?failed⟩
  case unique =>
    rw [List.map_append, List.nodup_append]
    refine ⟨linearizes.unique, List.pairwise_singleton _ _, fun other member last isLast => ?_⟩
    cases List.mem_singleton.mp isLast
    obtain ⟨⟨_, exchange⟩, inOrder, rfl⟩ := List.mem_map.mp member
    rintro rfl
    exact absent exchange inOrder
  case mem_iff =>
    intro other exchange
    rw [exists_set_iff present, List.mem_append, linearizes.mem_iff, List.mem_singleton,
      isExchange]
    constructor
    · rintro (there | isLast)
      · refine Or.inr ⟨fun same => ?_, there⟩
        subst same
        exact absent exchange (linearizes.mem_iff.mpr there)
      · cases isLast
        exact Or.inl ⟨rfl, rfl⟩
    · rintro (⟨rfl, same⟩ | ⟨-, there⟩)
      · cases same
        exact Or.inr rfl
      · exact Or.inl there
  case explained =>
    intro front other exchange back together
    exact linearizes.explained_snoc explains together
  case records =>
    rw [List.map_append, List.map_singleton, MemoryStore.acknowledgeAll_snoc,
      ← linearizes.records]
    exact records
  case realTime =>
    intro first second begun before after precedes isFirst isSecond
    have earlier : [.acts first .returns, .begins second begun].Sublist events := by
      rcases pair_sublist_snoc.mp precedes with earlier | ⟨-, isLast⟩
      · exact earlier
      · cases isLast
    rcases List.mem_append.mp isFirst with inOrder | isNew
    · rcases List.mem_append.mp isSecond with inOrderToo | isNew
      · exact (linearizes.realTime earlier inOrder inOrderToo).trans
          (List.sublist_append_left _ _)
      · exact pair_sublist_snoc.mpr (Or.inr ⟨inOrder, List.mem_singleton.mp isNew⟩)
    · cases List.mem_singleton.mp isNew
      exact (notReturned (earlier.subset List.mem_cons_self)).elim
  case returned =>
    intro other member
    rw [exists_set_iff present]
    rcases List.mem_append.mp member with before | last
    · by_cases same : other = number
      · subst same
        exact (notReturned before).elim
      · exact Or.inr ⟨same, linearizes.returned before⟩
    · cases List.mem_singleton.mp last
      exact (unreturned rfl).elim
  case failed =>
    intro other error
    rw [exists_set_iff present, ← linearizes.failed, List.mem_append, List.mem_singleton, settled]
    by_cases same : other = number
    · subst same
      have notFailed := linearizes.not_failed_of_unsettled present unsettled error
      simp [notFailed, fails, eq_comm]
    · simp [same]

end Acts

/-- Every step of a call keeps the order, or gives the call the last place in it. -/
theorem step
    {found : Option String}
    {event : StoreEvent}
    (linearizes : Linearizes start events store order)
    (guarded : Guarded found store)
    (step : Step store event later) :
    ∃ added, Linearizes start (events ++ [event]) later (order ++ added) := by
  cases step with
  | begins request ofRecords =>
      refine ⟨[], ?_⟩
      rw [List.append_nil]
      exact linearizes.begins request
  | acts present moves =>
      rcases moves.answer_cases guarded.isOpen (guarded.possible present) (guarded.fits present)
        with ⟨sameAnswer, sameRecords, works, answered⟩
          | ⟨unsettled, unreturned, answer, settled, explains, records, fails⟩
      · refine ⟨[], ?_⟩
        rw [List.append_nil]
        exact linearizes.goesOn present sameAnswer sameRecords works answered
      · exact ⟨_, linearizes.settles present unsettled unreturned settled explains records fails⟩

/-- The calls of every run have an order in which they are those of a store in
memory. -/
theorem run
    {found : Option String}
    {start : FileHandle}
    (opened : FileHandle.opened found = .ok start)
    (run : Run (.quiet start) events store) :
    ∃ order, Linearizes start.store.records events store order := by
  induction run with
  | nil => exact ⟨[], .quiet start⟩
  | snoc run step inductionHypothesis =>
      obtain ⟨order, linearizes⟩ := inductionHypothesis
      obtain ⟨added, longer⟩ := linearizes.step (Guarded.run opened run) step
      exact ⟨order ++ added, longer⟩

end Linearizes

/-- Concurrent calls of an open store are linearizable, whichever of its writes
fail.  There is an order of the calls in which they are those of a store in
memory that is asked one thing after another, and in which calls that do not
overlap stand as they happened; a call that has returned has its place there with
the answer that it gave, and it failed just if its write did, without effect.
Whenever the flush lock is free, the file is as it was found until it is first
written, and the snapshot of the published records from then on. -/
theorem concurrent_calls_are_linearizable
    {found : Option String}
    {start : FileHandle}
    {events : List StoreEvent}
    {store : ConcurrentStore}
    (opened : FileHandle.opened found = .ok start)
    (run : Run (.quiet start) events store) :
    let handle := store.shared.handle
    ∃ order,
      Linearizes start.store.records events store order ∧
        (∀ number request answer,
          store.calls[number]? = some ⟨request, .returned answer⟩ →
            (number, ⟨request, answer⟩) ∈ order ∧
              ∀ error,
                answer = .error error ↔ .acts number (.failsToWrite error) ∈ events) ∧
        (store.shared.lockedBy = none →
          handle.disk.file =
            if handle.disk.writes = 0 then found
            else some (Snapshot.write handle.store.records)) := by
  intro handle
  obtain ⟨order, linearizes⟩ := Linearizes.run opened run
  refine ⟨order, linearizes, ?returned, ?written⟩
  case returned =>
    intro number request answer present
    refine ⟨linearizes.mem_iff.mpr ⟨_, present, rfl⟩, fun error => ?_⟩
    rw [linearizes.failed]
    constructor
    · rintro rfl
      exact ⟨_, present, rfl⟩
    · rintro ⟨call, there, failed⟩
      cases present.symm.trans there
      exact Option.some.inj failed
  case written =>
    intro free
    have mirrors := (Guarded.run opened run).free free
    split
    · rename_i unwritten
      exact mirrors.untouched unwritten
    · rename_i written
      exact mirrors.snapshot (Nat.pos_of_ne_zero written)

/-- A step of a call with a given number. -/
theorem Run.acting
    {start store : ConcurrentStore}
    {events : List StoreEvent}
    (run : Run start events store)
    (number : Nat)
    {request : StoreRequest}
    {stage next : CallStage request}
    {act : StoreAct}
    {shared : SharedStore}
    (present : store.calls[number]? = some ⟨request, stage⟩)
    (moves : stage.Moves number store.shared act shared next) :
    Run start (events ++ [.acts number act])
      { shared := shared, calls := store.calls.set number ⟨request, next⟩ } :=
  run.snoc (.acts present moves)

/-- Two records are put at the same time, and a third call looks for the first of
them before it is published.  The second record cannot be written. -/
theorem overlapping_puts_are_linearizable :
    ∃ events store order,
      Run (.quiet ⟨.empty, ⟨none, 0⟩⟩) events store ∧
        Linearizes Catalog.empty events store order ∧
        (0, ⟨.put "a.example" .blank, .ok ()⟩) ∈ order ∧
        (1, ⟨.put "b.example" .blank, .error (.io .permissionDenied)⟩) ∈ order ∧
        (2, ⟨.get "a.example", .ok none⟩) ∈ order ∧
        store.shared.handle.disk.file =
          some (Snapshot.write (Records.put Catalog.empty "a.example" .blank)) := by
  have opened : FileHandle.opened none = .ok ⟨.empty, ⟨none, 0⟩⟩ := rfl
  have begun :=
    (((Run.nil : Run (.quiet ⟨.empty, ⟨none, 0⟩⟩) _ _).snoc
      (.begins _ (.put "a.example" .blank) trivial)).snoc
      (.begins _ (.put "b.example" .blank) trivial)).snoc
      (.begins _ (.get "a.example") trivial)
  have written :=
    ((((begun.acting 0 rfl (.puts rfl)).acting 1 rfl (.puts rfl)).acting 0 rfl (.locks rfl)).acting
      0 rfl (.clones _)).acting 0 rfl (.writes _ _)
  have published :=
    ((written.acting 2 rfl (.gets _)).acting 0 rfl (.publishesPut _ _ _)).acting 0 rfl (.releases _)
  have failed :=
    (((published.acting 1 rfl (.locks rfl)).acting 1 rfl (.clones _)).acting 1 rfl
      (.fails _ _ (.io .permissionDenied))).acting 1 rfl (.releases _)
  have returned :=
    ((failed.acting 0 rfl (.returns _)).acting 1 rfl (.returns _)).acting 2 rfl (.returns _)
  obtain ⟨order, linearizes, answers, mirrors⟩ :=
    concurrent_calls_are_linearizable opened returned
  exact ⟨_, _, order, returned, linearizes, (answers 0 _ _ rfl).1, (answers 1 _ _ rfl).1,
    (answers 2 _ _ rfl).1, mirrors rfl⟩

end ConcurrentStore

end OnDemandTls
