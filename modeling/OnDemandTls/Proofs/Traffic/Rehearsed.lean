import OnDemandTls.Proofs.Traffic.Basic
import OnDemandTls.Rehearsal.World

namespace OnDemandTls

/-!
# Traffic in a rehearsed world

A rehearsed world answers the calls of a gateway as the scene of traffic admits
it, and is left as the scene after the call (`World.admits_of_answer`).  Only a
call that waits for a guard which is there is held up.
-/

namespace Records

/-- The records after an attempt to change them, by what came of it. -/
def attempted
    {α : Type}
    (changed kept : Records) :
    Except StoreError α → Records
  | .ok _ => changed
  | .error _ => kept

@[simp] theorem attempted_map
    {α β : Type}
    (changed kept : Records)
    (f : α → β)
    (answer : Except StoreError α) :
    attempted changed kept (answer.map f) = attempted changed kept answer := by
  cases answer <;> rfl

end Records

namespace FileStore

variable {φ : Type}

/-- Records become those of a store exactly if they could be written. -/
theorem records_commit
    (store : FileStore)
    (next : Records)
    (save : String → Except StoreError Unit × φ) :
    (store.commit next save).2.1.records =
      Records.attempted next store.records (store.commit next save).1 := by
  unfold commit
  simp only
  split <;> rfl

theorem records_put
    (store : FileStore)
    (name : String)
    (resource : CertificateResource)
    (before : φ)
    (save : String → Except StoreError Unit × φ) :
    (store.put name resource before save).2.1.records =
      Records.attempted (store.records.put name resource) store.records
        (store.put name resource before save).1 := by
  unfold put
  split
  · rfl
  · rw [records_commit, Records.attempted_map]

theorem records_delete
    (store : FileStore)
    (name : String)
    (before : φ)
    (save : String → Except StoreError Unit × φ) :
    (store.delete name before save).2.1.records =
      Records.attempted (store.records.delete name) store.records
        (store.delete name before save).1 := by
  unfold delete
  split
  · rfl
  · split
    · rename_i missing
      exact (Records.delete_of_find?_eq_none (Option.isNone_iff_eq_none.mp missing)).symm
    · rw [records_commit, Records.attempted_map]

theorem records_compact
    (store : FileStore)
    (before : φ)
    (save : String → Except StoreError Unit × φ) :
    (store.compact before save).2.1.records =
      Records.attempted store.records store.records (store.compact before save).1 := by
  unfold compact
  split
  · rfl
  · rw [records_commit, Records.attempted_map]

end FileStore

namespace CertificateStore

/-- A record is filed exactly if the store says so. -/
theorem records_put
    (store : CertificateStore)
    (tree : FileTree)
    (name : String)
    (resource : CertificateResource) :
    (store.put tree name resource).2.1.records =
      Records.attempted (store.records.put name resource) store.records
        (store.put tree name resource).1 := by
  cases store with
  | memory store => rfl
  | file path store => exact store.records_put name resource tree (tree.replaceStore path)

/-- A record is taken away exactly if the store says so. -/
theorem records_delete
    (store : CertificateStore)
    (tree : FileTree)
    (name : String) :
    (store.delete tree name).2.1.records =
      Records.attempted (store.records.delete name) store.records
        (store.delete tree name).1 := by
  cases store with
  | memory store => rfl
  | file path store => exact store.records_delete name tree (tree.replaceStore path)

/-- Compaction keeps the records. -/
theorem records_compact
    (store : CertificateStore)
    (tree : FileTree) :
    (store.compact tree).2.1.records =
      Records.attempted store.records store.records (store.compact tree).1 := by
  cases store with
  | memory store => rfl
  | file path store => exact store.records_compact tree (tree.replaceStore path)

/-- A store that can be read gives the record of a name. -/
theorem get?_cases
    (store : CertificateStore)
    (name : String) :
    store.get? name = .ok (store.records.find? name) ∨ store.get? name = .error .closed := by
  cases store with
  | memory store => exact Or.inl rfl
  | file path store =>
      simp only [get?, FileStore.get?]
      split
      · exact Or.inr rfl
      · exact Or.inl rfl

/-- A store that can be read lists all its records. -/
theorem all_cases (store : CertificateStore) :
    store.all = .ok store.records.toList ∨ store.all = .error .closed := by
  cases store with
  | memory store => exact Or.inl rfl
  | file path store =>
      simp only [all, items, FileStore.items]
      split
      · exact Or.inr rfl
      · exact Or.inl rfl

end CertificateStore

namespace World

/-- What the tasks of a rehearsal share, as the scene of traffic. -/
def scene
    (world : World)
    (now : Nat) :
    Scene where
  epoch := epoch
  instant := now
  records := world.store.records
  locks := world.locks
  readyCertificates := world.readyCertificates

/-- What a call that changes the store leaves of the records. -/
theorem scene_changeStore
    {α : Type}
    (world : World)
    (operation : StoreOperation)
    (change :
      CertificateStore → FileTree → Except StoreError α × CertificateStore × FileTree)
    (changed : Records)
    (changes :
      (change world.store world.tree).2.1.records =
        Records.attempted changed world.store.records (change world.store world.tree).1)
    (now : Nat) :
    (world.changeStore operation change).2.scene now =
      { world.scene now with
        records :=
          Records.attempted changed world.store.records
            (world.changeStore operation change).1 } := by
  unfold changeStore
  cases world.fault? operation with
  | some error => rfl
  | none =>
      simp only [scene, changes]
      rfl

/-- A call that reads the store has the answer of the store, or a failure. -/
theorem readStore_cases
    {α : Type}
    (world : World)
    (operation : StoreOperation)
    (read : CertificateStore → Except StoreError α)
    {value : α}
    (reads : read world.store = .ok value ∨ read world.store = .error .closed) :
    (world.readStore operation read).1 = .ok value ∨
      ∃ error, (world.readStore operation read).1 = .error error := by
  unfold readStore
  cases world.fault? operation with
  | some error => exact Or.inr ⟨error, rfl⟩
  | none => exact reads.imp_right fun closed => ⟨_, closed⟩

section Store

variable (rehearsal : Rehearsal) (now : Nat) (world : World)

theorem performGateway_findRecord (name : String) :
    performGateway rehearsal now (.findRecord name) world =
      .answer (world.readStore .get fun store => store.get? name).1
        (world.readStore .get fun store => store.get? name).2 :=
  rfl

theorem performGateway_listRecords :
    performGateway rehearsal now .listRecords world =
      .answer (world.readStore .items fun store => store.all).1
        (world.readStore .items fun store => store.all).2 :=
  rfl

theorem performGateway_putRecord
    (name : String)
    (resource : CertificateResource) :
    performGateway rehearsal now (.putRecord name resource) world =
      .answer (world.changeStore .put fun store tree => store.put tree name resource).1
        (world.changeStore .put fun store tree => store.put tree name resource).2 :=
  rfl

theorem performGateway_deleteRecord (name : String) :
    performGateway rehearsal now (.deleteRecord name) world =
      .answer (world.changeStore .delete fun store tree => store.delete tree name).1
        (world.changeStore .delete fun store tree => store.delete tree name).2 :=
  rfl

theorem performGateway_compactStore :
    performGateway rehearsal now .compactStore world =
      .answer (world.changeStore .compact fun store tree => store.compact tree).1
        (world.changeStore .compact fun store tree => store.compact tree).2 :=
  rfl

end Store

/-- The answers of a rehearsed world are admitted, and leave the scene as they
should. -/
theorem admits_of_answer
    {rehearsal : Rehearsal}
    {now : Nat}
    {call : GatewayCall}
    {answer : call.Answer}
    {world later : World}
    (answered : performGateway rehearsal now call world = .answer answer later) :
    (world.scene now).Admits call answer ∧
      later.scene now = (world.scene now).after call answer := by
  cases call with
  | findRecord name =>
      rw [performGateway_findRecord] at answered
      injection answered with isAnswer isLater
      rw [← isAnswer, ← isLater]
      exact ⟨world.readStore_cases .get _ (world.store.get?_cases name), rfl⟩
  | listRecords =>
      rw [performGateway_listRecords] at answered
      injection answered with isAnswer isLater
      rw [← isAnswer, ← isLater]
      exact ⟨world.readStore_cases .items _ world.store.all_cases, rfl⟩
  | putRecord name resource =>
      rw [performGateway_putRecord] at answered
      injection answered with isAnswer isLater
      have leaves :=
        world.scene_changeStore .put (fun store tree => store.put tree name resource) _
          (world.store.records_put world.tree name resource) now
      rw [isAnswer, isLater] at leaves
      rw [leaves]
      exact ⟨trivial, by cases answer <;> rfl⟩
  | deleteRecord name =>
      rw [performGateway_deleteRecord] at answered
      injection answered with isAnswer isLater
      have leaves :=
        world.scene_changeStore .delete (fun store tree => store.delete tree name) _
          (world.store.records_delete world.tree name) now
      rw [isAnswer, isLater] at leaves
      rw [leaves]
      exact ⟨trivial, by cases answer <;> rfl⟩
  | compactStore =>
      rw [performGateway_compactStore] at answered
      injection answered with isAnswer isLater
      have leaves :=
        world.scene_changeStore .compact (fun store tree => store.compact tree) _
          (world.store.records_compact world.tree) now
      rw [isAnswer, isLater] at leaves
      rw [leaves]
      exact ⟨trivial, by cases answer <;> rfl⟩
  | awaitRelease name guardNumber =>
      unfold performGateway at answered
      simp only at answered
      split at answered
      · cases answered
      · rename_i gone
        cases answered
        exact ⟨Bool.eq_false_iff.mpr gone, rfl⟩
  | spend budget =>
      unfold performGateway at answered
      simp only at answered
      split at answered <;> cases answered
      exact ⟨trivial, rfl⟩
  | startObtaining request => cases answered
  | _ =>
      cases answered
      exact ⟨by first | rfl | trivial, rfl⟩

/-- Only who waits for a guard that is there is held up. -/
theorem holds_of_heldUp
    {rehearsal : Rehearsal}
    {now : Nat}
    {call : GatewayCall}
    {world : World}
    (heldUp : performGateway rehearsal now call world = .heldUp) :
    ∃ name guardNumber,
      call = .awaitRelease name guardNumber ∧
        world.locks.holds name guardNumber = true := by
  cases call with
  | awaitRelease name guardNumber =>
      unfold performGateway at heldUp
      simp only at heldUp
      split at heldUp
      · exact ⟨name, guardNumber, rfl, ‹_›⟩
      · cases heldUp
  | spend budget =>
      unfold performGateway at heldUp
      simp only at heldUp
      split at heldUp <;> cases heldUp
  | _ => cases heldUp

/-- A call that is put off changes nothing in the scene. -/
theorem scene_of_retryAt
    {rehearsal : Rehearsal}
    {now deadline : Nat}
    {call : GatewayCall}
    {world later : World}
    (putOff : performGateway rehearsal now call world = .retryAt deadline later) :
    later.scene now = world.scene now := by
  cases call with
  | awaitRelease name guardNumber =>
      unfold performGateway at putOff
      simp only at putOff
      split at putOff <;> cases putOff
  | spend budget =>
      unfold performGateway at putOff
      simp only at putOff
      split at putOff <;> cases putOff
      rfl
  | _ => cases putOff

end World

end OnDemandTls
