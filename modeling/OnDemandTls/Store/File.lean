import OnDemandTls.Store.Snapshot

namespace OnDemandTls

/-!
# Stores in a file

The records live in memory and are written to one file after every change.  A
change is first written and only then made: if writing fails, the store and its
file are as before.  How a text is written is a parameter, `save`, which says
whether it worked and what it leaves behind.
-/

/-- A store in a file. -/
structure FileStore where
  records : Records
  isClosed : Bool

namespace FileStore

/-- An open store with the records of a text. -/
def ofText (text : String) : Except StoreError FileStore :=
  match Snapshot.read text with
  | .ok records => .ok ⟨records, false⟩
  | .error error => .error (.serialization error)

/-- An open store without records. -/
def empty : FileStore where
  records := Catalog.empty
  isClosed := false

variable {φ : Type}

/-- Write records, and make them the records of the store if that works; the
answer is the number of bytes written. -/
def commit
    (store : FileStore)
    (next : Records)
    (save : String → Except StoreError Unit × φ) :
    Except StoreError Nat × FileStore × φ :=
  let text := Snapshot.write next
  match save text with
  | (.ok (), left) => (.ok text.utf8ByteSize, { store with records := next }, left)
  | (.error error, left) => (.error error, store, left)

/-- File a resource under the store key of a name. -/
def put
    (store : FileStore)
    (name : String)
    (resource : CertificateResource)
    (before : φ)
    (save : String → Except StoreError Unit × φ) :
    Except StoreError Unit × FileStore × φ :=
  if store.isClosed then
    (.error .closed, store, before)
  else
    let (answer, rest) := store.commit (store.records.put name resource) save
    (answer.map (fun _ => ()), rest)

/-- The record of a name. -/
def get?
    (store : FileStore)
    (name : String) :
    Except StoreError (Option CertificateResource) :=
  if store.isClosed then .error .closed else .ok (store.records.find? name)

/-- Take the record of a name away; without one, nothing is written. -/
def delete
    (store : FileStore)
    (name : String)
    (before : φ)
    (save : String → Except StoreError Unit × φ) :
    Except StoreError Unit × FileStore × φ :=
  if store.isClosed then
    (.error .closed, store, before)
  else if (store.records.find? name).isNone then
    (.ok (), store, before)
  else
    let (answer, rest) := store.commit (store.records.delete name) save
    (answer.map (fun _ => ()), rest)

/-- One page of the records; nothing if the call panics. -/
def items
    (store : FileStore)
    (page pageSize : Nat) :
    Except StoreError (Option (List (String × CertificateResource))) :=
  if store.isClosed then .error .closed else .ok (store.records.page page pageSize)

/-- What there is to say about a compaction that wrote so many bytes. -/
def compactionSummary
    (store : FileStore)
    (bytes : Nat) :
    String :=
  "rewrote " ++ toString store.records.size ++ " record(s), " ++ toString bytes ++ " bytes"

/-- Write the file anew, and say so. -/
def compact
    (store : FileStore)
    (before : φ)
    (save : String → Except StoreError Unit × φ) :
    Except StoreError String × FileStore × φ :=
  if store.isClosed then
    (.error .closed, store, before)
  else
    let (answer, rest) := store.commit store.records save
    (answer.map rest.1.compactionSummary, rest)

/-- Close the store and write its file a last time. -/
def close
    (store : FileStore)
    (before : φ)
    (save : String → Except StoreError Unit × φ) :
    Except StoreError Unit × FileStore × φ :=
  if store.isClosed then
    (.ok (), store, before)
  else
    let (answer, rest) := { store with isClosed := true }.commit store.records save
    (answer.map (fun _ => ()), rest)

end FileStore

end OnDemandTls
