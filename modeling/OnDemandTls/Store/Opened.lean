import OnDemandTls.Config.Basic
import OnDemandTls.Store.File
import OnDemandTls.Store.Memory

namespace OnDemandTls

/-!
# Opened stores

A store as a gateway uses it: in memory or in a file of a file tree, behind one
set of operations.  The file is replaced as a whole: a text is written to a
second file, closed to others, and moved over the first one.
-/

/-- The mode of store files: nobody but the owner reads or writes them. -/
def privateMode : Nat := 0o600

/-- The file beside a store file that texts are first written to. -/
def temporaryPath (path : String) : String :=
  FileTree.withExtension path "json.tmp"

/-- Replace the content of a store file, and leave what the attempt leaves. -/
def FileTree.replaceStore
    (tree : FileTree)
    (path text : String) :
    Except StoreError Unit × FileTree :=
  match tree.write (temporaryPath path) text with
  | .error error => (.error (.io error), tree)
  | .ok written =>
      let written := written.setMode (temporaryPath path) privateMode
      match written.rename (temporaryPath path) path with
      | .ok tree => (.ok (), tree)
      | .error error => (.error (.io error), written)

/-- A store in memory, or in the file of a path. -/
inductive CertificateStore where
  | memory (store : MemoryStore)
  | file (path : String) (store : FileStore)

namespace CertificateStore

/-- Open the store of a file; the directories above it are made. -/
def openFile
    (tree : FileTree)
    (path : String) :
    Except StoreError CertificateStore × FileTree :=
  match tree.makeDirectories (FileTree.parent path) with
  | .error error => (.error (.io error), tree)
  | .ok tree =>
      match tree.readText path with
      | .ok text => ((FileStore.ofText text).map (.file path), tree)
      | .error .notFound => (.ok (.file path .empty), tree)
      | .error error => (.error (.io error), tree)

/-- Open the store of some settings. -/
def ofSettings
    (tree : FileTree)
    (settings : DatabaseSettings) :
    Except StoreError CertificateStore × FileTree :=
  match settings.engine with
  | .file => openFile tree settings.path
  | .memory => (.ok (.memory .empty), tree)

/-- All records, whether or not the store is closed. -/
def records : CertificateStore → Records
  | memory store => store.records
  | file _ store => store.records

/-- File a resource under the store key of a name. -/
def put
    (store : CertificateStore)
    (tree : FileTree)
    (name : String)
    (resource : CertificateResource) :
    Except StoreError Unit × CertificateStore × FileTree :=
  match store with
  | memory store => (.ok (), .memory (store.put name resource), tree)
  | file path store =>
      let (answer, store, tree) := store.put name resource tree (tree.replaceStore path)
      (answer, .file path store, tree)

/-- The record of a name. -/
def get?
    (store : CertificateStore)
    (name : String) :
    Except StoreError (Option CertificateResource) :=
  match store with
  | memory store => .ok (store.get? name)
  | file _ store => store.get? name

/-- Take the record of a name away. -/
def delete
    (store : CertificateStore)
    (tree : FileTree)
    (name : String) :
    Except StoreError Unit × CertificateStore × FileTree :=
  match store with
  | memory store => (.ok (), .memory (store.delete name), tree)
  | file path store =>
      let (answer, store, tree) := store.delete name tree (tree.replaceStore path)
      (answer, .file path store, tree)

/-- One page of the records; nothing if the call panics. -/
def items
    (store : CertificateStore)
    (page pageSize : Nat) :
    Except StoreError (Option (List (String × CertificateResource))) :=
  match store with
  | memory store => .ok (store.records.page page pageSize)
  | file _ store => store.items page pageSize

/-- All records, which are the page of size zero; nothing is counted for it, so the
call does not panic. -/
def all (store : CertificateStore) : Except StoreError (List (String × CertificateResource)) :=
  (store.items 0 0).map (·.getD [])

/-- Reclaim space, and say what was done. -/
def compact
    (store : CertificateStore)
    (tree : FileTree) :
    Except StoreError String × CertificateStore × FileTree :=
  match store with
  | memory store => (.ok store.compactionSummary, .memory store, tree)
  | file path store =>
      let (answer, store, tree) := store.compact tree (tree.replaceStore path)
      (answer, .file path store, tree)

/-- Close the store. -/
def close
    (store : CertificateStore)
    (tree : FileTree) :
    Except StoreError Unit × CertificateStore × FileTree :=
  match store with
  | memory store => (.ok (), .memory store, tree)
  | file path store =>
      let (answer, store, tree) := store.close tree (tree.replaceStore path)
      (answer, .file path store, tree)

end CertificateStore

end OnDemandTls
