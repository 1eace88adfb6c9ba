import OnDemandTls.CommandLine.Invocation
import OnDemandTls.CommandLine.Outcome
import OnDemandTls.Store.Opened

namespace OnDemandTls

/-!
# Stored certificates on the command line

Records are listed in the order of their keys, or removed one after another, so
that the next handshakes for their names obtain certificates again.
-/

namespace StoredCertificates

/-- A text with blanks up to a width in characters. -/
def column
    (width : Nat)
    (text : String) :
    String :=
  text ++ String.ofList (List.replicate (width - text.length) ' ')

/-- The line of a record. -/
def row
    (key : String)
    (resource : CertificateResource) :
    String :=
  column 40 key ++ " " ++ column 40 resource.domain ++ " " ++ column 5 resource.origin.name ++
    " valid until " ++ toString resource.validTill ++
    (match resource.retryAfter with
      | some instant => " (retry after " ++ toString instant ++ ")"
      | none => "") ++ "\n"

/-- The lines of all records. -/
def listing : List (String × CertificateResource) → String
  | [] => "No certificates stored\n"
  | records => String.join (records.map fun (key, resource) => row key resource)

/-- What comes of an action: what is printed, and why it fails. -/
structure ActionReport where
  printed : String
  failure : Option CommandFailure
  store : CertificateStore
  tree : FileTree

/-- Remove records until one cannot be removed. -/
def removeAll :
    List String → ActionReport → ActionReport
  | [], report => report
  | domain :: rest, report =>
      match report.store.delete report.tree domain with
      | (.ok (), store, tree) =>
          removeAll rest {
            printed := report.printed ++ "🗑️ Removed " ++ domain ++ "\n"
            failure := none
            store := store
            tree := tree }
      | (.error error, store, tree) =>
          { printed := report.printed
            failure := some (.notRemoved domain error)
            store := store
            tree := tree }

/-- Carry out an action. -/
def act
    (action : CertificateAction)
    (store : CertificateStore)
    (tree : FileTree) :
    ActionReport :=
  match action with
  | .remove domains => removeAll domains ⟨"", none, store, tree⟩
  | .list =>
      match store.all with
      | .ok records => ⟨listing records, none, store, tree⟩
      | .error error => ⟨"", some (.notListed error), store, tree⟩

/-- Carry out an action on the store of some settings; the store is closed in any
case, and a failure of that comes first. -/
def manage
    (settings : DatabaseSettings)
    (action : CertificateAction)
    (tree : FileTree) :
    String × Option CommandFailure × FileTree :=
  match CertificateStore.ofSettings tree settings with
  | (.error error, tree) => ("", some (.storeNotOpened error), tree)
  | (.ok store, tree) =>
      let report := act action store tree
      match report.store.close report.tree with
      | (.error error, _, tree) => (report.printed, some (.storeNotClosed error), tree)
      | (.ok (), _, tree) => (report.printed, report.failure, tree)

end StoredCertificates

end OnDemandTls
