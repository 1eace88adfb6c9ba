import OnDemandTls.Json.Printer
import OnDemandTls.Store.Records

namespace OnDemandTls

/-!
# Snapshots

The file of a store: a JSON document with all records.  Reading a file that a
store has written gives back its records.
-/

namespace Snapshot

/-- How the records of a file are read; their names are as they are written. -/
def shape : RecordShape (Catalog CertificateResource) where
  title := "StoreSnapshot"
  blank := Catalog.empty
  fields :=
    [.needed "certificates" (Reader.catalog CertificateResource.shape.read) (fun value _ => value)]

/-- The document of records. -/
def toDocument (records : Records) : Document :=
  .record
    [("certificates",
      .record (records.toList.map (fun (key, resource) => (key, resource.toDocument))))]

/-- The text of a file with records. -/
def write (records : Records) : String :=
  Json.pretty (toDocument records)

/-- Read the text of a file; a blank one has no records. -/
def read (text : String) : Except DecodeError Records :=
  if Text.trim text.toList = [] then
    .ok Catalog.empty
  else
    ((Json.read text).decode .json shape.read).map Records.ofNamed

end Snapshot

end OnDemandTls
