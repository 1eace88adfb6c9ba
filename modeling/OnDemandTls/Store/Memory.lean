import OnDemandTls.Store.Records

namespace OnDemandTls

/-!
# Stores in memory

A store that lives as long as the gateway runs.  None of its operations fails.
-/

/-- A store in memory. -/
structure MemoryStore where
  records : Records

namespace MemoryStore

/-- A store without records. -/
def empty : MemoryStore where
  records := Catalog.empty

/-- File a resource under the store key of a name. -/
def put
    (store : MemoryStore)
    (name : String)
    (resource : CertificateResource) :
    MemoryStore where
  records := store.records.put name resource

/-- The record of a name. -/
def get?
    (store : MemoryStore)
    (name : String) :
    Option CertificateResource :=
  store.records.find? name

/-- Take the record of a name away, if there is one. -/
def delete
    (store : MemoryStore)
    (name : String) :
    MemoryStore where
  records := store.records.delete name

/-- What there is to say about a compaction, which changes nothing. -/
def compactionSummary (store : MemoryStore) : String :=
  toString store.records.size ++ " record(s) in memory, nothing to compact"

end MemoryStore

end OnDemandTls
