import OnDemandTls.CertificateResource
import OnDemandTls.HostName

namespace OnDemandTls

/-!
# Records of a store

A store files resources under store keys.  Its records are listed in the order
of the keys, as a whole or page by page.
-/

/-- Resources under store keys. -/
abbrev Records := Catalog CertificateResource

namespace Records

/-- The number of different machine words. -/
def wordRange : Nat := 0x10000000000000000

/-- How many records come before a page; pages count from one, and there is no
such number if it is no machine word. -/
def skipped? (page pageSize : Nat) : Option Nat :=
  let before := (page - 1) * pageSize
  if before < wordRange then some before else none

/-- One page of the records, or all of them if the size is zero.  Who asks for a
page that is too far behind for its place to be counted gets no answer: the call
panics. -/
def page
    (records : Records)
    (page pageSize : Nat) :
    Option (List (String × CertificateResource)) :=
  if pageSize = 0 then
    some records.toList
  else
    (skipped? page pageSize).map fun before => (records.toList.drop before).take pageSize

/-- The records with one more, under the store key of a name. -/
def put
    (records : Records)
    (name : String)
    (resource : CertificateResource) :
    Records :=
  records.insert (HostName.storeKey name) resource

/-- The record under the store key of a name. -/
def find?
    (records : Records)
    (name : String) :
    Option CertificateResource :=
  records.get? (HostName.storeKey name)

/-- The records without the one under the store key of a name. -/
def delete
    (records : Records)
    (name : String) :
    Records :=
  records.erase (HostName.storeKey name)

/-- Taking away a record that is not there changes nothing. -/
theorem delete_of_find?_eq_none
    {records : Records}
    {name : String}
    (missing : records.find? name = none) :
    records.delete name = records :=
  Catalog.erase_of_get?_eq_none missing

/-- Records under arbitrary names, filed under the store keys of the names; of
several names with one key the last in order counts. -/
def ofNamed (named : Catalog CertificateResource) : Records :=
  Catalog.ofList (named.toList.map (fun (name, resource) => (HostName.storeKey name, resource)))

end Records

end OnDemandTls
