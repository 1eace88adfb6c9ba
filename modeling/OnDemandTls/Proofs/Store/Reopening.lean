import OnDemandTls.Proofs.ByteOrder
import OnDemandTls.Proofs.FileTree
import OnDemandTls.Proofs.Json.RoundTrip
import OnDemandTls.Proofs.NormalForms
import OnDemandTls.Store.Opened

namespace OnDemandTls

/-!
# Opening what was written

A store that is opened on the file of a snapshot has the records of the
snapshot (`Snapshot.open_undoes_write`), whatever texts they hold.  If the names
in the file are no store keys, every key has the record of the greatest of its
names; the rule for store keys is a normal form, so once such a file was
rewritten, opening it changes nothing.
-/

/-- An integer of 64 bits. -/
def Signed64 (value : Int) : Prop :=
  -0x8000000000000000 ≤ value ∧ value ≤ 0x7FFFFFFFFFFFFFFF

instance (value : Int) : Decidable (Signed64 value) :=
  inferInstanceAs (Decidable (_ ∧ _))

namespace CertificateResource

/-- The times of a resource are integers of 64 bits. -/
structure TimesFit (resource : CertificateResource) : Prop where
  validTill : Signed64 resource.validTill
  retryAfter : ∀ time ∈ resource.retryAfter, Signed64 time

variable {resource : CertificateResource}

/-! ## Documents of resources -/

theorem plain_integer
    {time : Int}
    (fits : Signed64 time) :
    Json.Plain (.integer time) := by
  refine .integer ?_
  unfold Signed64 at fits
  unfold Json.FitsLiteral
  omega

theorem plain_optional
    {time : Option Int}
    (fits : ∀ given ∈ time, Signed64 given) :
    Json.Plain (.optional .integer time) := by
  cases time with
  | none => exact .null
  | some given => exact plain_integer (fits given rfl)

theorem plain_toDocument (fits : resource.TimesFit) : Json.Plain resource.toDocument := by
  have plainTime := plain_integer fits.validTill
  have plainMark := plain_optional fits.retryAfter
  refine .record ?_
  simp only [List.forall_mem_cons, List.not_mem_nil, false_implies, implies_true, and_true]
  exact ⟨.string _, .string _, .string _, .string _, plainMark, plainTime, .string _⟩

theorem read_signed64
    {time : Int}
    (fits : Signed64 time)
    (format : Format) :
    Reader.signed64 format (.integer time) = .ok time :=
  if_pos fits

theorem read_optional
    {time : Option Int}
    (fits : ∀ given ∈ time, Signed64 given)
    (format : Format) :
    Reader.optional Reader.signed64 format (.optional .integer time) = .ok time := by
  cases time with
  | none => rfl
  | some given =>
      change (Reader.signed64 format (.integer given)).map some = _
      rw [read_signed64 (fits given rfl)]
      rfl

theorem read_origin
    (origin : CertificateOrigin)
    (format : Format) :
    Reader.choice CertificateOrigin.names format (.string origin.name) = .ok origin := by
  cases origin <;> rfl

@[simp] theorem read_string
    (value : String)
    (format : Format) :
    Reader.string format (.string value) = .ok value :=
  rfl

/-- A resource is read back from its document. -/
theorem read_toDocument
    (fits : resource.TimesFit)
    (format : Format) :
    shape.read format resource.toDocument = .ok resource := by
  have time := read_signed64 fits.validTill format
  have mark := read_optional fits.retryAfter format
  simp [toDocument, Document.record, RecordShape.read, RecordShape.readEntries,
    RecordShape.field?, shape, Field.defaulted, Field.needed, bind, Except.bind, Except.map,
    time, mark, read_origin]

end CertificateResource

/-! ## Documents of catalogs -/

/-- A catalog is read back from the document of its values, if they are. -/
theorem Reader.catalog_record
    {α : Type}
    {reader : Reader α}
    {write : α → Document}
    {format : Format}
    {c : Catalog α}
    (readBack : ∀ pair ∈ c.toList, reader format (write pair.2) = .ok pair.2) :
    Reader.catalog reader format (.record (c.toList.map fun pair => (pair.1, write pair.2))) =
      .ok c := by
  have entries :
      ∀ pairs : List (String × α),
        (∀ pair ∈ pairs, reader format (write pair.2) = .ok pair.2) →
        (pairs.map fun pair => (some pair.1, write pair.2)).mapM
          (Reader.catalogEntry reader format) = .ok pairs := by
    intro pairs
    induction pairs with
    | nil => intro _; rfl
    | cons pair pairs inductionHypothesis =>
        intro each
        have first :
            Reader.catalogEntry reader format (some pair.1, write pair.2) = .ok pair := by
          simp [Reader.catalogEntry, each pair List.mem_cons_self, Except.map]
        have others := inductionHypothesis fun other member => each other (List.mem_cons_of_mem _ member)
        simp only [List.map_cons, List.mapM_cons, first, others, bind, Except.bind, pure, Except.pure]
  simp only [Reader.catalog, Document.record, List.map_map, Function.comp_def]
  rw [entries c.toList readBack]
  simp [Except.map]

namespace Snapshot

variable {named : Catalog CertificateResource}

/-- The times of all records are integers of 64 bits. -/
def TimesFit (named : Catalog CertificateResource) : Prop :=
  ∀ name resource, named.get? name = some resource → resource.TimesFit

theorem timesFit_of_mem
    (fits : TimesFit named)
    {pair : String × CertificateResource}
    (member : pair ∈ named.toList) :
    pair.2.TimesFit :=
  fits pair.1 pair.2 (Catalog.get?_eq_some_iff.mpr member)

theorem plain_toDocument (fits : TimesFit named) : Json.Plain (toDocument named) := by
  refine .record fun entry member => ?_
  rw [List.mem_singleton] at member
  subst member
  refine .record fun inner member => ?_
  obtain ⟨pair, listed, rfl⟩ := List.mem_map.mp member
  exact CertificateResource.plain_toDocument (timesFit_of_mem fits listed)

theorem read_record
    (document : Document)
    (format : Format) :
    shape.read format (.record [("certificates", document)]) =
      Reader.catalog CertificateResource.shape.read format document := by
  cases attempt : Reader.catalog CertificateResource.shape.read format document <;>
    simp [Document.record, RecordShape.read, RecordShape.readEntries, RecordShape.field?, shape,
      Field.needed, bind, Except.bind, Except.map, attempt]

theorem read_toDocument
    (fits : TimesFit named)
    (format : Format) :
    shape.read format (toDocument named) = .ok named := by
  have each : ∀ pair ∈ named.toList,
      CertificateResource.shape.read format pair.2.toDocument = .ok pair.2 := fun pair member =>
    CertificateResource.read_toDocument (timesFit_of_mem fits member) format
  exact (read_record _ format).trans (Reader.catalog_record each)

/-- The text of a snapshot is not blank: it begins with a brace. -/
theorem trim_write_ne_nil (named : Catalog CertificateResource) :
    Text.trim (write named).toList ≠ [] := by
  intro blank
  obtain ⟨cs, opened⟩ : ∃ cs, (write named).toList = '\x7b' :: cs := by
    simp [write, toDocument, Document.record, Json.pretty, Json.print]
  have brace : Text.isBlank '\x7b' = false := by decide
  rw [opened, Text.trim, List.dropWhile_cons_of_neg (by simp [brace]), Text.dropEndWhile,
    List.reverse_eq_nil_iff] at blank
  have dropped := List.any_dropWhile (l := ('\x7b' :: cs).reverse) (p := Text.isBlank)
  rw [blank] at dropped
  simp [brace] at dropped

/-- A snapshot is read back as the records under the keys of its names. -/
theorem read_write (fits : TimesFit named) : read (write named) = .ok (Records.ofNamed named) := by
  unfold read
  rw [if_neg (trim_write_ne_nil named), write, Json.read_pretty (plain_toDocument fits)]
  simp only [Reading.decode, read_toDocument fits, bind, Except.bind, Bool.false_eq_true, if_false,
    pure, Except.pure, Except.map]

end Snapshot

namespace Records

variable {named : Catalog CertificateResource}

/-- A key has the record of the greatest of its names. -/
theorem get?_ofNamed
    (named : Catalog CertificateResource)
    (key : String)
    (resource : CertificateResource) :
    (ofNamed named).get? key = some resource ↔
      ∃ name, named.get? name = some resource ∧ HostName.storeKey name = key ∧
        ∀ other, (named.get? other).isSome → HostName.storeKey other = key →
          Text.bytes other ≤ Text.bytes name := by
  have last := Catalog.get?_ofList_map named HostName.storeKey key resource
  simp only [← List.not_lt, Text.bytes_lt_bytes]
  exact last

/-- Records under store keys are filed where they are. -/
theorem ofNamed_of_storeKeys
    (normal : ∀ name, (named.get? name).isSome → HostName.storeKey name = name) :
    ofNamed named = named := by
  have same :
      named.toList.map (fun pair => (HostName.storeKey pair.1, pair.2)) = named.toList := by
    refine List.map_congr_left (g := id) (fun pair member => ?_) |>.trans (List.map_id _)
    have filed := Catalog.get?_eq_some_iff.mpr member
    rw [normal pair.1 (by rw [filed]; rfl)]
    rfl
  exact (congrArg Catalog.ofList same).trans (Catalog.ofList_toList named)

theorem storeKey_of_ofNamed
    {key : String}
    (filed : ((ofNamed named).get? key).isSome) :
    HostName.storeKey key = key := by
  obtain ⟨resource, found⟩ := Option.isSome_iff_exists.mp filed
  obtain ⟨name, -, rfl, -⟩ := (get?_ofNamed named key resource).mp found
  exact HostName.storeKey_storeKey name

theorem timesFit_ofNamed
    (fits : Snapshot.TimesFit named) :
    Snapshot.TimesFit (ofNamed named) := by
  intro key resource found
  obtain ⟨name, filed, -⟩ := (get?_ofNamed named key resource).mp found
  exact fits name resource filed

end Records

namespace FileStore

variable {named : Catalog CertificateResource}

/-- The open store with the records of a snapshot. -/
def ofNamed (named : Catalog CertificateResource) : FileStore where
  records := Records.ofNamed named
  isClosed := false

theorem ofText_write (fits : Snapshot.TimesFit named) :
    ofText (Snapshot.write named) = .ok (ofNamed named) := by
  rw [ofText, Snapshot.read_write fits]
  rfl

end FileStore

/-- A store is opened on a file that was replaced as on the text that was written. -/
theorem CertificateStore.openFile_of_replaceStore
    {path text : String}
    {tree written made : FileTree}
    {store : FileStore}
    (noDirectory : path.endsWith "/" = false)
    (replaced : tree.replaceStore path text = (.ok (), written))
    (prepared : written.makeDirectories (FileTree.parent path) = .ok made)
    (read : FileStore.ofText text = .ok store) :
    CertificateStore.openFile written path = (.ok (.file path store), made) := by
  have found := FileTree.readText_replaceStore noDirectory replaced prepared
  simp only [openFile, prepared, found, read, Except.map]

namespace Snapshot

/-- Opening undoes writing.  A store that is opened on the snapshot of a catalog
is open and has its records: exactly those of the catalog if its names are store
keys, and otherwise under every key the record of the name with the greatest
bytes.  That holds for the text of the snapshot, and for every file that it has
replaced: the directory of the file is there then, so nothing else is made
unless the path of the directory says another place than the path of the file
does.  Store keys are their own store keys, and opening the snapshot of what was
opened changes nothing. -/
theorem open_undoes_write
    {named : Catalog CertificateResource}
    (fits : TimesFit named) :
    ∃ store : FileStore,
      store.isClosed = false ∧
      FileStore.ofText (write named) = .ok store ∧
      (∀ tree path written,
        path.endsWith "/" = false →
        FileTree.replaceStore tree path (write named) = (.ok (), written) →
        (written.locate (FileTree.parent path) = (written.locate path).dropLast →
          CertificateStore.openFile written path = (.ok (.file path store), written)) ∧
        ∀ made, written.makeDirectories (FileTree.parent path) = .ok made →
          CertificateStore.openFile written path = (.ok (.file path store), made)) ∧
      ((∀ name, (named.get? name).isSome → HostName.storeKey name = name) →
        store.records = named) ∧
      (∀ key resource,
        store.records.get? key = some resource ↔
          ∃ name, named.get? name = some resource ∧ HostName.storeKey name = key ∧
            ∀ other, (named.get? other).isSome → HostName.storeKey other = key →
              Text.bytes other ≤ Text.bytes name) ∧
      (∀ name, HostName.storeKey (HostName.storeKey name) = HostName.storeKey name) ∧
      FileStore.ofText (write store.records) = .ok store := by
  have read := FileStore.ofText_write fits
  refine ⟨FileStore.ofNamed named, rfl, read, ?files, Records.ofNamed_of_storeKeys,
    Records.get?_ofNamed named, HostName.storeKey_storeKey, ?again⟩
  case files =>
    intro tree path written noDirectory replaced
    have opens : ∀ made, written.makeDirectories (FileTree.parent path) = .ok made →
        CertificateStore.openFile written path = (.ok (.file path (.ofNamed named)), made) :=
      fun made prepared =>
        CertificateStore.openFile_of_replaceStore noDirectory replaced prepared read
    refine ⟨fun above => opens written ?_, opens⟩
    rw [FileTree.makeDirectories, above]
    exact FileTree.makeDirectories_go_of_find (FileTree.find_replaceStore replaced).2.1
  case again =>
    have rewritten := FileStore.ofText_write (Records.timesFit_ofNamed fits)
    have settled : FileStore.ofNamed (Records.ofNamed named) = FileStore.ofNamed named := by
      have sameRecords : Records.ofNamed (Records.ofNamed named) = Records.ofNamed named :=
        Records.ofNamed_of_storeKeys fun _ filed => Records.storeKey_of_ofNamed filed
      rw [FileStore.ofNamed, sameRecords]
      rfl
    exact rewritten.trans (congrArg Except.ok settled)

/-- A resource whose texts have to be escaped. -/
def escapedResource : CertificateResource :=
  { CertificateResource.blank with
    domain := "\"quoted\" \\ \u2028\x7f\x01"
    retryAfter := some (-1)
    validTill := 0x7FFFFFFFFFFFFFFF
    origin := .mock }

/-- Two names with one store key. -/
def spellings : Catalog CertificateResource :=
  Catalog.ofList [(".a.example", escapedResource), (" *.A.example", .blank)]

/-- Of two names with one store key the one with the greater bytes is opened. -/
theorem greater_spelling_is_opened :
    TimesFit spellings ∧
      ∃ store,
        FileStore.ofText (write spellings) = .ok store ∧
        store.records.get? ".a.example" = some escapedResource := by
  have listed : spellings.toList = [(" *.A.example", .blank), (".a.example", escapedResource)] := by
    decide +kernel
  have fits : TimesFit spellings := by
    intro name resource filed
    have member := Catalog.get?_eq_some_iff.mp filed
    rw [listed] at member
    simp only [List.mem_cons, Prod.mk.injEq, List.not_mem_nil, or_false] at member
    rcases member with ⟨-, rfl⟩ | ⟨-, rfl⟩
    · exact ⟨by decide, nofun⟩
    · exact ⟨by decide, fun given same => by cases same; decide⟩
  obtain ⟨store, -, read, -, -, chosen, -⟩ := open_undoes_write fits
  refine ⟨fits, store, read, (chosen _ _).mpr ⟨".a.example", by decide +kernel, by decide +kernel, ?_⟩⟩
  intro other present _
  obtain ⟨resource, filed⟩ := Option.isSome_iff_exists.mp present
  have member := Catalog.get?_eq_some_iff.mp filed
  rw [listed] at member
  simp only [List.mem_cons, Prod.mk.injEq, List.not_mem_nil, or_false] at member
  rcases member with ⟨rfl, -⟩ | ⟨rfl, -⟩ <;> decide +kernel

end Snapshot

end OnDemandTls
