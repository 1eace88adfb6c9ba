import Mathlib.Data.List.Forall2
import OnDemandTls.Document.Decoding
import OnDemandTls.Proofs.Json.RoundTrip

namespace OnDemandTls

/-!
# Records that are written in part

A record need not be written as a whole: what it says without them may be left
out, entries that nobody knows may stand between the others, and a value may be
written in part itself (`Document.Abridges`).  `RecordShape.Fills` follows a
record while the entries of its document are read one after another; a shape that
can be followed so reads every abridgement of the document as the same record
(`RecordShape.Fills.read`).
-/

namespace Document

/-- The entries that may be written for the entries of a record.  A value has
some forms, and an entry with the value that is meant without it may be left
out; entries under names that are not those of the record may stand anywhere. -/
inductive AbridgesEntries
    (forms : String → Document → Document → Prop)
    (defaults : Document)
    (names : List String) :
    List (String × Document) → List (Option String × Document) → Prop where
  | nil :
      AbridgesEntries forms defaults names [] []
  | keeps
      {name : String}
      {value form : Document}
      {entries : List (String × Document)}
      {written : List (Option String × Document)} :
      forms name value form →
      AbridgesEntries forms defaults names entries written →
      AbridgesEntries forms defaults names ((name, value) :: entries) ((some name, form) :: written)
  | omits
      {name : String}
      {value : Document}
      {entries : List (String × Document)}
      {written : List (Option String × Document)} :
      defaults.get? name = some value →
      AbridgesEntries forms defaults names entries written →
      AbridgesEntries forms defaults names ((name, value) :: entries) written
  | adds
      {name : String}
      (value : Document)
      {entries : List (String × Document)}
      {written : List (Option String × Document)} :
      name ∉ names →
      AbridgesEntries forms defaults names entries written →
      AbridgesEntries forms defaults names entries ((some name, value) :: written)

/-- The documents that may be written for the document of a record. -/
inductive Abridges
    (forms : String → Document → Document → Prop)
    (defaults : Document) :
    Document → Document → Prop where
  | table
      {entries : List (String × Document)}
      {written : List (Option String × Document)} :
      AbridgesEntries forms defaults (entries.map Prod.fst) entries written →
      Abridges forms defaults (.record entries) (.table written)

theorem record_injective
    {first second : List (String × Document)}
    (same : record first = record second) :
    first = second := by
  have injective :
      Function.Injective fun entry : String × Document => (some entry.1, entry.2) := by
    rintro ⟨name, value⟩ ⟨other, otherValue⟩ isSame
    cases isSame
    rfl
  exact injective.list_map (Document.table.inj same)

/-- The documents that may be written for a sequence of documents. -/
inductive AbridgesItems (forms : Document → Document → Prop) : Document → Document → Prop where
  | sequence {items written : List Document} :
      List.Forall₂ forms items written →
      AbridgesItems forms (.sequence items) (.sequence written)

end Document

namespace RecordShape

variable {α : Type} {shape : RecordShape α}
variable {forms : String → Document → Document → Prop} {defaults : Document}

/-- How a record comes about when its entries are read one after another.  Every
form of a value makes the same of the record, and the value that is meant without
an entry makes nothing of it. -/
inductive Fills
    (shape : RecordShape α)
    (forms : String → Document → Document → Prop)
    (defaults : Document) :
    List (String × Document) → α → α → Prop where
  | nil (record : α) :
      Fills shape forms defaults [] record record
  | cons
      {field : Field α}
      {name : String}
      {value : Document}
      {entries : List (String × Document)}
      {record next target : α} :
      shape.field? name = some field →
      Json.Plain value →
      forms name value value →
      (∀ form, form.isWhole = true → forms name value form →
        field.store .json form record = .ok next) →
      (∀ default, defaults.get? name = some default →
        field.store .json default record = .ok record) →
      Fills shape forms defaults entries next target →
      Fills shape forms defaults ((name, value) :: entries) record target

/-- The entries of a record that are still to come, when some have been read. -/
structure Pending
    (shape : RecordShape α)
    (entries : List (String × Document))
    (given : List String) :
    Prop where
  distinct : (entries.map Prod.fst).Nodup
  fresh : ∀ name ∈ entries.map Prod.fst, name ∉ given
  required :
    ∀ field ∈ shape.fields, field.required = true →
      field.name ∈ given ∨ field.name ∈ entries.map Prod.fst

namespace Pending

variable {name : String} {value : Document} {entries : List (String × Document)}
variable {given : List String}

theorem required_of_nil
    (pending : shape.Pending [] given)
    (field : Field α)
    (member : field ∈ shape.fields)
    (isRequired : field.required = true) :
    field.name ∈ given :=
  (pending.required field member isRequired).resolve_right List.not_mem_nil

theorem keeps (pending : shape.Pending ((name, value) :: entries) given) :
    shape.Pending entries (name :: given) := by
  obtain ⟨isFirst, distinct⟩ := List.nodup_cons.mp pending.distinct
  refine ⟨distinct, ?fresh, ?required⟩
  case fresh =>
    intro other later isGiven
    rcases List.mem_cons.mp isGiven with rfl | before
    · exact isFirst later
    · exact pending.fresh other (List.mem_cons_of_mem _ later) before
  case required =>
    intro field member isRequired
    rcases pending.required field member isRequired with before | now
    · exact Or.inl (List.mem_cons_of_mem _ before)
    · rcases List.mem_cons.mp now with same | later
      · exact Or.inl (List.mem_cons.mpr (Or.inl same))
      · exact Or.inr later

theorem omits
    (pending : shape.Pending ((name, value) :: entries) given)
    (spared : ∀ field ∈ shape.fields, field.required = true → defaults.get? field.name = none)
    (isDefault : defaults.get? name = some value) :
    shape.Pending entries given := by
  obtain ⟨-, distinct⟩ := List.nodup_cons.mp pending.distinct
  refine ⟨distinct, fun other later => pending.fresh other (List.mem_cons_of_mem _ later), ?_⟩
  intro field member isRequired
  rcases pending.required field member isRequired with before | now
  · exact Or.inl before
  · rcases List.mem_cons.mp now with rfl | later
    · cases (spared field member isRequired).symm.trans isDefault
    · exact Or.inr later

end Pending

theorem isWhole_of_plain
    {document : Document}
    (plain : Json.Plain document) :
    document.isWhole = true :=
  (Json.spells_print plain .compact).isWhole

theorem field?_eq_none
    {name : String}
    (unknown : name ∉ shape.fields.map Field.name) :
    shape.field? name = none := by
  apply List.find?_eq_none.mpr
  intro field member
  simp only [beq_iff_eq]
  rintro rfl
  exact unknown (List.mem_map_of_mem member)

namespace Fills

variable {entries : List (String × Document)} {record target : α}

/-- The document of a record holds its entries as they are. -/
theorem plain (fills : shape.Fills forms defaults entries record target) :
    Json.Plain (.record entries) := by
  apply Json.Plain.record
  induction fills with
  | nil => simp
  | cons _ plain _ _ _ _ inductionHypothesis =>
      intro entry member
      rcases List.mem_cons.mp member with rfl | later
      · exact plain
      · exact inductionHypothesis entry later

/-- A record may be written as it is. -/
theorem abridgesEntries
    (fills : shape.Fills forms defaults entries record target)
    (names : List String) :
    Document.AbridgesEntries forms defaults names entries
      (entries.map fun entry => (some entry.1, entry.2)) := by
  induction fills with
  | nil => exact .nil
  | cons _ _ same _ _ _ inductionHypothesis => exact .keeps same inductionHypothesis

/-- The entries that are left lead from a record to its target, whatever of them
is left out and whatever stands between them. -/
theorem readEntries
    (fills : shape.Fills forms defaults entries record target)
    (spared : ∀ field ∈ shape.fields, field.required = true → defaults.get? field.name = none)
    {written : List (Option String × Document)}
    (abridges :
      Document.AbridgesEntries forms defaults (shape.fields.map Field.name) entries written)
    (whole : ∀ entry ∈ written, entry.2.isWhole = true)
    {given : List String}
    (pending : shape.Pending entries given) :
    shape.readEntries .json written given record = .ok target := by
  induction abridges generalizing record given with
  | nil =>
      cases fills
      unfold RecordShape.readEntries
      have complete :
          shape.fields.find? (fun field => field.required && !given.contains field.name) =
            none := by
        apply List.find?_eq_none.mpr
        intro field member
        simpa using pending.required_of_nil field member
      rw [complete]
  | @keeps name value form entries written isForm _ inductionHypothesis =>
      cases fills with
      | cons found _ _ stores _ rest =>
          have unread : name ∉ given := pending.fresh name List.mem_cons_self
          have stored := stores form (whole _ List.mem_cons_self) isForm
          unfold RecordShape.readEntries
          simp only [found, List.contains_eq_mem, unread, decide_false, Bool.false_eq_true,
            if_false, stored]
          exact inductionHypothesis rest (fun entry member => whole entry (List.mem_cons_of_mem _ member))
            pending.keeps
  | @omits name value entries written isDefault _ inductionHypothesis =>
      cases fills with
      | cons _ plain same stores idle rest =>
          have isNext := stores value (isWhole_of_plain plain) same
          rw [idle value isDefault] at isNext
          cases isNext
          exact inductionHypothesis rest whole (pending.omits spared isDefault)
  | @adds name value entries written unknown _ inductionHypothesis =>
      unfold RecordShape.readEntries
      simp only [field?_eq_none unknown, whole _ List.mem_cons_self, if_true]
      exact inductionHypothesis fills (fun entry member => whole entry (List.mem_cons_of_mem _ member))
        pending

section Steps

variable {field : Field α} {name : String} {value default : Document} {next : α}

/-- A value comes next that may be left out and may have several forms. -/
theorem branch
    (found : shape.field? name = some field)
    (plain : Json.Plain value)
    (same : forms name value value)
    (stores :
      ∀ form, form.isWhole = true → forms name value form →
        field.store .json form record = .ok next)
    (isDefault : defaults.get? name = some default)
    (idle : field.store .json default record = .ok record)
    (rest : shape.Fills forms defaults entries next target) :
    shape.Fills forms defaults ((name, value) :: entries) record target := by
  refine .cons found plain same stores ?_ rest
  intro other isOther
  cases isDefault.symm.trans isOther
  exact idle

/-- A value comes next that may be left out and is written as it is. -/
theorem leaf
    (found : shape.field? name = some field)
    (plain : Json.Plain value)
    (isLeaf : forms name = Eq)
    (stores : field.store .json value record = .ok next)
    (isDefault : defaults.get? name = some default)
    (idle : field.store .json default record = .ok record)
    (rest : shape.Fills forms defaults entries next target) :
    shape.Fills forms defaults ((name, value) :: entries) record target := by
  refine .branch found plain (by rw [isLeaf]) ?_ isDefault idle rest
  intro form _ isForm
  rw [isLeaf] at isForm
  rw [← isForm]
  exact stores

/-- A value comes next that must be given and is written as it is. -/
theorem needed
    (found : shape.field? name = some field)
    (plain : Json.Plain value)
    (isLeaf : forms name = Eq)
    (stores : field.store .json value record = .ok next)
    (noDefault : defaults.get? name = none)
    (rest : shape.Fills forms defaults entries next target) :
    shape.Fills forms defaults ((name, value) :: entries) record target := by
  refine .cons found plain (by rw [isLeaf]) ?stores ?idle rest
  case stores =>
    intro form _ isForm
    rw [isLeaf] at isForm
    rw [← isForm]
    exact stores
  case idle =>
    intro default isDefault
    cases noDefault.symm.trans isDefault

end Steps

end Fills

/-- A document is that of a record, and the record can be followed while the
document is read. -/
structure Describes
    (shape : RecordShape α)
    (forms : String → Document → Document → Prop)
    (defaults document : Document)
    (target : α) :
    Prop where
  exists_fills :
    ∃ entries,
      document = .record entries ∧
        entries.map Prod.fst = shape.fields.map Field.name ∧
        shape.Fills forms defaults entries shape.blank target
  distinct : (shape.fields.map Field.name).Nodup
  spared : ∀ field ∈ shape.fields, field.required = true → defaults.get? field.name = none

namespace Describes

variable {whole document : Document} {target : α}

theorem plain (describes : shape.Describes forms defaults whole target) :
    Json.Plain whole := by
  obtain ⟨entries, rfl, -, fills⟩ := describes.exists_fills
  exact fills.plain

/-- A record may be written as it is. -/
theorem abridges (describes : shape.Describes forms defaults whole target) :
    Document.Abridges forms defaults whole whole := by
  obtain ⟨entries, rfl, -, fills⟩ := describes.exists_fills
  exact .table (fills.abridgesEntries _)

/-- Every abridgement of the document of a record is read as the record. -/
theorem read
    (describes : shape.Describes forms defaults whole target)
    (abridges : Document.Abridges forms defaults whole document)
    (isWhole : document.isWhole = true) :
    shape.read .json document = .ok target := by
  obtain ⟨entries, isRecord, names, fills⟩ := describes.exists_fills
  cases abridges with
  | @table others written abridges =>
      obtain rfl := Document.record_injective isRecord
      rw [names] at abridges
      refine fills.readEntries describes.spared abridges
        ((Json.entriesAreWhole_iff written).mp isWhole)
        ⟨names ▸ describes.distinct, fun name _ => List.not_mem_nil, ?_⟩
      intro field member _
      exact Or.inr (names ▸ List.mem_map_of_mem member)

end Describes

end RecordShape

end OnDemandTls
