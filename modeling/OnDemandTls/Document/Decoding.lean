import OnDemandTls.Catalog
import OnDemandTls.Decimal.Shortest
import OnDemandTls.Document
import OnDemandTls.Text.Quoted

namespace OnDemandTls

/-!
# Reading values out of documents

A reader turns a document into a value or says what is wrong with it.  Records
are read by a `RecordShape`, which lists their fields: a record may be given as
a table of named values or as a sequence of values in the order of the fields,
names that it does not know are passed over, and fields that are not given keep
the values of a blank record unless they are required.
-/

/-- The two notations of structured texts, as far as readers tell them apart. -/
inductive Format where
  | json
  | toml
  deriving DecidableEq, Repr

/-- What stood in a document where a reader expected something else. -/
inductive Found where
  | null
  | boolean (value : Bool)
  | integer (value : Int)
  | float (text : String)
  | text (value : String)
  | sequence
  | table
  deriving DecidableEq, Repr

/-- What is wrong with a document. -/
inductive DecodeError where
  /-- The text is damaged, or the value has a form that is never read. -/
  | unreadable
  | missingField (name : String)
  | duplicateField (name : String)
  | invalidType (found : Found) (expected : String)
  | invalidValue (value : Int) (expected : String)
  | invalidLength (length : Nat) (title : String) (size : Nat)
  | unknownVariant (name : String) (known : List String)
  deriving DecidableEq, Repr

namespace Found

/-- The name of what was found. -/
def message : Found → String
  | null => "null"
  | boolean true => "boolean `true`"
  | boolean false => "boolean `false`"
  | integer value => "integer `" ++ toString value ++ "`"
  | float written => "floating point `" ++ written ++ "`"
  | text value => "string " ++ Text.quoted value
  | sequence => "sequence"
  | table => "map"

/-- What a document is, if it can be read at all. -/
def ofDocument?
    (format : Format) :
    Document → Option Found
  | .null => some null
  | .boolean value => some (boolean value)
  | .number (some (.integer value)) => some (integer value)
  | .number (some (.float value)) =>
      match format with
      | .json => some (float (Decimal.text .json value))
      | .toml => some (float (Decimal.text .plain value))
  | .number none => none
  | .text (some value) => some (text value)
  | .text none => none
  | .moment => some table
  | .sequence _ => some sequence
  | .table _ => some table
  | .broken => none

end Found

namespace DecodeError

/-- Names between backquotes, joined by `or`. -/
def alternatives (names : List String) : String :=
  String.intercalate " or " (names.map (fun name => "`" ++ name ++ "`"))

/-- The text of an error; an unreadable text has none of its own. -/
def message : DecodeError → Option String
  | unreadable => none
  | missingField name => some ("missing field `" ++ name ++ "`")
  | duplicateField name => some ("duplicate field `" ++ name ++ "`")
  | invalidType found expected =>
      some ("invalid type: " ++ found.message ++ ", expected " ++ expected)
  | invalidValue value expected =>
      some ("invalid value: integer `" ++ toString value ++ "`, expected " ++ expected)
  | invalidLength length title size =>
      some ("invalid length " ++ toString length ++ ", expected struct " ++ title ++ " with " ++
        toString size ++ (if size = 1 then " element" else " elements"))
  | unknownVariant name known =>
      some ("unknown variant `" ++ name ++ "`, expected " ++ alternatives known)

end DecodeError

/-- Reads a value out of a document of a format. -/
abbrev Reader (α : Type) := Format → Document → Except DecodeError α

namespace Reader

variable {α β : Type}

/-- The error of a document that is not what a reader expects. -/
def mismatch
    (format : Format)
    (document : Document)
    (expected : String) :
    Except DecodeError α :=
  match Found.ofDocument? format document with
  | some found => .error (.invalidType found expected)
  | none => .error .unreadable

/-- Change what a reader reads. -/
def map
    (f : α → β)
    (reader : Reader α) :
    Reader β :=
  fun format document => (reader format document).map f

/-- A text, under the given name of what is expected. -/
def text (expected : String) : Reader String :=
  fun format document =>
    match document with
    | .text (some value) => .ok value
    | _ => mismatch format document expected

/-- An arbitrary text. -/
def string : Reader String :=
  text "a string"

/-- The path of a file. -/
def path : Reader String :=
  text "path string"

/-- A truth value. -/
def boolean : Reader Bool :=
  fun format document =>
    match document with
    | .boolean value => .ok value
    | _ => mismatch format document "a boolean"

/-- An integer between two bounds. -/
def integer
    (low high : Int)
    (expected : String) :
    Reader Int :=
  fun format document =>
    match document with
    | .number (some (.integer value)) =>
        if low ≤ value ∧ value ≤ high then
          .ok value
        else
          .error (.invalidValue value expected)
    | _ => mismatch format document expected

/-- A natural number of 16 bits. -/
def unsigned16 : Reader UInt16 :=
  map (fun value => UInt16.ofNat value.toNat) (integer 0 0xFFFF "u16")

/-- A natural number of 64 bits. -/
def unsigned64 : Reader UInt64 :=
  map (fun value => UInt64.ofNat value.toNat) (integer 0 0xFFFFFFFFFFFFFFFF "u64")

/-- An integer of 64 bits. -/
def signed64 : Reader Int :=
  integer (-0x8000000000000000) 0x7FFFFFFFFFFFFFFF "i64"

/-- A value that may be absent, which `null` says. -/
def optional (reader : Reader α) : Reader (Option α) :=
  fun format document =>
    match document with
    | .null => .ok none
    | _ => (reader format document).map some

/-- A sequence of values. -/
def list (reader : Reader α) : Reader (List α) :=
  fun format document =>
    match document with
    | .sequence items => items.mapM (reader format)
    | _ => mismatch format document "a sequence"

/-- A named value of a catalog. -/
def catalogEntry
    (reader : Reader α)
    (format : Format)
    (entry : Option String × Document) :
    Except DecodeError (String × α) :=
  match entry.1 with
  | none => .error .unreadable
  | some name => (reader format entry.2).map (fun value => (name, value))

/-- A table of values under arbitrary names, of which the last of a name counts. -/
def catalog (reader : Reader α) : Reader (Catalog α) :=
  fun format document =>
    match document with
    | .table entries => (entries.mapM (catalogEntry reader format)).map Catalog.ofList
    | _ => mismatch format document "a map"

/-- What may stand beside the name of a choice. -/
def choicePayload
    (format : Format)
    (payload : Document) :
    Except DecodeError Unit :=
  match format, payload with
  | .json, .null => .ok ()
  | .json, _ => mismatch format payload "unit"
  | .toml, .table [] => .ok ()
  | .toml, .sequence [] => .ok ()
  | .toml, _ => .error .unreadable

/-- The value that a name chooses. -/
def chosen
    (choices : List (String × α))
    (name : String) :
    Except DecodeError α :=
  match choices.lookup name with
  | some value => .ok value
  | none => .error (.unknownVariant name (choices.map (·.1)))

/-- One of several names, given as a text or as a table with one entry. -/
def choice (choices : List (String × α)) : Reader α :=
  fun format document =>
    match document with
    | .text (some name) => chosen choices name
    | .table ((some name, payload) :: more) => do
        if format = .toml ∧ !more.isEmpty then
          throw .unreadable
        let value ← chosen choices name
        choicePayload format payload
        if more.isEmpty then
          return value
        else
          throw .unreadable
    | _ => .error .unreadable

end Reader

/-- A field of a record: its name, whether it must be given, and how its value
changes the record. -/
structure Field (α : Type) where
  name : String
  required : Bool
  store : Format → Document → α → Except DecodeError α

namespace Field

variable {α β : Type}

/-- A field that keeps its blank value when it is not given. -/
def defaulted
    (name : String)
    (reader : Reader β)
    (set : β → α → α) :
    Field α where
  name := name
  required := false
  store := fun format document record => (reader format document).map (fun value => set value record)

/-- A field that must be given. -/
def needed
    (name : String)
    (reader : Reader β)
    (set : β → α → α) :
    Field α where
  name := name
  required := true
  store := fun format document record => (reader format document).map (fun value => set value record)

end Field

/-- The shape of a record: its title, the record before any field is given, and
its fields in their order. -/
structure RecordShape (α : Type) where
  title : String
  blank : α
  fields : List (Field α)

namespace RecordShape

variable {α : Type}

/-- The field of a name. -/
def field?
    (shape : RecordShape α)
    (name : String) :
    Option (Field α) :=
  shape.fields.find? (fun field => field.name == name)

/-- Read the named values of a record; `given` lists the fields that have been
read before. -/
def readEntries
    (shape : RecordShape α)
    (format : Format) :
    List (Option String × Document) → List String → α → Except DecodeError α
  | [], given, record =>
      match shape.fields.find? (fun field => field.required && !given.contains field.name) with
      | some field => .error (.missingField field.name)
      | none => .ok record
  | (none, _) :: _, _, _ => .error .unreadable
  | (some name, value) :: rest, given, record =>
      match shape.field? name with
      | none =>
          if value.isWhole then
            readEntries shape format rest given record
          else
            .error .unreadable
      | some field =>
          if given.contains name then
            .error (.duplicateField name)
          else do
            let record ← field.store format value record
            readEntries shape format rest (name :: given) record

/-- Read the values of a record that are given in the order of its fields;
`count` fields have been passed before. -/
def readItems
    (shape : RecordShape α)
    (format : Format) :
    List (Field α) → List Document → Nat → α → Except DecodeError α
  | [], items, _, record =>
      match format, items with
      | .json, _ :: _ => .error .unreadable
      | _, _ => .ok record
  | field :: fields, [], count, record =>
      if field.required then
        .error (.invalidLength count shape.title shape.fields.length)
      else
        readItems shape format fields [] (count + 1) record
  | field :: fields, item :: items, count, record => do
      let record ← field.store format item record
      readItems shape format fields items (count + 1) record

/-- Read a record. -/
def read (shape : RecordShape α) : Reader α :=
  fun format document =>
    match document with
    | .table entries => shape.readEntries format entries [] shape.blank
    | .sequence items => shape.readItems format shape.fields items 0 shape.blank
    | .moment => shape.readEntries format [] [] shape.blank
    | _ => Reader.mismatch format document ("struct " ++ shape.title)

end RecordShape

/-- Read a whole text as a value: nothing may follow it. -/
def Reading.decode
    {α : Type}
    (reading : Reading)
    (format : Format)
    (reader : Reader α) :
    Except DecodeError α := do
  let value ← reader format reading.document
  if reading.trailing then
    throw .unreadable
  else
    return value

end OnDemandTls
