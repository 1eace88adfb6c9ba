namespace OnDemandTls

/-!
# Documents

A document is what a structured text says, as far as it can be read.  A text
may be damaged in places that nobody asks for, so damage is part of the value:
`broken` stands where reading had to stop, and a literal that is well formed
but spells nothing (a lone surrogate, a number beyond all doubles) is there
with no value.  `isWhole` says that a document can at least be passed over.
-/

/-- A number of a document. -/
inductive Number where
  | integer (value : Int)
  | float (value : Float)

/-- What a structured text says, as far as it can be read. -/
inductive Document where
  | null
  | boolean (value : Bool)
  /-- A number, or a literal of a number that no double can hold. -/
  | number (value : Option Number)
  /-- A text, or a literal that spells no text. -/
  | text (value : Option String)
  /-- A date or a time of day. -/
  | moment
  | sequence (items : List Document)
  /-- Named values in the order of the text; a name that spells no text is `none`. -/
  | table (entries : List (Option String × Document))
  /-- Reading stopped here. -/
  | broken

namespace Document

instance : Inhabited Document := ⟨null⟩

/-- The document of an integer. -/
def integer (value : Int) : Document :=
  .number (some (.integer value))

/-- The document of a text. -/
def string (value : String) : Document :=
  .text (some value)

/-- The document of named values. -/
def record (entries : List (String × Document)) : Document :=
  .table (entries.map (fun entry => (some entry.1, entry.2)))

/-- The document of an optional value, where `null` stands for none. -/
def optional
    {α : Type}
    (write : α → Document) :
    Option α → Document
  | none => .null
  | some value => write value

mutual

/-- Whether reading never stopped inside a document. -/
def isWhole : Document → Bool
  | .sequence items => areWhole items
  | .table entries => entriesAreWhole entries
  | .broken => false
  | _ => true
termination_by structural document => document

/-- Whether reading never stopped inside the documents of a list. -/
def areWhole : List Document → Bool
  | [] => true
  | item :: rest => item.isWhole && areWhole rest
termination_by structural items => items

/-- Whether reading never stopped inside the named values of a list. -/
def entriesAreWhole : List (Option String × Document) → Bool
  | [] => true
  | entry :: rest => entryIsWhole entry && entriesAreWhole rest
termination_by structural entries => entries

/-- Whether reading never stopped inside a named value. -/
def entryIsWhole : Option String × Document → Bool
  | (_, value) => value.isWhole
termination_by structural entry => entry

end

/-- The value under a name, the last one if there are several. -/
def find?
    (name : String) :
    List (Option String × Document) → Option Document
  | [] => none
  | (key, value) :: rest =>
      match find? name rest with
      | some later => some later
      | none => if key = some name then some value else none

/-- The value of a table under a name; nothing in any other document. -/
def get?
    (document : Document)
    (name : String) :
    Option Document :=
  match document with
  | .table entries => find? name entries
  | _ => none

end Document

/-- A text as it was read: its document, and whether anything but blanks
follows it. -/
structure Reading where
  document : Document
  trailing : Bool

end OnDemandTls
