import OnDemandTls.Document

namespace OnDemandTls

/-!
# Tables of TOML texts

A table can be opened by a header, by the dotted key of one of its values, or by
the header of a table inside it.  How it was opened decides what may be added to
it later: a header opens a table once, and dotted keys add only to tables that
dotted keys have opened.
-/

namespace Toml

/-- How a table was opened. -/
inductive Opening where
  /-- By its own header, or by a brace. -/
  | header
  /-- By the header of a table inside it. -/
  | inner
  /-- By the dotted key of a value. -/
  | dotted
  deriving DecidableEq, BEq

/-- A named thing of a table. -/
inductive Item where
  | value (document : Document)
  | table (opening : Opening) (entries : List (String × Item))
  /-- Tables opened one after another by headers in double brackets, the last
  one first. -/
  | tables (all : List (List (String × Item)))

/-- The named things of a table in the order of the text. -/
abbrev Entries := List (String × Item)

/-- Change the item of a name, or put a new one at the end. -/
def update
    (name : String)
    (change : Option Item → Option Item) :
    Entries → Option Entries
  | [] => (change none).map (fun item => [(name, item)])
  | (other, item) :: rest =>
      if other = name then
        (change (some item)).map (fun item => (other, item) :: rest)
      else
        (update name change rest).map ((other, item) :: ·)

/-- Follow a path of names into a table and change the table at its end.
Tables on the way are opened as `opening` says; with `dotted` the path may lead
only through tables that no header of their own has opened. -/
def descend
    (opening : Opening)
    (change : Opening → Entries → Option Entries) :
    List String → Opening → Entries → Option Entries
  | [], own, entries => change own entries
  | name :: path, _, entries =>
      update name
        (fun item =>
          match item with
          | none => (descend opening change path opening []).map (.table opening)
          | some (.value _) => none
          | some (.tables (last :: before)) =>
              (descend opening change path .header last).map (fun last => .tables (last :: before))
          | some (.tables []) => none
          | some (.table own inner) =>
              if opening = .dotted ∧ own = .header then
                none
              else
                (descend opening change path own inner).map (.table own))
        entries

/-- Add a value under a key, given by the path to its table and its name. -/
def addValue?
    (path : List String)
    (name : String)
    (value : Document)
    (entries : Entries) :
    Option Entries :=
  descend .dotted
    (fun own entries =>
      if (own == .dotted) == path.isEmpty then
        none
      else
        update name
          (fun item =>
            match item with
            | none => some (.value value)
            | some _ => none)
          entries)
    path .header entries

/-- Take the item of a name out of a table. -/
def takeOut
    (name : String)
    (entries : Entries) :
    Option Item × Entries :=
  (entries.lookup name, entries.filter (fun entry => entry.1 != name))

mutual

/-- The document of an item. -/
def Item.toDocument : Item → Document
  | .value document => document
  | .table _ entries => .table (entriesToDocument entries)
  | .tables all => .sequence (tablesToDocuments all [])
termination_by structural item => item

/-- The documents of the tables of an item, put in front of others. -/
def tablesToDocuments : List Entries → List Document → List Document
  | [], documents => documents
  | entries :: rest, documents =>
      tablesToDocuments rest (.table (entriesToDocument entries) :: documents)
termination_by structural all => all

/-- The named documents of a table. -/
def entriesToDocument : Entries → List (Option String × Document)
  | [] => []
  | entry :: rest => entryToDocument entry :: entriesToDocument rest
termination_by structural entries => entries

/-- The document of a named item. -/
def entryToDocument : String × Item → Option String × Document
  | (name, item) => (some name, item.toDocument)
termination_by structural entry => entry

end

end Toml

end OnDemandTls
