import OnDemandTls.Toml.Scalar
import OnDemandTls.Toml.Table

namespace OnDemandTls

/-!
# Reading TOML texts

`read?` gives the document of a text that follows TOML 1.0, and nothing for any
other text.  The table of a header is put in its place when the next header or
the end of the text closes it.
-/

namespace Toml

/-- How deep sequences and tables may be nested inside one value. -/
def depthLimit : Nat := 80

mutual

/-- Read a value. -/
def readValue?
    (fuel depth : Nat)
    (cs : List Char) :
    Option (Document × List Char) :=
  match fuel with
  | 0 => none
  | fuel + 1 =>
      match cs with
      | '[' :: rest =>
          match depth with
          | 0 => none
          | depth + 1 => do
              let (items, rest) ← readItems? fuel depth rest
              return (.sequence items, rest)
      | '\x7b' :: rest =>
          match depth with
          | 0 => none
          | depth + 1 =>
              match skipBlanks rest with
              | '\x7d' :: rest => some (.table [], rest)
              | _ => do
                  let (entries, rest) ← readEntries? fuel depth [] rest
                  return (.table (entriesToDocument entries), rest)
      | 't' :: 'r' :: 'u' :: 'e' :: rest => some (.boolean true, rest)
      | 'f' :: 'a' :: 'l' :: 's' :: 'e' :: rest => some (.boolean false, rest)
      | '"' :: _ =>
          (readString? cs).map (fun (text, rest) => (.string (String.ofList text), rest))
      | '\'' :: _ =>
          (readString? cs).map (fun (text, rest) => (.string (String.ofList text), rest))
      | _ => readScalar? cs
termination_by structural fuel

/-- Read the items of a sequence after its opening bracket or a comma. -/
def readItems?
    (fuel depth : Nat)
    (cs : List Char) :
    Option (List Document × List Char) :=
  match fuel with
  | 0 => none
  | fuel + 1 =>
      match skipLines cs.length cs with
      | ']' :: rest => some ([], rest)
      | cs => do
          let (item, rest) ← readValue? fuel depth cs
          match skipLines rest.length rest with
          | ']' :: rest => return ([item], rest)
          | ',' :: rest => do
              let (items, rest) ← readItems? fuel depth rest
              return (item :: items, rest)
          | _ => none
termination_by structural fuel

/-- Read the entries of a table in braces after its opening brace or a comma,
in addition to those that have been read. -/
def readEntries?
    (fuel depth : Nat)
    (entries : Entries)
    (cs : List Char) :
    Option (Entries × List Char) :=
  match fuel with
  | 0 => none
  | fuel + 1 => do
      let (key, rest) ← readKey? cs
      match rest with
      | '=' :: rest => do
          let (value, rest) ← readValue? fuel depth (skipBlanks rest)
          let entries ← addValue? key.dropLast (key.getLast?.getD "") value entries
          match skipBlanks rest with
          | '\x7d' :: rest => return (entries, rest)
          | ',' :: rest => readEntries? fuel depth entries rest
          | _ => none
      | _ => none
termination_by structural fuel

end

/-- A text that has been read in part: the tables that are closed, the table
that is open, where it belongs, and whether it is one of several. -/
structure Draft where
  root : Entries
  current : Entries
  path : List String
  several : Bool

namespace Draft

/-- Nothing has been read. -/
def start : Draft where
  root := []
  current := []
  path := []
  several := false

/-- Put the open table in its place. -/
def close? (draft : Draft) : Option Entries :=
  match draft.path.getLast? with
  | none => some draft.current
  | some name =>
      descend .inner
        (fun _ entries =>
          update name
            (fun item =>
              match item, draft.several with
              | none, false => some (.table .header draft.current)
              | none, true => some (.tables [draft.current])
              | some (.tables all), true => some (.tables (draft.current :: all))
              | _, _ => none)
            entries)
        draft.path.dropLast .header draft.root

/-- Open the table of a header: a table that only inner headers have opened so
far is taken up again, and any other makes the header a repetition. -/
def openTable?
    (path : List String)
    (draft : Draft) :
    Option Draft := do
  let root ← draft.close?
  let name := path.getLast?.getD ""
  let root ← descend .inner
    (fun _ entries =>
      match takeOut name entries with
      | (none, left) => some left
      | (some (.table .inner _), left) => some left
      | (some _, _) => none)
    path.dropLast .header root
  let current := innerEntries path (← draft.close?)
  return ⟨root, current, path, false⟩
where
  /-- The entries of the table at the end of a path, if there is one. -/
  innerEntries : List String → Entries → Entries
    | [], entries => entries
    | name :: path, entries =>
        match entries.lookup name with
        | some (.table _ inner) => innerEntries path inner
        | some (.tables (last :: _)) => innerEntries path last
        | _ => []

/-- Open one more table of a header in double brackets. -/
def openOneOfSeveral?
    (path : List String)
    (draft : Draft) :
    Option Draft := do
  let root ← draft.close?
  let name := path.getLast?.getD ""
  let root ← descend .inner
    (fun _ entries =>
      match entries.lookup name with
      | none => some (entries ++ [(name, .tables [])])
      | some (.tables _) => some entries
      | some _ => none)
    path.dropLast .header root
  return ⟨root, [], path, true⟩

/-- Add a value to the open table. -/
def add?
    (key : List String)
    (value : Document)
    (draft : Draft) :
    Option Draft := do
  let current ← addValue? key.dropLast (key.getLast?.getD "") value draft.current
  return { draft with current }

end Draft

/-- Read the statements of a text; `fuel` bounds their number. -/
def readStatements?
    (fuel : Nat)
    (cs : List Char)
    (draft : Draft) :
    Option Entries :=
  match fuel with
  | 0 => none
  | fuel + 1 =>
      match skipLines cs.length cs with
      | [] => draft.close?
      | '[' :: '[' :: rest => do
          let (key, rest) ← readKey? rest
          match rest with
          | ']' :: ']' :: rest => do
              let draft ← draft.openOneOfSeveral? key
              let rest ← endOfStatement? rest
              readStatements? fuel rest draft
          | _ => none
      | '[' :: rest => do
          let (key, rest) ← readKey? rest
          match rest with
          | ']' :: rest => do
              let draft ← draft.openTable? key
              let rest ← endOfStatement? rest
              readStatements? fuel rest draft
          | _ => none
      | cs => do
          let (key, rest) ← readKey? cs
          match rest with
          | '=' :: rest => do
              let rest := skipBlanks rest
              let (value, rest) ← readValue? (2 * rest.length + 2) depthLimit rest
              let draft ← draft.add? key value
              let rest ← endOfStatement? rest
              readStatements? fuel rest draft
          | _ => none

/-- Read a TOML text; a byte order mark at its start is passed over. -/
def read? (text : String) : Option Document :=
  let cs :=
    match text.toList with
    | '\ufeff' :: rest => rest
    | cs => cs
  (readStatements? (cs.length + 1) cs Draft.start).map
    (fun entries => .table (entriesToDocument entries))

/-- Read a TOML text; where it breaks the grammar the whole of it is broken. -/
def read (text : String) : Reading :=
  ⟨(read? text).getD .broken, false⟩

end Toml

end OnDemandTls
