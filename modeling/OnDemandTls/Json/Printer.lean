import OnDemandTls.Decimal.Shortest
import OnDemandTls.Document

namespace OnDemandTls

/-!
# Writing JSON texts

The layout of a JSON text is either compact or pretty: one member a line, two
blanks for each level, empty sequences and tables on one line.  Only quotes,
backslashes and control characters are escaped; everything else is written as
itself.
-/

namespace Json

/-- A hexadecimal digit in lower case. -/
def hexDigit (n : Nat) : Char :=
  if n < 10 then Char.ofNat ('0'.toNat + n) else Char.ofNat ('a'.toNat + (n - 10))

/-- A character inside a string literal. -/
def escape (c : Char) : List Char :=
  match c with
  | '"' => ['\\', '"']
  | '\\' => ['\\', '\\']
  | '\x08' => ['\\', 'b']
  | '\x0c' => ['\\', 'f']
  | '\n' => ['\\', 'n']
  | '\r' => ['\\', 'r']
  | '\t' => ['\\', 't']
  | c =>
      if c.toNat < 0x20 then
        ['\\', 'u', '0', '0', hexDigit (c.toNat / 16), hexDigit (c.toNat % 16)]
      else
        [c]

/-- A string literal. -/
def quote (text : String) : List Char :=
  '"' :: (text.toList.flatMap escape ++ ['"'])

/-- The text of a number. -/
def printNumber : Number → List Char
  | .integer value => (toString value).toList
  | .float value => (Decimal.text .json value).toList

/-- Where the values of a sequence or table stand. -/
inductive Layout where
  /-- Side by side, without blanks. -/
  | compact
  /-- Each on a line of its own, indented by the number of levels. -/
  | pretty (level : Nat)

namespace Layout

/-- The layout one level further in. -/
def inner : Layout → Layout
  | compact => compact
  | pretty level => pretty (level + 1)

/-- What separates a bracket or comma from what follows. -/
def break_ : Layout → List Char
  | compact => []
  | pretty level => '\n' :: List.replicate (2 * level) ' '

/-- What separates a name from its value. -/
def colon : Layout → List Char
  | compact => [':']
  | pretty _ => [':', ' ']

end Layout

mutual

/-- Write a document in a layout; a damaged place is left empty. -/
def print
    (layout : Layout) :
    Document → List Char
  | .null => ['n', 'u', 'l', 'l']
  | .boolean true => ['t', 'r', 'u', 'e']
  | .boolean false => ['f', 'a', 'l', 's', 'e']
  | .number (some value) => printNumber value
  | .number none => []
  | .text (some value) => quote value
  | .text none => []
  | .moment => []
  | .sequence [] => ['[', ']']
  | .sequence (item :: rest) =>
      '[' :: (layout.inner.break_ ++ print layout.inner item ++
        printItems layout.inner rest ++ layout.break_ ++ [']'])
  | .table [] => ['{', '}']
  | .table (entry :: rest) =>
      '{' :: (layout.inner.break_ ++ printEntry layout.inner entry ++
        printEntries layout.inner rest ++ layout.break_ ++ ['}'])
  | .broken => []
termination_by structural document => document

/-- Write further items of a sequence, each after a comma. -/
def printItems
    (layout : Layout) :
    List Document → List Char
  | [] => []
  | item :: rest => ',' :: (layout.break_ ++ print layout item ++ printItems layout rest)
termination_by structural items => items

/-- Write further entries of a table, each after a comma. -/
def printEntries
    (layout : Layout) :
    List (Option String × Document) → List Char
  | [] => []
  | entry :: rest =>
      ',' :: (layout.break_ ++ printEntry layout entry ++ printEntries layout rest)
termination_by structural entries => entries

/-- Write a name and its value. -/
def printEntry
    (layout : Layout) :
    Option String × Document → List Char
  | (name, value) => quote (name.getD "") ++ layout.colon ++ print layout value
termination_by structural entry => entry

end

/-- The pretty text of a document. -/
def pretty (document : Document) : String :=
  String.ofList (print (.pretty 0) document)

/-- The compact text of a document. -/
def compact (document : Document) : String :=
  String.ofList (print .compact document)

end Json

end OnDemandTls
