import OnDemandTls.Json.Number

namespace OnDemandTls

/-!
# Reading JSON texts

`read` turns a text into a document and never fails: a text that is no JSON
text gives a document with `broken` at the place where reading stops.  What
stands before that place can still be used, which is what lets a fault in an
early value win over damage in a later one.
-/

namespace Json

/-- Blanks between the tokens of a JSON text. -/
def isSpace (c : Char) : Bool :=
  c == ' ' || c == '\n' || c == '\t' || c == '\r'

/-- A text without its leading blanks. -/
def skipSpace (cs : List Char) : List Char :=
  cs.dropWhile isSpace

/-- The value of a hexadecimal digit. -/
def hexValue? (c : Char) : Option Nat :=
  if '0' ≤ c ∧ c ≤ '9' then
    some (c.toNat - '0'.toNat)
  else if 'a' ≤ c ∧ c ≤ 'f' then
    some (c.toNat - 'a'.toNat + 10)
  else if 'A' ≤ c ∧ c ≤ 'F' then
    some (c.toNat - 'A'.toNat + 10)
  else
    none

/-- The 16-bit unit that four hexadecimal digits spell. -/
def unit?
    (a b c d : Char) :
    Option Nat := do
  let a ← hexValue? a
  let b ← hexValue? b
  let c ← hexValue? c
  let d ← hexValue? d
  return ((16 * a + b) * 16 + c) * 16 + d

/-- Whether a unit is the first half of a pair. -/
def isLeading (unit : Nat) : Bool :=
  0xD800 ≤ unit && unit < 0xDC00

/-- Whether a unit is the second half of a pair. -/
def isTrailing (unit : Nat) : Bool :=
  0xDC00 ≤ unit && unit < 0xE000

/-- The character of a pair of units. -/
def ofPair
    (leading trailing : Nat) :
    Char :=
  Char.ofNat (0x10000 + (leading - 0xD800) * 0x400 + (trailing - 0xDC00))

/-- The character that a one-letter escape stands for. -/
def escaped? : Char → Option Char
  | '"' => some '"'
  | '\\' => some '\\'
  | '/' => some '/'
  | 'b' => some '\x08'
  | 'f' => some '\x0c'
  | 'n' => some '\n'
  | 'r' => some '\r'
  | 't' => some '\t'
  | _ => none

/-- A piece of a string literal: a character, or a unit given by its number. -/
inductive Piece where
  | char (value : Char)
  | unit (value : Nat)

/-- The text that the pieces of a literal spell; nothing for a lone half of a
pair. -/
def spell? : List Piece → Option (List Char)
  | [] => some []
  | .char c :: rest => (spell? rest).map (c :: ·)
  | .unit leading :: .unit trailing :: rest =>
      if isLeading leading then
        if isTrailing trailing then
          (spell? rest).map (ofPair leading trailing :: ·)
        else
          none
      else if isTrailing leading then
        none
      else
        (spell? (.unit trailing :: rest)).map (Char.ofNat leading :: ·)
  | .unit value :: rest =>
      if isLeading value || isTrailing value then
        none
      else
        (spell? rest).map (Char.ofNat value :: ·)

/-- Put a piece in front of the pieces of a literal. -/
def pushPiece
    (piece : Piece)
    (literal : Option (List Piece × List Char)) :
    Option (List Piece × List Char) :=
  literal.map (fun (pieces, rest) => (piece :: pieces, rest))

/-- Read a string literal after its opening quote: its pieces and what follows
it; nothing if the literal is not well formed. -/
def readPieces : List Char → Option (List Piece × List Char)
  | [] => none
  | '"' :: rest => some ([], rest)
  | '\\' :: 'u' :: a :: b :: c :: d :: rest =>
      match unit? a b c d with
      | none => none
      | some value => pushPiece (.unit value) (readPieces rest)
  | '\\' :: c :: rest =>
      match escaped? c with
      | none => none
      | some meant => pushPiece (.char meant) (readPieces rest)
  | c :: rest =>
      if c.toNat < 0x20 || c == '\\' then
        none
      else
        pushPiece (.char c) (readPieces rest)

/-- Read a string literal after its opening quote: the text it spells, if it
spells one, and what follows it. -/
def readString (cs : List Char) : Option (Option String × List Char) :=
  (readPieces cs).map (fun (pieces, rest) => ((spell? pieces).map String.ofList, rest))

/-- Read a word whose first letter has been read. -/
def readWord
    (word : List Char)
    (meaning : Document)
    (cs : List Char) :
    Document × List Char :=
  if word.isPrefixOf cs then
    (meaning, cs.drop word.length)
  else
    (.broken, [])

/-- Read a number. -/
def readNumber (cs : List Char) : Document × List Char :=
  match readNumber? cs with
  | some (literal, rest) => (.number literal.value?, rest)
  | none => (.broken, [])

mutual

/-- Read one value and return what follows it.  A text of `n` characters never
needs more fuel than `2 * n + 1`. -/
def readValue
    (fuel : Nat)
    (cs : List Char) :
    Document × List Char :=
  match fuel with
  | 0 => (.broken, [])
  | fuel + 1 =>
      match skipSpace cs with
      | '{' :: rest =>
          let (entries, rest) := readFirstEntry fuel rest
          (.table entries, rest)
      | '[' :: rest =>
          let (items, rest) := readFirstItem fuel rest
          (.sequence items, rest)
      | '"' :: rest =>
          match readString rest with
          | some (spelt, rest) => (.text spelt, rest)
          | none => (.broken, [])
      | 'n' :: rest => readWord ['u', 'l', 'l'] .null rest
      | 't' :: rest => readWord ['r', 'u', 'e'] (.boolean true) rest
      | 'f' :: rest => readWord ['a', 'l', 's', 'e'] (.boolean false) rest
      | [] => (.broken, [])
      | c :: rest => readNumber (c :: rest)
termination_by structural fuel

/-- Read the items of a sequence after its opening bracket. -/
def readFirstItem
    (fuel : Nat)
    (cs : List Char) :
    List Document × List Char :=
  match fuel with
  | 0 => ([.broken], [])
  | fuel + 1 =>
      match skipSpace cs with
      | ']' :: rest => ([], rest)
      | cs =>
          let (item, rest) := readValue fuel cs
          let (items, rest) := readMoreItems fuel rest
          (item :: items, rest)
termination_by structural fuel

/-- Read the items of a sequence after one of its items. -/
def readMoreItems
    (fuel : Nat)
    (cs : List Char) :
    List Document × List Char :=
  match fuel with
  | 0 => ([.broken], [])
  | fuel + 1 =>
      match skipSpace cs with
      | ']' :: rest => ([], rest)
      | ',' :: rest =>
          let (item, rest) := readValue fuel rest
          let (items, rest) := readMoreItems fuel rest
          (item :: items, rest)
      | _ => ([.broken], [])
termination_by structural fuel

/-- Read the entries of a table after its opening brace. -/
def readFirstEntry
    (fuel : Nat)
    (cs : List Char) :
    List (Option String × Document) × List Char :=
  match fuel with
  | 0 => ([(none, .broken)], [])
  | fuel + 1 =>
      match skipSpace cs with
      | '}' :: rest => ([], rest)
      | cs => readEntry fuel cs
termination_by structural fuel

/-- Read one entry of a table and the entries after it. -/
def readEntry
    (fuel : Nat)
    (cs : List Char) :
    List (Option String × Document) × List Char :=
  match fuel with
  | 0 => ([(none, .broken)], [])
  | fuel + 1 =>
      match skipSpace cs with
      | '"' :: rest =>
          match readString rest with
          | none => ([(none, .broken)], [])
          | some (spelt, rest) =>
              match skipSpace rest with
              | ':' :: rest =>
                  let (value, rest) := readValue fuel rest
                  let (entries, rest) := readMoreEntries fuel rest
                  ((spelt, value) :: entries, rest)
              | _ => ([(spelt, .broken)], [])
      | _ => ([(none, .broken)], [])
termination_by structural fuel

/-- Read the entries of a table after one of its entries. -/
def readMoreEntries
    (fuel : Nat)
    (cs : List Char) :
    List (Option String × Document) × List Char :=
  match fuel with
  | 0 => ([(none, .broken)], [])
  | fuel + 1 =>
      match skipSpace cs with
      | '}' :: rest => ([], rest)
      | ',' :: rest => readEntry fuel rest
      | _ => ([(none, .broken)], [])
termination_by structural fuel

end

/-- Read a JSON text. -/
def read (text : String) : Reading :=
  let cs := text.toList
  let (document, rest) := readValue (2 * cs.length + 1) cs
  ⟨document, !(skipSpace rest).isEmpty⟩

end Json

end OnDemandTls
