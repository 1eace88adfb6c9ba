import OnDemandTls.Json.Reader

namespace OnDemandTls

/-!
# Blanks, comments, strings and keys of TOML texts

Every reader takes the characters at a place and gives a value with the
characters after it, or nothing where the text breaks the grammar.  Line ends
are a line feed, alone or after a carriage return, and are read as a line feed.
-/

namespace Toml

/-- Reads a value at the start of a text. -/
abbrev Scan (α : Type) := List Char → Option (α × List Char)

/-- Blanks within a line. -/
def isBlank (c : Char) : Bool :=
  c == ' ' || c == '\t'

/-- A text without its leading blanks. -/
def skipBlanks (cs : List Char) : List Char :=
  cs.dropWhile isBlank

/-- Characters that may stand in a comment or a literal string. -/
def isPlain (c : Char) : Bool :=
  c == '\t' || (0x20 ≤ c.toNat && c != '\x7f')

/-- Skip a comment, if one follows. -/
def skipComment (cs : List Char) : List Char :=
  match cs with
  | '#' :: rest => rest.dropWhile isPlain
  | _ => cs

/-- Read a line end. -/
def lineEnd? : List Char → Option (List Char)
  | '\n' :: rest => some rest
  | '\r' :: '\n' :: rest => some rest
  | _ => none

/-- Skip what may follow a statement on its line, up to the start of the next
line. -/
def endOfStatement? (cs : List Char) : Option (List Char) :=
  match skipComment (skipBlanks cs) with
  | [] => some []
  | cs => lineEnd? cs

/-- Skip blanks, comments and line ends; `fuel` bounds the number of lines. -/
def skipLines
    (fuel : Nat)
    (cs : List Char) :
    List Char :=
  let cs := skipComment (skipBlanks cs)
  match fuel, lineEnd? cs with
  | fuel + 1, some rest => skipLines fuel rest
  | _, _ => cs

/-- The number that hexadecimal digits spell. -/
def ofHex? (digits : List Char) : Option Nat :=
  digits.foldl
    (fun value digit => do
      let value ← value
      let digit ← Json.hexValue? digit
      return 16 * value + digit)
    (some 0)

/-- The character of a number, unless it is half of a pair or too large. -/
def character? (value : Nat) : Option Char :=
  if value.isValidChar then some (Char.ofNat value) else none

/-- Read the letters of an escape after its backslash. -/
def readEscape? (cs : List Char) : Option (Char × List Char) :=
  match cs with
  | 'b' :: rest => some ('\x08', rest)
  | 't' :: rest => some ('\t', rest)
  | 'n' :: rest => some ('\n', rest)
  | 'f' :: rest => some ('\x0c', rest)
  | 'r' :: rest => some ('\r', rest)
  | '"' :: rest => some ('"', rest)
  | '\\' :: rest => some ('\\', rest)
  | 'u' :: rest => numbered 4 rest
  | 'U' :: rest => numbered 8 rest
  | _ => none
where
  numbered (count : Nat) (cs : List Char) : Option (Char × List Char) := do
    let digits := cs.take count
    if digits.length = count then
      let value ← ofHex? digits
      let c ← character? value
      return (c, cs.drop count)
    else
      none

/-- Put a character in front of a text that has been read. -/
def push
    (c : Char)
    (scanned : Option (List Char × List Char)) :
    Option (List Char × List Char) :=
  scanned.map (fun (text, rest) => (c :: text, rest))

/-- Read a basic string after its opening quote. -/
def readBasic
    (fuel : Nat)
    (cs : List Char) :
    Option (List Char × List Char) :=
  match fuel, cs with
  | _, '"' :: rest => some ([], rest)
  | fuel + 1, '\\' :: rest =>
      match readEscape? rest with
      | some (c, rest) => push c (readBasic fuel rest)
      | none => none
  | fuel + 1, c :: rest => if isPlain c then push c (readBasic fuel rest) else none
  | _, _ => none

/-- Read a literal string after its opening quote. -/
def readLiteral : List Char → Option (List Char × List Char)
  | [] => none
  | '\'' :: rest => some ([], rest)
  | c :: rest => if isPlain c then push c (readLiteral rest) else none

/-- Count the quotes at the start of a text, five at most. -/
def countQuotes
    (quote : Char)
    (cs : List Char) :
    Nat :=
  ((cs.take 5).takeWhile (· == quote)).length

/-- Close a string of several lines at three or more quotes: two of them may
still belong to the text. -/
def closeQuotes?
    (quote : Char)
    (cs : List Char) :
    Option (List Char × List Char) :=
  let count := countQuotes quote cs
  if 3 ≤ count then
    some (List.replicate (count - 3) quote, cs.drop count)
  else
    none

/-- The text after a backslash at the end of a line, if only blanks follow it:
all blanks and line ends are dropped. -/
def foldLine? (cs : List Char) : Option (List Char) :=
  match lineEnd? (skipBlanks cs) with
  | some rest => some (rest.dropWhile (fun c => isBlank c || c == '\n' || c == '\r'))
  | none => none

/-- Whether every carriage return among dropped characters starts a line end. -/
def returnsPaired : List Char → Bool
  | '\r' :: '\n' :: rest => returnsPaired rest
  | '\r' :: _ => false
  | '\n' :: rest => returnsPaired rest
  | ' ' :: rest => returnsPaired rest
  | '\t' :: rest => returnsPaired rest
  | _ => true

/-- Read a basic string of several lines after its opening quotes. -/
def readLongBasic
    (fuel : Nat)
    (cs : List Char) :
    Option (List Char × List Char) :=
  match fuel with
  | 0 => none
  | fuel + 1 =>
      match closeQuotes? '"' cs with
      | some closed => some closed
      | none =>
          match cs with
          | [] => none
          | '\\' :: rest =>
              match foldLine? rest with
              | some folded =>
                  if returnsPaired (skipBlanks rest) then
                    readLongBasic fuel folded
                  else
                    none
              | none =>
                  match readEscape? rest with
                  | some (c, rest) => push c (readLongBasic fuel rest)
                  | none => none
          | c :: rest =>
              match lineEnd? cs with
              | some rest => push '\n' (readLongBasic fuel rest)
              | none => if isPlain c then push c (readLongBasic fuel rest) else none

/-- Read a literal string of several lines after its opening quotes. -/
def readLongLiteral
    (fuel : Nat)
    (cs : List Char) :
    Option (List Char × List Char) :=
  match fuel with
  | 0 => none
  | fuel + 1 =>
      match closeQuotes? '\'' cs with
      | some closed => some closed
      | none =>
          match cs with
          | [] => none
          | c :: rest =>
              match lineEnd? cs with
              | some rest => push '\n' (readLongLiteral fuel rest)
              | none => if isPlain c then push c (readLongLiteral fuel rest) else none

/-- A text without a line end at its start. -/
def dropLineEnd (cs : List Char) : List Char :=
  (lineEnd? cs).getD cs

/-- Read a string of any kind. -/
def readString? (cs : List Char) : Option (List Char × List Char) :=
  match cs with
  | '"' :: '"' :: '"' :: rest => readLongBasic (rest.length + 1) (dropLineEnd rest)
  | '\'' :: '\'' :: '\'' :: rest => readLongLiteral (rest.length + 1) (dropLineEnd rest)
  | '"' :: rest => readBasic (rest.length + 1) rest
  | '\'' :: rest => readLiteral rest
  | _ => none

/-- Characters of a key that needs no quotes. -/
def isBare (c : Char) : Bool :=
  c.isAlphanum || c == '_' || c == '-'

/-- Read one part of a key. -/
def readKeyPart? (cs : List Char) : Option (String × List Char) :=
  match cs with
  | '"' :: rest => (readBasic (rest.length + 1) rest).map (fun (text, rest) => (String.ofList text, rest))
  | '\'' :: rest => (readLiteral rest).map (fun (text, rest) => (String.ofList text, rest))
  | _ =>
      match cs.takeWhile isBare with
      | [] => none
      | bare => some (String.ofList bare, cs.dropWhile isBare)

/-- Read the parts of a key after its first part. -/
def readMoreParts?
    (fuel : Nat)
    (cs : List Char) :
    Option (List String × List Char) :=
  match fuel, skipBlanks cs with
  | fuel + 1, '.' :: rest => do
      let (part, rest) ← readKeyPart? (skipBlanks rest)
      let (parts, rest) ← readMoreParts? fuel rest
      return (part :: parts, rest)
  | _, rest => some ([], rest)

/-- Read a key with its blanks: parts separated by dots. -/
def readKey? (cs : List Char) : Option (List String × List Char) := do
  let (part, rest) ← readKeyPart? (skipBlanks cs)
  let (parts, rest) ← readMoreParts? rest.length rest
  return (part :: parts, rest)

end Toml

end OnDemandTls
