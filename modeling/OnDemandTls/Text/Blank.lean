namespace OnDemandTls

/-!
# Blank characters and trimming

Texts are handled as lists of characters.  Blank characters are the ones with
the Unicode property `White_Space`; trimming removes them from both ends of a
text and from nowhere else.
-/

namespace Text

/-- Whether a character has the Unicode property `White_Space`. -/
def isBlank (c : Char) : Bool :=
  let n := c.toNat
  (9 ≤ n && n ≤ 13) || n == 32 || n == 0x85 || n == 0xA0 || n == 0x1680 ||
    (0x2000 ≤ n && n ≤ 0x200A) || n == 0x2028 || n == 0x2029 || n == 0x202F ||
    n == 0x205F || n == 0x3000

/-- A text without its last characters that satisfy a test. -/
def dropEndWhile
    (test : Char → Bool)
    (cs : List Char) :
    List Char :=
  (cs.reverse.dropWhile test).reverse

/-- A text without the blanks at its two ends. -/
def trim (cs : List Char) : List Char :=
  dropEndWhile isBlank (cs.dropWhile isBlank)

/-- A text in lower case, where only the letters `A` to `Z` have a lower case. -/
def lower (cs : List Char) : List Char :=
  cs.map Char.toLower

/-- A text without the first copy of a given beginning, if it begins so. -/
def stripStart?
    (start : List Char)
    (cs : List Char) :
    Option (List Char) :=
  if start.isPrefixOf cs then some (cs.drop start.length) else none

end Text

end OnDemandTls
