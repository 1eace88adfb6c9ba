import OnDemandTls.Bytes.Base64
import OnDemandTls.Json.Reader

namespace OnDemandTls

/-!
# Names of certificates

A certificate is for host names and for network addresses.  A text that spells
an address, in one of the two customary ways, is an address; any other text of
ASCII characters is taken for a host name.
-/

/-- What a certificate is for. -/
inductive SubjectName where
  | host (name : String)
  | address (bytes : Bytes)
  deriving DecidableEq, Repr

namespace SubjectName

/-- Cut a text at every copy of a character. -/
def splitAt
    (mark : Char) :
    List Char → List (List Char)
  | [] => [[]]
  | c :: rest =>
      if c = mark then
        [] :: splitAt mark rest
      else
        match splitAt mark rest with
        | [] => [[c]]
        | part :: more => (c :: part) :: more

/-- A decimal number below 256, without leading zeros. -/
def octet? (cs : List Char) : Option UInt8 :=
  let value := cs.foldl (fun n c => n * 10 + (c.toNat - 48)) 0
  if cs.all Char.isDigit && 1 ≤ cs.length && cs.length ≤ 3 &&
      (cs.length == 1 || cs.head? != some '0') && value < 256 then
    some (UInt8.ofNat value)
  else
    none

/-- The four bytes of an address in decimal numbers. -/
def decimalAddress? (cs : List Char) : Option Bytes :=
  let parts := splitAt '.' cs
  if parts.length = 4 then parts.mapM octet? else none

/-- The two bytes of a hexadecimal number of one to four digits. -/
def group? (cs : List Char) : Option Bytes :=
  if 1 ≤ cs.length ∧ cs.length ≤ 4 then
    (cs.mapM Json.hexValue?).map fun digits =>
      let value := digits.foldl (fun n digit => n * 16 + digit) 0
      [UInt8.ofNat (value / 256), UInt8.ofNat value]
  else
    none

/-- The bytes of hexadecimal numbers; the last part may be a decimal address. -/
def groups?
    (mayEndDecimal : Bool) :
    List (List Char) → Option Bytes
  | [] => some []
  | [last] =>
      match group? last with
      | some bytes => some bytes
      | none => if mayEndDecimal then decimalAddress? last else none
  | part :: rest => do
      let bytes ← group? part
      let more ← groups? mayEndDecimal rest
      return bytes ++ more

/-- The bytes of the hexadecimal numbers in a text, which may be empty. -/
def side?
    (mayEndDecimal : Bool)
    (cs : List Char) :
    Option Bytes :=
  if cs = [] then some [] else groups? mayEndDecimal (splitAt ':' cs)

/-- Cut a text at its first double colon. -/
def splitAtGap? : List Char → Option (List Char × List Char)
  | [] => none
  | ':' :: ':' :: rest => some ([], rest)
  | c :: rest => (splitAtGap? rest).map (fun (before, after) => (c :: before, after))

/-- The sixteen bytes of an address in hexadecimal numbers; a double colon
stands for one or more zero numbers. -/
def hexadecimalAddress? (cs : List Char) : Option Bytes :=
  match splitAtGap? cs with
  | none =>
      match groups? true (splitAt ':' cs) with
      | some bytes => if bytes.length = 16 then some bytes else none
      | none => none
  | some (before, after) =>
      match side? false before, side? true after with
      | some front, some back =>
          let known := front.length + back.length
          if known ≤ 14 then
            some (front ++ List.replicate (16 - known) 0 ++ back)
          else
            none
      | _, _ => none

/-- The bytes of an address. -/
def address? (name : String) : Option Bytes :=
  match decimalAddress? name.toList with
  | some bytes => some bytes
  | none => hexadecimalAddress? name.toList

/-- What a certificate for a text is for; nothing if the text has characters
beyond ASCII. -/
def ofText? (name : String) : Option SubjectName :=
  match address? name with
  | some bytes => some (.address bytes)
  | none => if name.toList.all (fun c => c.toNat < 128) then some (.host name) else none

end SubjectName

end OnDemandTls
