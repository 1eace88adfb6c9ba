import OnDemandTls.Document

namespace OnDemandTls

/-!
# Lenient documents

A lenient reader takes what it understands: a member that is missing, or of
another type than the one that is asked for, counts as empty.
-/

namespace Document

/-- The member of a name; `null` if there is none. -/
def member
    (document : Document)
    (name : String) :
    Document :=
  (document.get? name).getD .null

/-- Whether there is a member of a name that says something. -/
def has
    (document : Document)
    (name : String) :
    Bool :=
  match document.member name with
  | .null => false
  | _ => true

/-- What a member says, if there is one. -/
def memberAs?
    {α : Type}
    (read : Document → α)
    (document : Document)
    (name : String) :
    Option α :=
  if document.has name then some (read (document.member name)) else none

/-- A text; nothing in place of anything else. -/
def asText? : Document → Option String
  | .text (some value) => some value
  | _ => none

/-- The text under a name. -/
def textAt?
    (document : Document)
    (name : String) :
    Option String :=
  (document.member name).asText?

/-- The text under a name, or the empty text. -/
def textAt
    (document : Document)
    (name : String) :
    String :=
  (document.textAt? name).getD ""

/-- The truth value under a name. -/
def flagAt?
    (document : Document)
    (name : String) :
    Option Bool :=
  match document.member name with
  | .boolean value => some value
  | _ => none

/-- The truth value under a name, or false. -/
def flagAt
    (document : Document)
    (name : String) :
    Bool :=
  (document.flagAt? name).getD false

/-- An integer; nothing in place of anything else. -/
def asInteger? : Document → Option Int
  | .number (some (.integer value)) => some value
  | _ => none

/-- The integer under a name. -/
def integerAt?
    (document : Document)
    (name : String) :
    Option Int :=
  (document.member name).asInteger?

/-- The integer under a name, or zero. -/
def integerAt
    (document : Document)
    (name : String) :
    Int :=
  (document.integerAt? name).getD 0

/-- The natural number under a name, or zero. -/
def naturalAt
    (document : Document)
    (name : String) :
    Nat :=
  (document.integerAt name).toNat

/-- The items under a name, or none. -/
def itemsAt
    (document : Document)
    (name : String) :
    List Document :=
  match document.member name with
  | .sequence items => items
  | _ => []

/-- The texts under a name; what is no text counts as empty. -/
def textsAt
    (document : Document)
    (name : String) :
    List String :=
  (document.itemsAt name).map (fun item => item.asText?.getD "")

/-- The document of a count. -/
def count (n : Nat) : Document :=
  .integer n

/-- The document of texts. -/
def texts (items : List String) : Document :=
  .sequence (items.map .string)

/-- The document of a failure: its kind and its words. -/
def failure (kind words : String) : Document :=
  .record [("error", .string kind), ("message", .string words)]

/-- The document of what came of an attempt. -/
def result
    {ε α : Type}
    (write : α → Document)
    (writeError : ε → Document) :
    Except ε α → Document
  | .ok value => write value
  | .error error => writeError error

end Document

end OnDemandTls
