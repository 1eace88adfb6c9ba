import OnDemandTls.Calendar
import OnDemandTls.Certificate.Basic

namespace OnDemandTls

/-!
# Reading certificates

A certificate is a signed sequence of fields.  The signature and the key are
passed over; everything else has to have its form.
-/

namespace Certificate

open Der

/-- Read an instant in one of its two forms. -/
def readInstant? (element : Element) : Option Int :=
  if element.tag = utcTimeTag then
    (Calendar.readShort? element.content).map (·.seconds)
  else if element.tag = generalizedTimeTag then
    (Calendar.readLong? element.content).map (·.seconds)
  else
    none

/-- Read one attribute of a name. -/
def readAttribute? (element : Element) : Option NameAttribute := do
  match ← element.children? sequenceTag with
  | [identifier, value] => return ⟨← identifier.content? identifierTag, value⟩
  | _ => none

/-- Read the attributes of an issuer or a subject. -/
def readName? (element : Element) : Option (List NameAttribute) := do
  let groups ← element.children? sequenceTag
  let attributes ← groups.mapM (fun group => do (← group.children? setTag).mapM readAttribute?)
  return attributes.flatten

/-- Read the instants between which a certificate is valid. -/
def readValidity? (element : Element) : Option (Int × Int) := do
  match ← element.children? sequenceTag with
  | [notBefore, notAfter] => return (← readInstant? notBefore, ← readInstant? notAfter)
  | _ => none

/-- Read one extension. -/
def readExtension? (element : Element) : Option CertificateExtension := do
  match ← element.children? sequenceTag with
  | [identifier, value] =>
      return ⟨← identifier.content? identifierTag, false, ← value.content? octetStringTag⟩
  | [identifier, critical, value] =>
      let flag ← critical.content? booleanTag
      return ⟨← identifier.content? identifierTag, flag != [0], ← value.content? octetStringTag⟩
  | _ => none

/-- Read the fields that follow the key. -/
def readExtensions? : List Element → Option (List CertificateExtension)
  | [] => some []
  | field :: rest =>
      if field.tag = numberedTag 3 then do
        match ← readAll? field.content with
        | [list] => (← list.children? sequenceTag).mapM readExtension?
        | _ => none
      else
        readExtensions? rest

/-- Read the fields of a certificate, without its version. -/
def readFields? : List Element → Option Certificate
  | serial :: algorithm :: issuer :: validity :: subject :: key :: rest => do
      let _ ← serial.content? integerTag
      let _ ← algorithm.children? sequenceTag
      let _ ← key.children? sequenceTag
      let (notBefore, notAfter) ← readValidity? validity
      return {
        issuer := ← readName? issuer
        subject := ← readName? subject
        notBefore := notBefore
        notAfter := notAfter
        extensions := ← readExtensions? rest }
  | _ => none

/-- Read a certificate; bytes after it are passed over. -/
def read? (bytes : Bytes) : Option Certificate := do
  let (outer, _) ← Der.read? bytes
  match ← outer.children? sequenceTag with
  | signed :: algorithm :: signature :: _ =>
      let _ ← algorithm.children? sequenceTag
      let _ ← signature.content? bitStringTag
      match ← signed.children? sequenceTag with
      | [] => none
      | first :: rest =>
          if first.tag = numberedTag 0 then readFields? rest else readFields? (first :: rest)
  | _ => none

end Certificate

end OnDemandTls
