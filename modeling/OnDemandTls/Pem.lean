import OnDemandTls.Bytes.Base64
import OnDemandTls.Text.Quoted

namespace OnDemandTls

/-!
# Armoured sections

Certificates and keys are kept as texts: sections of base64 between a line
`-----BEGIN …-----` and a line `-----END …-----`.  Text outside of sections and
sections of unknown kinds are passed over.  Reading goes on up to the first
damage, and the sections before it count.
-/

namespace Pem

/-- The kinds of sections that are read. -/
inductive Kind where
  | certificate
  | publicKey
  | rsaPrivateKey
  | privateKey
  | ecPrivateKey
  | revocationList
  | certificateRequest
  deriving DecidableEq, Repr

namespace Kind

/-- The label of a kind. -/
def label : Kind → String
  | certificate => "CERTIFICATE"
  | publicKey => "PUBLIC KEY"
  | rsaPrivateKey => "RSA PRIVATE KEY"
  | privateKey => "PRIVATE KEY"
  | ecPrivateKey => "EC PRIVATE KEY"
  | revocationList => "X509 CRL"
  | certificateRequest => "CERTIFICATE REQUEST"

/-- All kinds. -/
def all : List Kind :=
  [ certificate, publicKey, rsaPrivateKey, privateKey, ecPrivateKey, revocationList
  , certificateRequest ]

/-- The kind of a label. -/
def ofLabel? (label : List Char) : Option Kind :=
  all.find? (fun kind => kind.label.toList == label)

/-- Whether sections of a kind hold private keys. -/
def isPrivateKey : Kind → Bool
  | rsaPrivateKey => true
  | privateKey => true
  | ecPrivateKey => true
  | _ => false

end Kind

/-- What a section holds. -/
structure Section where
  kind : Kind
  content : Bytes
  deriving DecidableEq, Repr

/-- What is wrong with an armoured text. -/
inductive Damage where
  /-- A first line does not end in five dashes. -/
  | malformedStart (line : String)
  /-- A section has no last line. -/
  | unfinished (lastLine : String)
  /-- The content of a section is no base64. -/
  | malformedContent
  deriving DecidableEq, Repr

/-- The text of a damage. -/
def Damage.message : Damage → String
  | malformedStart line => "illegal section start: " ++ Text.quoted line
  | unfinished lastLine => "section end " ++ Text.quoted lastLine ++ " missing"
  | malformedContent => "invalid base64"

/-- The sections of a text up to the first damage. -/
structure Reading where
  sections : List Section
  damage : Option Damage

/-- The lines of a text; a line ends at a line feed or a carriage return. -/
def lines : List Char → List (List Char)
  | [] => []
  | c :: rest =>
      if c = '\n' ∨ c = '\r' then
        [] :: lines rest
      else
        match lines rest with
        | [] => [[c]]
        | line :: more => (c :: line) :: more

/-- What first lines begin with. -/
def beginMark : List Char := "-----BEGIN ".toList

/-- The last line of a section. -/
def endLine (label : List Char) : List Char :=
  "-----END ".toList ++ label ++ "-----".toList

/-- The label of a first line: what stands before its last five dashes, between
which there may be spaces. -/
def label? (line : List Char) : Option (List Char) :=
  let isTrailer := fun (c : Char) => c == '-' || c == ' '
  let trailer := line.reverse.takeWhile isTrailer
  if trailer.count '-' = 5 then
    let dashes := (trailer.reverse.dropWhile (· == ' '))
    some ((line.take (line.length - dashes.length)).drop beginMark.length)
  else
    none

/-- Read on: `label` is the label of the section that the lines belong to, and
`digits` is what has been read of its content. -/
def readLines :
    List (List Char) → Option (List Char) → List Char → Reading
  | [], none, _ => ⟨[], none⟩
  | [], some label, _ => ⟨[], some (.unfinished (String.ofList (endLine label)))⟩
  | line :: rest, label, digits =>
      if beginMark.isPrefixOf line then
        match label? line with
        | some label => readLines rest (some label) digits
        | none => ⟨[], some (.malformedStart (String.ofList line))⟩
      else
        match label with
        | none => readLines rest none digits
        | some label =>
            if (endLine label).isPrefixOf line then
              match Kind.ofLabel? label with
              | none => readLines rest none []
              | some kind =>
                  match Base64.decodeLoose? .standard digits with
                  | none => ⟨[], some .malformedContent⟩
                  | some content =>
                      let reading := readLines rest none []
                      { reading with sections := ⟨kind, content⟩ :: reading.sections }
            else
              readLines rest (some label) (digits ++ line)

/-- Read the sections of a text. -/
def read (text : String) : Reading :=
  readLines (lines text.toList) none []

/-- The certificates of a text that is not damaged. -/
def certificates (text : String) : Except Damage (List Bytes) :=
  let reading := read text
  match reading.damage with
  | some damage => .error damage
  | none =>
      .ok ((reading.sections.filter (fun s => s.kind == .certificate)).map (·.content))

/-- The first private key of a text; damage after it does not matter. -/
def privateKey? (text : String) : Except Damage (Option Section) :=
  let reading := read text
  match reading.sections.find? (fun s => s.kind.isPrivateKey), reading.damage with
  | some key, _ => .ok (some key)
  | none, some damage => .error damage
  | none, none => .ok none

/-- Cut a text into pieces of a length; the last one may be shorter. -/
def chunks
    (length : Nat)
    (cs : List Char) :
    List (List Char) :=
  go cs.length cs
where
  /-- Cut with a bound on the number of pieces. -/
  go : Nat → List Char → List (List Char)
    | 0, _ => []
    | _ + 1, [] => []
    | bound + 1, cs => cs.take length :: go bound (cs.drop length)

/-- How many digits a line of an armoured text has. -/
def lineLength : Nat := 64

/-- The text of a section. -/
def write (s : Section) : String :=
  let label := s.kind.label
  "-----BEGIN " ++ label ++ "-----\n" ++
    String.ofList
      ((chunks lineLength (Base64.padded .standard s.content)).flatMap (fun line => line ++ ['\n'])) ++
    "-----END " ++ label ++ "-----\n"

/-- The text of a certificate. -/
def writeCertificate (content : Bytes) : String :=
  write ⟨.certificate, content⟩

end Pem

end OnDemandTls
