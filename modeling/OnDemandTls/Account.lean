import OnDemandTls.Acme.Failure
import OnDemandTls.Bytes.Sha256
import OnDemandTls.Certificate.PrivateKey
import OnDemandTls.Config.Basic
import OnDemandTls.Document.Decoding
import OnDemandTls.FileTree
import OnDemandTls.Json.Printer
import OnDemandTls.Json.Reader

namespace OnDemandTls

/-!
# Accounts

A gateway registers once at its authority and keeps what it is given in a file,
which later starts read.  A registration that cannot be kept is not repeated:
the gateway parks, since every further attempt would register anew.
-/

/-- Where an authority takes requests. -/
structure AcmeEndpoints where
  newNonce : String := ""
  newAccount : String := ""
  newOrder : String := ""
  newAuthorization : Option String := none
  revokeCertificate : Option String := none
  keyChange : Option String := none
  renewalInfo : Option String := none
  deriving DecidableEq, Repr

/-- What an account is used with. -/
structure AccountCredentials where
  id : String := ""
  /-- The private key as base64 text. -/
  key : String := ""
  /-- Where the endpoints are listed. -/
  directory : Option String := none
  endpoints : Option AcmeEndpoints := none
  deriving DecidableEq, Repr

/-- What is kept of an account. -/
structure AccountArtifact where
  email : String := ""
  credentials : AccountCredentials := {}
  /-- The second of the registration. -/
  createdAt : Int := 0
  deriving DecidableEq, Repr

/-- An account that can be used. -/
structure AcmeAccount where
  id : String
  /-- What stands for its key in the answers to challenges. -/
  thumbprint : String
  deriving DecidableEq, Repr

/-- Why there is no account. -/
inductive AccountError where
  | io (error : OsError)
  /-- What is kept of the account cannot be read. -/
  | corrupt (error : DecodeError)
  | acme (fault : ProtocolFault)
  /-- The key of the external account binding cannot be read. -/
  | invalidBinding
  deriving DecidableEq, Repr

namespace AccountError

/-- The text of an error with given words about a damaged document. -/
def message
    (damagedWords : String) :
    AccountError → String
  | io error => "💥 IO error: " ++ error.message
  | corrupt error => "📦 Corrupt account artifact: " ++ error.message.getD damagedWords
  | acme fault => "🔴 ACME account error: " ++ fault.message
  | invalidBinding => "🔑 Invalid external account binding: malformed key"

end AccountError

/-! ## Documents -/

namespace AcmeEndpoints

/-- The answers of a directory that say nothing about its endpoints. -/
def metaShape : RecordShape Unit where
  title := "DirectoryMeta"
  blank := ()
  fields := [.defaulted "profiles" (Reader.catalog Reader.string) (fun _ _ => ())]

/-- How endpoints are read. -/
def shape : RecordShape AcmeEndpoints where
  title := "Directory"
  blank := {}
  fields :=
    [ .needed "newNonce" Reader.string (fun value urls => { urls with newNonce := value })
    , .needed "newAccount" Reader.string (fun value urls => { urls with newAccount := value })
    , .needed "newOrder" Reader.string (fun value urls => { urls with newOrder := value })
    , .defaulted "newAuthz" (Reader.optional Reader.string)
        (fun value urls => { urls with newAuthorization := value })
    , .defaulted "revokeCert" (Reader.optional Reader.string)
        (fun value urls => { urls with revokeCertificate := value })
    , .defaulted "keyChange" (Reader.optional Reader.string)
        (fun value urls => { urls with keyChange := value })
    , .defaulted "renewalInfo" (Reader.optional Reader.string)
        (fun value urls => { urls with renewalInfo := value })
    , .defaulted "meta" metaShape.read (fun _ urls => urls) ]

end AcmeEndpoints

namespace AccountCredentials

/-- How credentials are read. -/
def shape : RecordShape AccountCredentials where
  title := "AccountCredentials"
  blank := {}
  fields :=
    [ .needed "id" Reader.string (fun value credentials => { credentials with id := value })
    , .needed "key_pkcs8" (Reader.text "a base64-encoded PKCS#8 private key")
        (fun value credentials => { credentials with key := value })
    , .defaulted "directory" (Reader.optional Reader.string)
        (fun value credentials => { credentials with directory := value })
    , .defaulted "urls" (Reader.optional AcmeEndpoints.shape.read)
        (fun value credentials => { credentials with endpoints := value }) ]

/-- The document of credentials; endpoints are not kept. -/
def toDocument (credentials : AccountCredentials) : Document :=
  .record
    [ ("id", .string credentials.id)
    , ("key_pkcs8", .string credentials.key)
    , ("directory", .optional .string credentials.directory) ]

/-- The point of the key, if it is one that accounts have. -/
def point? (credentials : AccountCredentials) : Option Bytes := do
  let wrapped ← PrivateKey.readWrapped? (← Base64.decode? .url credentials.key.toList)
  if PrivateKey.isWrappedOn .p256 wrapped then
    PrivateKey.point? .p256 wrapped.key
  else
    none

/-- The thumbprint of the key with a point: a digest of the one text that writes
the two coordinates. -/
def thumbprint (point : Bytes) : String :=
  let coordinate (bytes : Bytes) := String.ofList (Base64.digits .url bytes)
  let coordinates := point.drop 1
  let key : Document :=
    .record
      [ ("crv", .string "P-256")
      , ("kty", .string "EC")
      , ("x", .string (coordinate (coordinates.take PrivateKey.Curve.p256.width)))
      , ("y", .string (coordinate (coordinates.drop PrivateKey.Curve.p256.width))) ]
  coordinate (Sha256.digest (Json.compact key).toUTF8.data.toList)

end AccountCredentials

namespace AccountArtifact

/-- How artifacts are read. -/
def shape : RecordShape AccountArtifact where
  title := "AccountArtifact"
  blank := {}
  fields :=
    [ .needed "email" Reader.string (fun value artifact => { artifact with email := value })
    , .needed "credentials" AccountCredentials.shape.read
        (fun value artifact => { artifact with credentials := value })
    , .defaulted "created_at" Reader.signed64
        (fun value artifact => { artifact with createdAt := value }) ]

/-- The document of an artifact. -/
def toDocument (artifact : AccountArtifact) : Document :=
  .record
    [ ("email", .string artifact.email)
    , ("credentials", artifact.credentials.toDocument)
    , ("created_at", .integer artifact.createdAt) ]

/-- Read an artifact from a JSON text. -/
def ofJson (text : String) : Except DecodeError AccountArtifact :=
  (Json.read text).decode .json shape.read

end AccountArtifact

/-! ## Registration -/

/-- A binding to an account outside: its number and the key that proves it. -/
structure AccountBinding where
  keyId : String
  key : Bytes
  deriving DecidableEq, Repr

/-- What an authority is asked to register. -/
structure Registration where
  directory : String
  contact : Option String
  termsAccepted : Bool
  binding : Option AccountBinding
  deriving DecidableEq, Repr

/-- The side of an authority that looks after accounts. -/
structure AccountService where
  /-- Whether the endpoints of a directory can be asked for. -/
  reach : String → Except ProtocolFault Unit
  register : Registration → Except ProtocolFault AccountCredentials

namespace AccountService

/-- A service to which there is no way. -/
def unreachable : AccountService where
  reach := fun _ => .error .unreachable
  register := fun _ => .error .unreachable

end AccountService

/-- What comes of setting up an account. -/
inductive AccountOutcome where
  | ready (account : AcmeAccount)
  | failed (error : AccountError)
  /-- The account is registered, but could not be kept. -/
  | parked
  deriving DecidableEq, Repr

namespace AcmeAccount

/-- The key of an external account binding: base64 text for addresses, with or
without padding, between blanks. -/
def bindingKey? (text : String) : Option Bytes :=
  Base64.decode? .url (Text.dropEndWhile (· == '=') (Text.trim text.toList))

/-- What some settings ask an authority to register. -/
def registration (settings : AcmeSettings) : Except AccountError Registration :=
  let request : Registration :=
    { directory := settings.apiEndpoint
      contact := if settings.email = "" then none else some ("mailto:" ++ settings.email)
      termsAccepted := settings.acceptTerms
      binding := none }
  match settings.eab with
  | none => .ok request
  | some (keyId, text) =>
      match bindingKey? text with
      | none => .error .invalidBinding
      | some key => .ok { request with binding := some ⟨keyId, key⟩ }

/-- Use the account of some credentials. -/
def ofCredentials
    (service : AccountService)
    (credentials : AccountCredentials) :
    Except ProtocolFault AcmeAccount := do
  match credentials.point? with
  | none => throw .unusableKey
  | some point =>
      match credentials.directory, credentials.endpoints with
      | some directory, _ => service.reach directory
      | none, some _ => pure ()
      | none, none => throw (.missingData "no server URLs found")
      return ⟨credentials.id, AccountCredentials.thumbprint point⟩

/-- Keep an artifact in a file that nobody else reads. -/
def keep
    (tree : FileTree)
    (path : String)
    (artifact : AccountArtifact) :
    Except OsError FileTree := do
  let tree ← tree.makeDirectories (FileTree.parent path)
  let written ← tree.write path (Json.pretty artifact.toDocument)
  return written.setMode path 0o600

/-- Register an account and keep it. -/
def register
    (service : AccountService)
    (settings : AcmeSettings)
    (now : Int)
    (tree : FileTree) :
    AccountOutcome × FileTree :=
  match registration settings with
  | .error error => (.failed error, tree)
  | .ok request =>
      match service.register request with
      | .error fault => (.failed (.acme fault), tree)
      | .ok credentials =>
          let artifact : AccountArtifact :=
            { email := settings.email, credentials := credentials, createdAt := now }
          match keep tree settings.accountConfigFile artifact, credentials.point? with
          | .error _, _ => (.parked, tree)
          | .ok tree, none => (.failed (.acme .unusableKey), tree)
          | .ok tree, some point =>
              (.ready ⟨credentials.id, AccountCredentials.thumbprint point⟩, tree)

/-- Use the account that is kept in a file, or register one. -/
def loadOrRegister
    (service : AccountService)
    (settings : AcmeSettings)
    (now : Int)
    (tree : FileTree) :
    AccountOutcome × FileTree :=
  match tree.readText settings.accountConfigFile with
  | .error .notFound => register service settings now tree
  | .error error => (.failed (.io error), tree)
  | .ok text =>
      match AccountArtifact.ofJson text with
      | .error error => (.failed (.corrupt error), tree)
      | .ok artifact =>
          match ofCredentials service artifact.credentials with
          | .error fault => (.failed (.acme fault), tree)
          | .ok account => (.ready account, tree)

end AcmeAccount

end OnDemandTls
