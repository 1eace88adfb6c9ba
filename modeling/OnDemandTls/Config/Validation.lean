import OnDemandTls.Config.Document
import OnDemandTls.FileTree

namespace OnDemandTls

/-!
# Validating and loading configurations

Validation puts the main domain in normal form and refuses settings with which
the gateway cannot work.  Loading takes a named file, the file of the user, or
the defaults, and picks the notation by the extension of the file.
-/

/-- Why a configuration cannot be used. -/
inductive ConfigError where
  | noMainDomain
  | termsOrProviderMissing
  | bindingIncomplete
  | intervalNotPositive
  | unreadableFile (path : String) (error : OsError)
  | unknownFormat (extension : String)
  | invalidJson (error : DecodeError)
  | invalidToml (error : DecodeError)
  deriving DecidableEq, Repr

namespace ConfigError

/-- The text of an error; `damaged` stands for the words about a damaged text. -/
def reason
    (damaged : String) :
    ConfigError → String
  | noMainDomain => "no main domain set (PAGES_DOMAIN)"
  | termsOrProviderMissing =>
      "you must set acme.accept_terms and acme.dns_provider, unless api_endpoint is set to " ++
        AcmeDirectory.mock
  | bindingIncomplete => "acme.eab_hmac and acme.eab_kid must be set together"
  | intervalNotPositive => "maintenance.interval_secs must be positive"
  | unreadableFile path error => "Failed to read config file " ++ path ++ ": " ++ error.message
  | unknownFormat extension => "Unknown config format: " ++ extension
  | invalidJson error => "Invalid JSON: " ++ error.message.getD damaged
  | invalidToml error => "Invalid TOML: " ++ error.message.getD damaged

/-- The text of an error as it is reported. -/
def message
    (damaged : String)
    (error : ConfigError) :
    String :=
  "Configuration error: " ++ error.reason damaged

end ConfigError

namespace Config

/-- Put the main domain in normal form. -/
def normalize (config : Config) : Except ConfigError Config :=
  let main := HostName.mainDomain config.server.mainDomain
  if main = "" then
    .error .noMainDomain
  else
    .ok { config with server := { config.server with mainDomain := main } }

/-- Check everything but the main domain. -/
def check (config : Config) : Except ConfigError Unit := do
  let acme := config.acme
  if acme.apiEndpoint ≠ AcmeDirectory.mock ∧ (!acme.acceptTerms ∨ acme.dnsProvider = none) then
    throw .termsOrProviderMissing
  if (AcmeSettings.filled acme.eabHmac).isSome ≠ (AcmeSettings.filled acme.eabKid).isSome then
    throw .bindingIncomplete
  if config.maintenance.intervalSecs = 0 then
    throw .intervalNotPositive

/-- Validate a configuration: its main domain is put in normal form first. -/
def validate (config : Config) : Except ConfigError Config := do
  let config ← config.normalize
  config.check
  return config

/-- The configuration that validation leaves behind, also where it fails. -/
def settled (config : Config) : Config :=
  match config.normalize with
  | .ok config => config
  | .error _ => config

/-- Load a configuration file; the extension tells its notation. -/
def load
    (tree : FileTree)
    (path : String) :
    Except ConfigError Config :=
  match tree.readText path with
  | .error error => .error (.unreadableFile path error)
  | .ok content =>
      let extension := FileTree.extension path
      if extension = "json" then
        (ofJson content).mapError .invalidJson
      else if extension = "toml" ∨ extension = "" then
        (ofToml content).mapError .invalidToml
      else
        .error (.unknownFormat extension)

/-- The configuration file of a user, given the home directory and the
configuration directory of the environment, which counts only if it is an
absolute path. -/
def defaultPath
    (home : String)
    (configHome : Option String) :
    String :=
  let directory :=
    (configHome.filter FileTree.isAbsolute).getD (FileTree.within home ".config")
  FileTree.within directory "pagesgate/config.toml"

/-- Load the given file, else the file of the user, else the defaults. -/
def loadOrDefault
    (tree : FileTree)
    (userPath : String)
    (path : Option String) :
    Except ConfigError Config :=
  match path with
  | some path => load tree path
  | none => if tree.reaches userPath then load tree userPath else .ok {}

end Config

end OnDemandTls
