import OnDemandTls.Config.Basic
import OnDemandTls.Document.Decoding
import OnDemandTls.Json.Reader
import OnDemandTls.Toml.Reader

namespace OnDemandTls

/-!
# Configurations as documents

The shapes by which configurations are read from JSON and TOML texts, and the
document that a configuration is written as.
-/

namespace StoreEngine

/-- The names of the engines. -/
def names : List (String × StoreEngine) :=
  [("file", file), ("memory", memory)]

/-- The name of an engine. -/
def name : StoreEngine → String
  | file => "file"
  | memory => "memory"

end StoreEngine

namespace ServerSettings

/-- How listener settings are read. -/
def shape : RecordShape ServerSettings where
  title := "ServerSettings"
  blank := {}
  fields :=
    [ .defaulted "host" Reader.string (fun value settings => { settings with host := value })
    , .defaulted "port" Reader.unsigned16 (fun value settings => { settings with port := value })
    , .defaulted "http_port" Reader.unsigned16
        (fun value settings => { settings with httpPort := value })
    , .defaulted "http_server_enabled" Reader.boolean
        (fun value settings => { settings with httpServerEnabled := value })
    , .defaulted "main_domain" Reader.string
        (fun value settings => { settings with mainDomain := value }) ]

/-- The document of listener settings. -/
def toDocument (settings : ServerSettings) : Document :=
  .record
    [ ("host", .string settings.host)
    , ("port", .integer settings.port.toNat)
    , ("http_port", .integer settings.httpPort.toNat)
    , ("http_server_enabled", .boolean settings.httpServerEnabled)
    , ("main_domain", .string settings.mainDomain) ]

end ServerSettings

namespace DatabaseSettings

/-- How store settings are read. -/
def shape : RecordShape DatabaseSettings where
  title := "DatabaseSettings"
  blank := {}
  fields :=
    [ .defaulted "type" (Reader.choice StoreEngine.names)
        (fun value settings => { settings with engine := value })
    , .defaulted "path" Reader.path (fun value settings => { settings with path := value }) ]

/-- The document of store settings. -/
def toDocument (settings : DatabaseSettings) : Document :=
  .record
    [ ("type", .string settings.engine.name)
    , ("path", .string settings.path) ]

end DatabaseSettings

namespace AcmeSettings

/-- How issuance settings are read. -/
def shape : RecordShape AcmeSettings where
  title := "AcmeSettings"
  blank := {}
  fields :=
    [ .defaulted "email" Reader.string (fun value settings => { settings with email := value })
    , .defaulted "api_endpoint" Reader.string
        (fun value settings => { settings with apiEndpoint := value })
    , .defaulted "accept_terms" Reader.boolean
        (fun value settings => { settings with acceptTerms := value })
    , .defaulted "use_rate_limits" Reader.boolean
        (fun value settings => { settings with useRateLimits := value })
    , .defaulted "eab_hmac" (Reader.optional Reader.string)
        (fun value settings => { settings with eabHmac := value })
    , .defaulted "eab_kid" (Reader.optional Reader.string)
        (fun value settings => { settings with eabKid := value })
    , .defaulted "dns_provider" (Reader.optional Reader.string)
        (fun value settings => { settings with dnsProviderName := value })
    , .defaulted "account_config_file" Reader.path
        (fun value settings => { settings with accountConfigFile := value }) ]

/-- The document of issuance settings. -/
def toDocument (settings : AcmeSettings) : Document :=
  .record
    [ ("email", .string settings.email)
    , ("api_endpoint", .string settings.apiEndpoint)
    , ("accept_terms", .boolean settings.acceptTerms)
    , ("use_rate_limits", .boolean settings.useRateLimits)
    , ("eab_hmac", .optional .string settings.eabHmac)
    , ("eab_kid", .optional .string settings.eabKid)
    , ("dns_provider", .optional .string settings.dnsProviderName)
    , ("account_config_file", .string settings.accountConfigFile) ]

end AcmeSettings

namespace CustomDomain

/-- How a claimed domain is read. -/
def shape : RecordShape CustomDomain where
  title := "CustomDomain"
  blank := { domain := "", owner := "" }
  fields :=
    [ .needed "domain" Reader.string (fun value claim => { claim with domain := value })
    , .needed "owner" Reader.string (fun value claim => { claim with owner := value })
    , .defaulted "repo" Reader.string (fun value claim => { claim with repo := value })
    , .defaulted "branch" Reader.string (fun value claim => { claim with branch := value })
    , .defaulted "authorized" Reader.boolean
        (fun value claim => { claim with authorized := value }) ]

/-- The document of a claimed domain. -/
def toDocument (claim : CustomDomain) : Document :=
  .record
    [ ("domain", .string claim.domain)
    , ("owner", .string claim.owner)
    , ("repo", .string claim.repo)
    , ("branch", .string claim.branch)
    , ("authorized", .boolean claim.authorized) ]

end CustomDomain

namespace MaintenanceSettings

/-- How maintenance settings are read. -/
def shape : RecordShape MaintenanceSettings where
  title := "MaintenanceSettings"
  blank := {}
  fields :=
    [ .defaulted "interval_secs" Reader.unsigned64
        (fun value settings => { settings with intervalSecs := value }) ]

/-- The document of maintenance settings. -/
def toDocument (settings : MaintenanceSettings) : Document :=
  .record [("interval_secs", .integer settings.intervalSecs.toNat)]

end MaintenanceSettings

namespace Config

/-- How a configuration is read. -/
def shape : RecordShape Config where
  title := "Config"
  blank := {}
  fields :=
    [ .defaulted "log_level" Reader.string (fun value config => { config with logLevel := value })
    , .defaulted "server" ServerSettings.shape.read
        (fun value config => { config with server := value })
    , .defaulted "database" DatabaseSettings.shape.read
        (fun value config => { config with database := value })
    , .defaulted "acme" AcmeSettings.shape.read (fun value config => { config with acme := value })
    , .defaulted "custom_domains" (Reader.list CustomDomain.shape.read)
        (fun value config => { config with customDomains := value })
    , .defaulted "maintenance" MaintenanceSettings.shape.read
        (fun value config => { config with maintenance := value }) ]

/-- The document of a configuration. -/
def toDocument (config : Config) : Document :=
  .record
    [ ("log_level", .string config.logLevel)
    , ("server", config.server.toDocument)
    , ("database", config.database.toDocument)
    , ("acme", config.acme.toDocument)
    , ("custom_domains", .sequence (config.customDomains.map CustomDomain.toDocument))
    , ("maintenance", config.maintenance.toDocument) ]

/-- Read a configuration from a JSON text. -/
def ofJson (text : String) : Except DecodeError Config :=
  (Json.read text).decode .json shape.read

/-- Read a configuration from a TOML text. -/
def ofToml (text : String) : Except DecodeError Config :=
  (Toml.read text).decode .toml shape.read

end Config

end OnDemandTls
