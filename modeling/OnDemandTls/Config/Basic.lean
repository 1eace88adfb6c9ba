import OnDemandTls.HostName

namespace OnDemandTls

/-!
# Configuration

The settings of the gateway, their defaults, and the values that a command line
or an environment puts in their place.
-/

/-- How certificates are kept. -/
inductive StoreEngine where
  /-- In one file. -/
  | file
  /-- In memory, until the program ends. -/
  | memory
  deriving DecidableEq, Repr

/-- Settings of the listeners. -/
structure ServerSettings where
  host : String := "[::]"
  port : UInt16 := 443
  httpPort : UInt16 := 80
  httpServerEnabled : Bool := true
  /-- The domain under which tenants have pages without a domain of their own. -/
  mainDomain : String := ""
  deriving DecidableEq, Repr

/-- Settings of the certificate store. -/
structure DatabaseSettings where
  engine : StoreEngine := .file
  path : String := "certs.json"
  deriving DecidableEq, Repr

namespace AcmeDirectory

/-- The directory of local test setups, exempt from the terms and DNS checks. -/
def mock : String :=
  "https://acme.mock.directory"

/-- The production directory that is used unless another one is set. -/
def production : String :=
  "https://acme-v02.api.letsencrypt.org/directory"

end AcmeDirectory

/-- Settings of the ACME account and of issuance. -/
structure AcmeSettings where
  email : String := ""
  apiEndpoint : String := AcmeDirectory.production
  acceptTerms : Bool := false
  useRateLimits : Bool := true
  eabHmac : Option String := none
  eabKid : Option String := none
  dnsProviderName : Option String := none
  accountConfigFile : String := "acme-account.json"
  deriving DecidableEq, Repr

namespace AcmeSettings

/-- A text that is given and not empty. -/
def filled (value : Option String) : Option String :=
  value.filter (· ≠ "")

/-- Both halves of the external account binding: key id and key. -/
def eab (settings : AcmeSettings) : Option (String × String) :=
  match filled settings.eabKid, filled settings.eabHmac with
  | some kid, some hmac => some (kid, hmac)
  | _, _ => none

/-- The name of the DNS provider, where an empty name counts as none. -/
def dnsProvider (settings : AcmeSettings) : Option String :=
  filled settings.dnsProviderName

end AcmeSettings

/-- A domain that a tenant claims. -/
structure CustomDomain where
  domain : String
  owner : String
  repo : String := "pages"
  branch : String := "pages"
  /-- Whether the tenant's own list of domains confirms the claim. -/
  authorized : Bool := true
  deriving DecidableEq, Repr

/-- Settings of the background maintenance. -/
structure MaintenanceSettings where
  intervalSecs : UInt64 := 43200
  deriving DecidableEq, Repr

/-- All settings. -/
structure Config where
  logLevel : String := "warn"
  server : ServerSettings := {}
  database : DatabaseSettings := {}
  acme : AcmeSettings := {}
  customDomains : List CustomDomain := []
  maintenance : MaintenanceSettings := {}
  deriving DecidableEq, Repr

/-- Values that take the place of loaded settings where they are given. -/
structure ConfigOverrides where
  logLevel : Option String := none
  host : Option String := none
  port : Option UInt16 := none
  httpPort : Option UInt16 := none
  httpServerEnabled : Option Bool := none
  mainDomain : Option String := none
  storeEngine : Option StoreEngine := none
  storePath : Option String := none
  acmeEmail : Option String := none
  acmeApi : Option String := none
  acmeAcceptTerms : Option Bool := none
  acmeUseRateLimits : Option Bool := none
  acmeEabHmac : Option String := none
  acmeEabKid : Option String := none
  dnsProvider : Option String := none
  accountConfigFile : Option String := none
  deriving DecidableEq, Repr

namespace Config

/-- Put the given values in the place of loaded ones. -/
def merge
    (config : Config)
    (given : ConfigOverrides) :
    Config where
  logLevel := given.logLevel.getD config.logLevel
  server :=
    { host := given.host.getD config.server.host
      port := given.port.getD config.server.port
      httpPort := given.httpPort.getD config.server.httpPort
      httpServerEnabled := given.httpServerEnabled.getD config.server.httpServerEnabled
      mainDomain := given.mainDomain.getD config.server.mainDomain }
  database :=
    { engine := given.storeEngine.getD config.database.engine
      path := given.storePath.getD config.database.path }
  acme :=
    { email := given.acmeEmail.getD config.acme.email
      apiEndpoint := given.acmeApi.getD config.acme.apiEndpoint
      acceptTerms := given.acmeAcceptTerms.getD config.acme.acceptTerms
      useRateLimits := given.acmeUseRateLimits.getD config.acme.useRateLimits
      eabHmac := given.acmeEabHmac.or config.acme.eabHmac
      eabKid := given.acmeEabKid.or config.acme.eabKid
      dnsProviderName := given.dnsProvider.or config.acme.dnsProviderName
      accountConfigFile := given.accountConfigFile.getD config.acme.accountConfigFile }
  customDomains := config.customDomains
  maintenance := config.maintenance

/-- The suffix of names under the main domain, with its leading dot. -/
def primarySuffix (config : Config) : String :=
  "." ++ String.ofList (HostName.dropLeadingDots config.server.mainDomain.toList)

/-- Where the HTTPS listener listens. -/
def httpsAddress (config : Config) : String :=
  config.server.host ++ ":" ++ toString config.server.port

/-- Where the HTTP listener listens. -/
def httpAddress (config : Config) : String :=
  config.server.host ++ ":" ++ toString config.server.httpPort

end Config

end OnDemandTls
