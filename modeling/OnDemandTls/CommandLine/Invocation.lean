import OnDemandTls.CommandLine.Grammar
import OnDemandTls.Config.Basic

namespace OnDemandTls

/-!
# Invocations

What a command line asks for: one command, and settings that count over those of
the configuration file.  What the command line leaves open, the environment may
set.
-/

/-- What is done with stored certificates. -/
inductive CertificateAction where
  | remove (domains : List String)
  | list
  deriving DecidableEq, Repr

/-- The commands. -/
inductive Command where
  /-- Run the gateway. -/
  | serve
  | certificates (action : CertificateAction)
  /-- Check the configuration. -/
  | validate
  | version
  deriving DecidableEq, Repr

/-- What a command line asks for. -/
structure Invocation where
  command : Command
  configPath : Option String
  /-- Whether everything is to be logged. -/
  verbose : Bool
  overrides : ConfigOverrides
  deriving DecidableEq, Repr

namespace OptionValues

/-- The port that an option has as its value. -/
def port?
    (values : OptionValues)
    (name : String) :
    Option UInt16 :=
  (values.get? name).bind OptionKind.port?

/-- The truth value that an option has as its value. -/
def truth?
    (values : OptionValues)
    (name : String) :
    Option Bool :=
  (values.get? name).bind OptionKind.truth?

/-- The settings that options ask for. -/
def overrides (values : OptionValues) : ConfigOverrides where
  logLevel := values.get? "log-level"
  host := values.get? "host"
  port := values.port? "port"
  httpPort := values.port? "http-port"
  httpServerEnabled := values.truth? "enable-http-server"
  mainDomain := values.get? "pages-domain"
  storeEngine := if values.contains "memory-store" then some .memory else none
  storePath := values.get? "db-path"
  acmeEmail := values.get? "acme-email"
  acmeApi := values.get? "acme-api"
  acmeAcceptTerms := values.truth? "acme-accept-terms"
  acmeUseRateLimits := values.truth? "acme-use-rate-limits"
  acmeEabHmac := values.get? "acme-eab-hmac"
  acmeEabKid := values.get? "acme-eab-kid"
  dnsProvider := values.get? "dns-provider"
  accountConfigFile := values.get? "acme-account-config"

end OptionValues

namespace Invocation

/-- The options of all commands. -/
def options : List CommandOption :=
  [ { name := "config", short := some 'c', kind := .path, standIn := some "PAGES_CONFIG" }
  , { name := "verbose", short := some 'v', kind := .flag }
  , { name := "log-level", kind := .text, standIn := some "LOG_LEVEL" }
  , { name := "host", kind := .text, standIn := some "HOST" }
  , { name := "port", kind := .port, standIn := some "PORT" }
  , { name := "http-port", kind := .port, standIn := some "HTTP_PORT" }
  , { name := "enable-http-server", kind := .truth, standIn := some "ENABLE_HTTP_SERVER" }
  , { name := "pages-domain", kind := .text, standIn := some "PAGES_DOMAIN" }
  , { name := "memory-store", kind := .flag }
  , { name := "db-path", kind := .path, standIn := some "DB_PATH" }
  , { name := "acme-email", kind := .text, standIn := some "ACME_EMAIL" }
  , { name := "acme-api", kind := .text, standIn := some "ACME_API" }
  , { name := "acme-accept-terms", kind := .truth, standIn := some "ACME_ACCEPT_TERMS" }
  , { name := "acme-use-rate-limits", kind := .truth, standIn := some "ACME_USE_RATE_LIMITS" }
  , { name := "acme-eab-hmac", kind := .text, standIn := some "ACME_EAB_HMAC" }
  , { name := "acme-eab-kid", kind := .text, standIn := some "ACME_EAB_KID" }
  , { name := "dns-provider", kind := .text, standIn := some "DNS_PROVIDER" }
  , { name := "acme-account-config", kind := .path, standIn := some "ACME_ACCOUNT_CONFIG" } ]

/-- Read a stretch of the command line after its first word. -/
def stretch
    (policy : WordPolicy)
    (arguments : List String) :
    Except CommandLineStop CommandStretch :=
  CommandStretch.read options false policy arguments Catalog.empty []

/-- Read what is done with stored certificates. -/
def readAction (arguments : List String) :
    Except CommandLineStop (CertificateAction × OptionValues) := do
  let choice ← stretch (.choice ["remove", "list"]) arguments
  if choice.words = ["list"] then
    let last ← stretch .none choice.rest
    return (.list, OptionValues.overriding last.values choice.values)
  else
    let last ← stretch .some choice.rest
    return (.remove last.words, OptionValues.overriding last.values choice.values)

/-- Read a command after its word. -/
def readCommand
    (word : String)
    (arguments : List String) :
    Except CommandLineStop (Command × OptionValues) := do
  if word = "certs" then
    let (action, values) ← readAction arguments
    return (.certificates action, values)
  else
    let last ← stretch .none arguments
    let command : Command :=
      if word = "serve" then .serve else if word = "validate" then .validate else .version
    return (command, last.values)

/-- Read a command line; the environment stands in for options that are not
set. -/
def read
    (environment : String → Option String)
    (arguments : List String) :
    Except CommandLineStop Invocation := do
  let words := ["serve", "certs", "validate", "version"]
  let first ← CommandStretch.read options true (.choice words) arguments Catalog.empty []
  let (command, later) ← readCommand (first.words.headD "") first.rest
  let values ← OptionValues.fill options environment (OptionValues.overriding later first.values)
  return {
    command := command
    configPath := values.get? "config"
    verbose := values.contains "verbose"
    overrides := values.overrides }

end Invocation

end OnDemandTls
