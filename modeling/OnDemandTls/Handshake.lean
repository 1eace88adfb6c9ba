import OnDemandTls.Challenge

namespace OnDemandTls

/-!
# Handshake settings

What the encrypted listener offers: versions, cipher suites and application
protocols.  Validation handshakes get settings of their own, which offer the
validation protocol alone.
-/

/-- The versions of the handshake. -/
inductive TlsVersion where
  | v12
  | v13
  deriving DecidableEq, Repr

/-- What a listener offers. -/
structure HandshakeSettings where
  protocols : List String
  suites : List String
  deriving DecidableEq, Repr

namespace HandshakeSettings

/-- The cipher suites, all of which encrypt and authenticate at once. -/
def strongSuites : List String :=
  [ "TLS13_AES_128_GCM_SHA256"
  , "TLS13_AES_256_GCM_SHA384"
  , "TLS13_CHACHA20_POLY1305_SHA256"
  , "TLS_ECDHE_ECDSA_WITH_AES_128_GCM_SHA256"
  , "TLS_ECDHE_RSA_WITH_AES_128_GCM_SHA256"
  , "TLS_ECDHE_ECDSA_WITH_AES_256_GCM_SHA384"
  , "TLS_ECDHE_RSA_WITH_AES_256_GCM_SHA384"
  , "TLS_ECDHE_ECDSA_WITH_CHACHA20_POLY1305_SHA256"
  , "TLS_ECDHE_RSA_WITH_CHACHA20_POLY1305_SHA256" ]

/-- Settings that offer some protocols. -/
def offering (protocols : List String) : HandshakeSettings where
  protocols := protocols
  suites := strongSuites

/-- The settings of ordinary handshakes. -/
def ordinary : HandshakeSettings :=
  offering ["h2", "http/1.1", validationProtocol]

/-- The settings of validation handshakes. -/
def validation : HandshakeSettings :=
  offering [validationProtocol]

/-- The settings for a client that offers some protocols. -/
def chosenFor (offered : List String) : HandshakeSettings :=
  if offered.contains validationProtocol then validation else ordinary

/-- The protocol that is agreed on: the first one of the listener that the
client offers.  A client that offers none gets none; one that offers only
others is refused. -/
def agree
    (settings : HandshakeSettings)
    (offered : List String) :
    Except Unit (Option String) :=
  match offered with
  | [] => .ok none
  | _ =>
      match settings.protocols.find? offered.contains with
      | some protocol => .ok (some protocol)
      | none => .error ()

end HandshakeSettings

end OnDemandTls
