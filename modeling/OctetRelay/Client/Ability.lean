/-
# What a client is built without

Clients differ in what they were built with.  This one has neither encrypted
connections nor transfers over HTTP, nor the frameworks for tickets and for
tokens.  What asks for such an ability is refused with the text of its lack.

Source: `SPEC_FULL.md` 11, the properties passed on verbatim; what a client
answers to those that it is built without.
-/

namespace OctetRelay
namespace Client

/-- What this client was built without. -/
inductive Ability where
  | encryption
  /-- Choosing curves and checking the names of brokers. -/
  | namedCurves
  | engines
  | providers
  | zstandard
  | transfer
  /-- Tokens that are asked for over encrypted transfers. -/
  | tokens
  | encryptedTransfer
  | tickets
  /-- The certificate stores of another operating system. -/
  | systemStores
  deriving DecidableEq, Repr

/-- How the lack of an ability is told. -/
def Ability.lack : Ability → String
  | .encryption => "OpenSSL not available at build time"
  | .namedCurves => "OpenSSL >= 1.0.2 not available at build time"
  | .engines => "OpenSSL >= 1.1.x not available at build time"
  | .providers => "OpenSSL >= 3.0.0 not available at build time"
  | .zstandard => "libzstd not available at build time"
  | .transfer => "libcurl not available at build time"
  | .tokens =>
    "OAuth/OIDC depends on libcurl and OpenSSL which were not available at build time"
  | .encryptedTransfer =>
    "HTTPS calls depend on libcurl and OpenSSL which were not available at build time"
  | .tickets => "cyrus-sasl/libsasl2 not available at build time"
  | .systemStores => "configuration only valid on Windows"

end Client
end OctetRelay
