import Mathlib.Data.String.Basic

/-!
# The credential store

`version` goes up with every load, whatever is loaded; the wrappers compare it with the one they saw last.
-/

namespace Polyfast

structure Credentials where
  apiKey : String := ""
  apiSecret : String := ""
  apiPassphrase : String := ""
  privateKey : String := ""
  funderAddress : String := ""
  relayerKey : String := ""
  deriving DecidableEq

namespace Credentials

variable (c : Credentials)

def hasTradingCredentials : Bool := c.apiKey ≠ "" && c.apiSecret ≠ "" && c.apiPassphrase ≠ ""

def hasRelayerCredentials : Bool := c.relayerKey ≠ ""

def hasSigningCredentials : Bool := c.privateKey ≠ "" && c.funderAddress ≠ ""

end Credentials

structure CredentialStore where
  credentials : Credentials := {}
  version : ℕ := 0

def CredentialStore.load (s : CredentialStore) (credentials : Credentials) : CredentialStore where
  credentials := credentials
  version := s.version + 1

end Polyfast
