import Gatehouse.Text.Blank
import Gatehouse.Text.Sha256

/-!
# The service token

Callers of the generation routes present a token. Only the digest of the configured token is kept; a
blank one switches the check off.
-/

namespace Gatehouse.Gateway

open Gatehouse.Text

/-- The digest of a token. -/
def tokenDigest (token : String) : String := Sha256.hex token.toUTF8.toList

/-- The check of presented tokens: the digest to compare with, if the check is on. -/
structure ServiceToken where
  digest : Option String

namespace ServiceToken

/-- The check for a configured token, blanks around which do not count. -/
def ofConfigured (token : String) : ServiceToken :=
  let t := trim token
  ⟨if t.isEmpty then none else some (tokenDigest t)⟩

/-- Is the check on? -/
def isEnabled (s : ServiceToken) : Bool := s.digest.isSome

/-- Is a presented token accepted? -/
def accepts (s : ServiceToken) (token : String) : Bool :=
  match s.digest with
  | none => true
  | some d => tokenDigest token == d

end ServiceToken

end Gatehouse.Gateway
