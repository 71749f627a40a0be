import CallDispatch.Link.Error
import CallDispatch.Registry.Basic

/-!
# Errors of connection setup
-/

namespace CallDispatch

/-- Why a connection to an application does not come about. -/
inductive DialError
  | invalidTarget (uri : String)
  | connectRefused (target : String)
  | timeout (peer : String)
  | handshake (reason : String)
  | transportUnavailable (target : String)
  | link (error : LinkError)
  | registry (error : RegistryError)
  | io (reason : String)
deriving DecidableEq

/-- The wording of an error of connection setup. -/
def DialError.message : DialError → String
  | invalidTarget uri => "Invalid outbound target: " ++ uri
  | connectRefused target => "Connection refused by " ++ target
  | timeout peer => "Timed out connecting to " ++ peer
  | handshake reason => "Handshake failed: " ++ reason
  | transportUnavailable target => "No transport available to reach " ++ target
  | link error => "Link error: " ++ error.message
  | registry error => "Registry error: " ++ error.message
  | io reason => "I/O error: " ++ reason

end CallDispatch
