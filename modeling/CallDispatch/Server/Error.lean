import CallDispatch.Dial.Error
import CallDispatch.Policy.Instruction

/-!
# Errors of the server
-/

namespace CallDispatch

/-- Why the server refuses an operation. -/
inductive ServerError
  | registry (error : RegistryError)
  | resolver (error : ResolverError)
  | dial (error : DialError)
  | link (error : LinkError)
  | config (reason : String)
  | io (reason : String)
deriving DecidableEq

/-- The wording of an error of the server. -/
def ServerError.message : ServerError → String
  | registry error => "Registry error: " ++ error.message
  | resolver error => "Resolver error: " ++ error.message
  | dial error => "Dial error: " ++ error.message
  | link error => "Link error: " ++ error.message
  | config reason => "Configuration error: " ++ reason
  | io reason => "I/O error: " ++ reason

end CallDispatch
