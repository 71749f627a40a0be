import CallDispatch.Text.Decimal

/-!
# Errors of application links
-/

namespace CallDispatch

open Text

/-- What can go wrong on a link to an application. -/
inductive LinkError
  | closed
  | io (reason : String)
  | protocol (reason : String)
  /-- A message of this many bytes does not fit into a frame. -/
  | tooLarge (length : Nat)
deriving DecidableEq

namespace LinkError

/-- The wording of a link error. -/
def message : LinkError → String
  | closed => "Application link closed"
  | io reason => "I/O error: " ++ reason
  | protocol reason => "Protocol error: " ++ reason
  | tooLarge length => "Message of " ++ decimal length ++ " bytes does not fit in a frame"

/-- Whether the error means that the peer has failed: a message that is too large is a fault of
the message, and the link stays usable. -/
def isPeerFailure : LinkError → Bool
  | tooLarge _ => false
  | closed | io _ | protocol _ => true

end LinkError

end CallDispatch
