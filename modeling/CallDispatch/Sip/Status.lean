/-!
# SIP status codes

The reason phrases of the status codes that have one of their own, and the class of final
responses that refuse a request.
-/

namespace CallDispatch.Sip

/-- Status codes with their reason phrases. -/
def phrases : List (Nat × String) := [
  (100, "Trying"),
  (180, "Ringing"),
  (181, "Call is Being Forwarded"),
  (182, "Queued"),
  (183, "Session in Progress"),
  (199, "Early Dialog Terminated"),
  (200, "OK"),
  (202, "Accepted"),
  (204, "No Notification"),
  (300, "Multiple Choices"),
  (301, "Moved Permanently"),
  (302, "Moved Temporarily"),
  (305, "Use Proxy"),
  (380, "Alternative Service"),
  (400, "Bad Request"),
  (401, "Unauthorized"),
  (402, "Payment Required"),
  (403, "Forbidden"),
  (404, "Not Found"),
  (405, "Method Not Allowed"),
  (406, "Not Acceptable"),
  (407, "Proxy Authentication Required"),
  (408, "Request Timeout"),
  (409, "Conflict"),
  (410, "Gone"),
  (411, "Length Required"),
  (412, "Conditional Request Failed"),
  (413, "Request Entity Too Large"),
  (414, "Request-URI Too Long"),
  (415, "Unsupported Media Type"),
  (416, "Unsupported URI Scheme"),
  (417, "Unknown Resource-Priority"),
  (420, "Bad Extension"),
  (421, "Extension Required"),
  (422, "Session Interval Too Small"),
  (423, "Interval Too Brief"),
  (424, "Bad Location Information"),
  (428, "Use Identity Header"),
  (429, "Provide Referrer Identity"),
  (430, "Flow Failed"),
  (433, "Anonymity Disallowed"),
  (436, "Bad Identity-Info"),
  (437, "Unsupported Certificate"),
  (438, "Invalid Identity Header"),
  (439, "First Hop Lacks Outbound Support"),
  (470, "Consent Needed"),
  (480, "Temporarily Unavailable"),
  (481, "Call Leg/Transaction Does Not Exist"),
  (482, "Loop Detected"),
  (483, "Too Many Hops"),
  (484, "Address Incomplete"),
  (485, "Ambiguous"),
  (486, "Busy Here"),
  (487, "Request Terminated"),
  (488, "Not Acceptable Here"),
  (489, "Bad Event"),
  (491, "Request Pending"),
  (493, "Undecipherable"),
  (494, "Security Agreement Required"),
  (500, "Server Internal Error"),
  (501, "Not Implemented"),
  (502, "Bad Gateway"),
  (503, "Service Unavailable"),
  (504, "Server Timeout"),
  (505, "Version Not Supported"),
  (513, "Message Too Large"),
  (580, "Precondition Failure"),
  (600, "Busy Everywhere"),
  (603, "Decline"),
  (604, "Does Not Exist Anywhere"),
  (606, "Not Acceptable")]

/-- The reason phrase of a status code. -/
def reasonPhrase (status : Nat) : Option String :=
  phrases.lookup status

/-- Whether the status is a final response other than success: redirection, failure or refusal. -/
def isRefusal (status : Nat) : Bool :=
  300 ≤ status && status ≤ 699

/-- The status of a request that no application can take at the moment. -/
def temporarilyUnavailable : Nat := 480

/-- The status of a request that fails for a reason inside the server. -/
def serverInternalError : Nat := 500

/-- The status of a request while no application is there to take it. -/
def serviceUnavailable : Nat := 503

/-- The status of a request that does not fit into one message. -/
def messageTooLarge : Nat := 513

end CallDispatch.Sip
