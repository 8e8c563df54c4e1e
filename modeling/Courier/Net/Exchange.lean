import Courier.Net.Headers

/-!
# Exchanges with a server

What is sent, what comes back, and what can come of an exchange.
-/

namespace Courier.Net

/-- What a server answers. -/
structure Reply where
  status : Nat
  headers : RawHeaders := []
  body : Bytes := []
  deriving DecidableEq, Repr

/-- What comes of an exchange. -/
inductive Outcome where
  | reply (reply : Reply)
  | fails (failure : Failure)

/-- What was sent in an exchange. There is no body if it was not read to its end. -/
structure Exchange where
  method : String
  url : String
  headers : Headers
  timeout : Float
  body : Option Bytes

/-- The answer of a server that has nothing to say. -/
def Reply.blank : Reply := { status := 200 }

/-- The phrases that stand beside the known statuses. -/
def reasonPhrases : List (Nat × String) := [
  (100, "Continue"), (101, "Switching Protocols"), (102, "Processing"), (103, "Early Hints"),
  (200, "OK"), (201, "Created"), (202, "Accepted"), (203, "Non-Authoritative Information"),
  (204, "No Content"), (205, "Reset Content"), (206, "Partial Content"), (207, "Multi-Status"),
  (208, "Already Reported"), (226, "IM Used"), (300, "Multiple Choices"),
  (301, "Moved Permanently"), (302, "Found"), (303, "See Other"), (304, "Not Modified"),
  (305, "Use Proxy"), (307, "Temporary Redirect"), (308, "Permanent Redirect"),
  (400, "Bad Request"), (401, "Unauthorized"), (402, "Payment Required"), (403, "Forbidden"),
  (404, "Not Found"), (405, "Method Not Allowed"), (406, "Not Acceptable"),
  (407, "Proxy Authentication Required"), (408, "Request Timeout"), (409, "Conflict"),
  (410, "Gone"), (411, "Length Required"), (412, "Precondition Failed"),
  (413, "Request Entity Too Large"), (414, "Request-URI Too Long"),
  (415, "Unsupported Media Type"), (416, "Requested Range Not Satisfiable"),
  (417, "Expectation Failed"), (418, "I'm a teapot"), (421, "Misdirected Request"),
  (422, "Unprocessable Entity"), (423, "Locked"), (424, "Failed Dependency"), (425, "Too Early"),
  (426, "Upgrade Required"), (428, "Precondition Required"), (429, "Too Many Requests"),
  (431, "Request Header Fields Too Large"), (451, "Unavailable For Legal Reasons"),
  (500, "Internal Server Error"), (501, "Not Implemented"), (502, "Bad Gateway"),
  (503, "Service Unavailable"), (504, "Gateway Timeout"), (505, "HTTP Version Not Supported"),
  (506, "Variant Also Negotiates"), (507, "Insufficient Storage"), (508, "Loop Detected"),
  (510, "Not Extended"), (511, "Network Authentication Required")]

/-- The phrase of a status; empty if it has none. -/
def reasonPhrase (status : Nat) : String :=
  (reasonPhrases.lookup status).getD ""

end Courier.Net
