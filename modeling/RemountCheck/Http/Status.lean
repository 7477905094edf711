/-!
# Status codes

* `RemountCheck.Http.Status` – the code of a response;
* `RemountCheck.Http.Status.isSuccess` – whether it is one of success, from 200 to 299;
* `RemountCheck.Http.Status.isRedirect` – whether it sends a request on to another place;
* `RemountCheck.Http.Status.print` – the code with its standard reason.
-/

namespace RemountCheck

namespace Http

/-- **The code of a response.** -/
structure Status where
  code : Nat
  deriving DecidableEq, Repr

namespace Status

/-- Whether the code is one of success. -/
def isSuccess (s : Status) : Bool := 200 ≤ s.code && s.code < 300

/-- Whether the code says that nothing was found. -/
def isNotFound (s : Status) : Bool := s.code = 404

/-- Whether the code sends a request on to another place. -/
def isRedirect (s : Status) : Bool := [301, 302, 303, 307, 308].contains s.code

/-- The standard reasons by code, in ascending order. -/
def reasons : List (Nat × String) :=
  [(100, "Continue"), (101, "Switching Protocols"), (102, "Processing"), (200, "OK"),
    (201, "Created"), (202, "Accepted"), (203, "Non Authoritative Information"),
    (204, "No Content"), (205, "Reset Content"), (206, "Partial Content"), (207, "Multi-Status"),
    (208, "Already Reported"), (226, "IM Used"), (300, "Multiple Choices"),
    (301, "Moved Permanently"), (302, "Found"), (303, "See Other"), (304, "Not Modified"),
    (305, "Use Proxy"), (307, "Temporary Redirect"), (308, "Permanent Redirect"),
    (400, "Bad Request"), (401, "Unauthorized"), (402, "Payment Required"), (403, "Forbidden"),
    (404, "Not Found"), (405, "Method Not Allowed"), (406, "Not Acceptable"),
    (407, "Proxy Authentication Required"), (408, "Request Timeout"), (409, "Conflict"),
    (410, "Gone"), (411, "Length Required"), (412, "Precondition Failed"),
    (413, "Payload Too Large"), (414, "URI Too Long"), (415, "Unsupported Media Type"),
    (416, "Range Not Satisfiable"), (417, "Expectation Failed"), (418, "I'm a teapot"),
    (421, "Misdirected Request"), (422, "Unprocessable Entity"), (423, "Locked"),
    (424, "Failed Dependency"), (425, "Too Early"), (426, "Upgrade Required"),
    (428, "Precondition Required"), (429, "Too Many Requests"),
    (431, "Request Header Fields Too Large"), (451, "Unavailable For Legal Reasons"),
    (500, "Internal Server Error"), (501, "Not Implemented"), (502, "Bad Gateway"),
    (503, "Service Unavailable"), (504, "Gateway Timeout"), (505, "HTTP Version Not Supported"),
    (506, "Variant Also Negotiates"), (507, "Insufficient Storage"), (508, "Loop Detected"),
    (510, "Not Extended"), (511, "Network Authentication Required")]

/-- The standard reason of a code, or a word for its absence. -/
def reason (s : Status) : String := (reasons.lookup s.code).getD "<unknown status code>"

/-- **The code with its reason.** -/
def print (s : Status) : String := toString s.code ++ " " ++ s.reason

/-- A code that says that nothing was found is no success. -/
theorem not_isSuccess_of_isNotFound {s : Status} (h : s.isNotFound = true) :
    s.isSuccess = false := by
  simp only [isNotFound, decide_eq_true_eq] at h
  simp [isSuccess, h]

end Status

end Http

end RemountCheck
