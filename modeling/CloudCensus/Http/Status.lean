import CloudCensus.Failure

namespace CloudCensus.Status

def phrases : List (Nat × String) := [
  (100, "Continue"), (101, "Switching Protocols"), (102, "Processing"),
  (200, "OK"), (201, "Created"), (202, "Accepted"), (203, "Non Authoritative Information"),
  (204, "No Content"), (205, "Reset Content"), (206, "Partial Content"), (207, "Multi-Status"),
  (208, "Already Reported"), (226, "IM Used"),
  (300, "Multiple Choices"), (301, "Moved Permanently"), (302, "Found"), (303, "See Other"),
  (304, "Not Modified"), (305, "Use Proxy"), (307, "Temporary Redirect"), (308, "Permanent Redirect"),
  (400, "Bad Request"), (401, "Unauthorized"), (402, "Payment Required"), (403, "Forbidden"),
  (404, "Not Found"), (405, "Method Not Allowed"), (406, "Not Acceptable"),
  (407, "Proxy Authentication Required"), (408, "Request Timeout"), (409, "Conflict"), (410, "Gone"),
  (411, "Length Required"), (412, "Precondition Failed"), (413, "Payload Too Large"),
  (414, "URI Too Long"), (415, "Unsupported Media Type"), (416, "Range Not Satisfiable"),
  (417, "Expectation Failed"), (418, "I'm a teapot"), (421, "Misdirected Request"),
  (422, "Unprocessable Entity"), (423, "Locked"), (424, "Failed Dependency"), (425, "Too Early"),
  (426, "Upgrade Required"), (428, "Precondition Required"), (429, "Too Many Requests"),
  (431, "Request Header Fields Too Large"), (451, "Unavailable For Legal Reasons"),
  (500, "Internal Server Error"), (501, "Not Implemented"), (502, "Bad Gateway"),
  (503, "Service Unavailable"), (504, "Gateway Timeout"), (505, "HTTP Version Not Supported"),
  (506, "Variant Also Negotiates"), (507, "Insufficient Storage"), (508, "Loop Detected"),
  (510, "Not Extended"), (511, "Network Authentication Required")]

def text (status : Nat) : String :=
  toString status ++ " " ++ (List.lookup status phrases).getD "<unknown status code>"

/-- Whether a response with this status ends the exchange; an interim one does not. -/
def isFinal (status : Nat) : Bool := status = 101 || (200 ≤ status && status < 1000)

def hasBody (status : Nat) : Bool := status ≠ 101 && status ≠ 204 && status ≠ 304

def isSuccess (status : Nat) : Bool := 200 ≤ status && status < 300

def reason (status : Nat) : Reason :=
  if status = 429 then .resourceExhausted
  else if status = 503 then .unavailable
  else if status = 504 then .deadlineExceeded
  else if status = 401 then .authenticationFailed
  else if status = 403 then .permissionDenied
  else if status = 404 then .notFound
  else .requestFailed

def excerpt (n : Nat) (body : String) : String := String.ofList (body.toList.take n)

def failure (status : Nat) (body : String) : Failure :=
  .because (reason status) (.stated (text status ++ ": " ++ excerpt 200 body))

/-- The failure of a successful response whose body is not what was wanted.  The complaint of the
decoder about the body is not worded here. -/
def badBody (status : Nat) (body : String) : Failure :=
  .because .invalidResponse (.stated ("Failed to parse response (status " ++ text status ++
    "): <json error> - Body: " ++ excerpt 500 body))

end CloudCensus.Status
