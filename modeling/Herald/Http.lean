import Herald.Http.MediaType
import Herald.Text.Charset
import Herald.Url.Basic

/-!
# Requests and responses

A request names its method, the address, the values of its authorization header and a body. It is
either answered by a response or not at all. The text of a response is decoded by the character
set of its content type.
-/

namespace Herald.Http

/-- What a request asks for. -/
inductive Method where
  | get
  | post
  deriving Repr, DecidableEq

/-- The word for a method. -/
def Method.text : Method → String
  | get => "GET"
  | post => "POST"

/-- A request as it is sent. -/
structure Request where
  method : Method
  url : Url
  authorization : List String
  body : Option String
  deriving Repr, DecidableEq

/-- A response. -/
structure Response where
  status : Nat := 200
  contentType : String := "application/json"
  body : List UInt8 := []
  deriving Repr, DecidableEq

/-- What became of a request. -/
inductive Outcome where
  | unanswered
  | answered (response : Response)
  deriving Repr, DecidableEq

/-- Whether a status says that the request succeeded. -/
def isSuccess (status : Nat) : Bool :=
  200 ≤ status && status < 300

/-- The phrase for a status. -/
def reason? (status : Nat) : Option String :=
  [(100, "Continue"), (101, "Switching Protocols"), (102, "Processing"), (103, "Early Hints"),
    (200, "OK"), (201, "Created"), (202, "Accepted"), (203, "Non Authoritative Information"),
    (204, "No Content"), (205, "Reset Content"), (206, "Partial Content"), (207, "Multi-Status"),
    (208, "Already Reported"), (226, "IM Used"), (300, "Multiple Choices"),
    (301, "Moved Permanently"), (302, "Found"), (303, "See Other"), (304, "Not Modified"),
    (305, "Use Proxy"), (307, "Temporary Redirect"), (308, "Permanent Redirect"),
    (400, "Bad Request"), (401, "Unauthorized"), (402, "Payment Required"), (403, "Forbidden"),
    (404, "Not Found"), (405, "Method Not Allowed"), (406, "Not Acceptable"),
    (407, "Proxy Authentication Required"), (408, "Request Timeout"), (409, "Conflict"),
    (410, "Gone"), (411, "Length Required"), (412, "Precondition Failed"),
    (413, "Payload Too Large"), (414, "URI Too Long"), (415, "Unsupported Media Type"),
    (416, "Range Not Satisfiable"), (417, "Expectation Failed"), (418, "I'm a teapot"),
    (421, "Misdirected Request"), (422, "Unprocessable Entity"), (423, "Locked"),
    (424, "Failed Dependency"), (425, "Too Early"), (426, "Upgrade Required"),
    (428, "Precondition Required"), (429, "Too Many Requests"),
    (431, "Request Header Fields Too Large"), (451, "Unavailable For Legal Reasons"),
    (500, "Internal Server Error"), (501, "Not Implemented"), (502, "Bad Gateway"),
    (503, "Service Unavailable"), (504, "Gateway Timeout"), (505, "HTTP Version Not Supported"),
    (506, "Variant Also Negotiates"), (507, "Insufficient Storage"), (508, "Loop Detected"),
    (510, "Not Extended"), (511, "Network Authentication Required")].lookup status

/-- A status with its phrase. -/
def statusText (status : Nat) : String :=
  toString status ++ " " ++ (reason? status).getD "<unknown status code>"

/-- A value that a header may hold: no control characters but the tab. -/
def isHeaderValue (value : String) : Bool :=
  (Text.Utf8.encode value.toList).all fun b => b = 0x09 || (0x20 ≤ b && b ≠ 0x7F)

/-- The longest address that can be sent, in bytes. -/
def addressLimit : Nat := 65534

namespace Response

/-- The character set of a response: UTF-8 unless its content type can be read and names another. -/
def charset (r : Response) : Text.Charset :=
  let label? := (MediaType.parse? r.contentType).bind MediaType.charset?
  (label?.bind Text.Charset.ofLabel?).getD .utf8

/-- The text of a response. -/
def text (r : Response) : String :=
  String.ofList (r.charset.decodeMarked r.body)

end Response

end Herald.Http
