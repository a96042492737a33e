import ClientForge.Http.Url
import ClientForge.Json.Text

/-!
HTTP messages: calls as a program states them, and the requests and responses that they become.
-/

namespace ClientForge.Http

abbrev Headers := List (String × String)

inductive Body where
  | absent
  | json (document : Json)
  | bytes (content : ByteArray)

/-- A request before its URL and headers have been looked at. -/
structure Call where
  method : String
  url : String
  /-- Key that proves who is calling. -/
  bearer : Option String
  query : List (String × String)
  headers : Headers
  body : Body

structure Request where
  method : String
  url : Url
  /-- Names are in lower case. -/
  headers : Headers
  body : ByteArray

structure Response where
  status : Nat
  headers : Headers
  /-- The body, unless the connection broke while it was sent. -/
  body : Option ByteArray

/-! ## Headers -/

def Headers.value? (headers : Headers) (name : String) : Option String :=
  (headers.find? fun (n, _) => Text.sameIgnoringAsciiCase n name).map (·.2)

/-- Adds a header unless there is one of its name. -/
def Headers.default (headers : Headers) (name value : String) : Headers :=
  if (headers.value? name).isSome then headers else headers ++ [(name, value)]

def Headers.without (headers : Headers) (names : List String) : Headers :=
  headers.filter fun (n, _) => !names.any (Text.sameIgnoringAsciiCase n)

def isNameChar (c : Char) : Bool :=
  c.isAlphanum ||
    ['!', '#', '$', '%', '&', '\'', '*', '+', '-', '.', '^', '_', Char.ofNat 0x60, '|', '~'].contains c

def isValueChar (c : Char) : Bool := c == '\t' || (0x20 ≤ c.toNat && c.toNat ≠ 0x7F)

/-- A header in its usual form; names are tokens, and values hold no control characters. -/
def header? (name value : String) : Option (String × String) :=
  if !name.isEmpty && name.toList.all isNameChar && value.toList.all isValueChar then
    some (String.ofList (name.toList.map Char.toLower), value)
  else none

/-! ## Requests -/

/-- Name and version that this program gives to servers. -/
def userAgent : String := "apigen/2.0.0"

def Body.content : Body → ByteArray
  | .absent => .empty
  | .json document => document.compact.toUTF8
  | .bytes content => content

def headerRows? : Headers → Option Headers
  | [] => some []
  | (name, value) :: rest => do
    let row ← header? name value
    let rows ← headerRows? rest
    return row :: rows

/-- The request that a call amounts to; nothing if its URL or a header cannot be sent. -/
def Call.request? (call : Call) : Option Request := do
  let url ← Url.parse? call.url
  let bearer := (call.bearer.map fun key => [("authorization", "Bearer " ++ key)]).getD []
  let headers ← headerRows? (bearer ++ call.headers)
  let headers := match call.body with
    | .json _ => headers.default "content-type" "application/json"
    | _ => headers
  let content := call.body.content
  let headers := (headers.default "accept" "*/*").default "user-agent" userAgent
  return {
    method := call.method
    url := url.addQuery call.query
    headers := if content.isEmpty then headers
      else headers.default "content-length" (toString content.size)
    body := content
  }

/-! ## Statuses -/

def reasons : List (Nat × String) :=
  [(100, "Continue"), (101, "Switching Protocols"), (102, "Processing"), (103, "Early Hints"),
   (200, "OK"), (201, "Created"), (202, "Accepted"), (203, "Non Authoritative Information"),
   (204, "No Content"), (205, "Reset Content"), (206, "Partial Content"), (207, "Multi-Status"),
   (208, "Already Reported"), (226, "IM Used"),
   (300, "Multiple Choices"), (301, "Moved Permanently"), (302, "Found"), (303, "See Other"),
   (304, "Not Modified"), (305, "Use Proxy"), (307, "Temporary Redirect"),
   (308, "Permanent Redirect"),
   (400, "Bad Request"), (401, "Unauthorized"), (402, "Payment Required"), (403, "Forbidden"),
   (404, "Not Found"), (405, "Method Not Allowed"), (406, "Not Acceptable"),
   (407, "Proxy Authentication Required"), (408, "Request Timeout"), (409, "Conflict"),
   (410, "Gone"), (411, "Length Required"), (412, "Precondition Failed"),
   (413, "Payload Too Large"), (414, "URI Too Long"), (415, "Unsupported Media Type"),
   (416, "Range Not Satisfiable"), (417, "Expectation Failed"), (418, "I'm a teapot"),
   (421, "Misdirected Request"), (422, "Unprocessable Entity"), (423, "Locked"),
   (424, "Failed Dependency"), (425, "Too Early"), (426, "Upgrade Required"),
   (428, "Precondition Required"), (429, "Too Many Requests"),
   (431, "Request Header Fields Too Large"), (451, "Unavailable For Legal Reasons"),
   (500, "Internal Server Error"), (501, "Not Implemented"), (502, "Bad Gateway"),
   (503, "Service Unavailable"), (504, "Gateway Timeout"), (505, "HTTP Version Not Supported"),
   (506, "Variant Also Negotiates"), (507, "Insufficient Storage"), (508, "Loop Detected"),
   (510, "Not Extended"), (511, "Network Authentication Required")]

def statusText (status : Nat) : String :=
  toString status ++ " " ++ (reasons.lookup status).getD "<unknown status code>"

end ClientForge.Http
