/-
RemoteHost/Http.lean

Requests and responses of the web, and the words for what goes wrong with them.
-/
import RemoteHost.Text.Ascii
import RemoteHost.Text.Search
import RemoteHost.Url.Basic

namespace RemoteHost.Http

/-! ### Status codes -/

/-- The reason phrases of status codes. -/
def reasons : List (Nat × String) :=
  [(100, "Continue"), (101, "Switching Protocols"), (102, "Processing"), (103, "Early Hints"),
   (200, "OK"), (201, "Created"), (202, "Accepted"), (203, "Non Authoritative Information"),
   (204, "No Content"), (205, "Reset Content"), (206, "Partial Content"),
   (207, "Multi-Status"), (208, "Already Reported"), (226, "IM Used"),
   (300, "Multiple Choices"), (301, "Moved Permanently"), (302, "Found"), (303, "See Other"),
   (304, "Not Modified"), (305, "Use Proxy"), (307, "Temporary Redirect"),
   (308, "Permanent Redirect"), (400, "Bad Request"), (401, "Unauthorized"),
   (402, "Payment Required"), (403, "Forbidden"), (404, "Not Found"),
   (405, "Method Not Allowed"), (406, "Not Acceptable"),
   (407, "Proxy Authentication Required"), (408, "Request Timeout"), (409, "Conflict"),
   (410, "Gone"), (411, "Length Required"), (412, "Precondition Failed"),
   (413, "Payload Too Large"), (414, "URI Too Long"), (415, "Unsupported Media Type"),
   (416, "Range Not Satisfiable"), (417, "Expectation Failed"), (418, "I'm a teapot"),
   (421, "Misdirected Request"), (422, "Unprocessable Entity"), (423, "Locked"),
   (424, "Failed Dependency"), (425, "Too Early"), (426, "Upgrade Required"),
   (428, "Precondition Required"), (429, "Too Many Requests"),
   (431, "Request Header Fields Too Large"), (451, "Unavailable For Legal Reasons"),
   (500, "Internal Server Error"), (501, "Not Implemented"), (502, "Bad Gateway"), (503, "Service Unavailable"),
   (504, "Gateway Timeout"), (505, "HTTP Version Not Supported"),
   (506, "Variant Also Negotiates"), (507, "Insufficient Storage"), (508, "Loop Detected"),
   (510, "Not Extended"), (511, "Network Authentication Required")]

/-- A status code with its reason phrase. -/
def statusText (status : Nat) : String :=
  toString status ++ " " ++ (reasons.lookup status).getD "<unknown status code>"

/-- The request was carried out. -/
def isSuccess (status : Nat) : Bool := 200 ≤ status && status < 300

/-! ### Messages -/

/-- A request that sends a body to a URL. -/
structure Request where
  url : Url
  contentType : String
  authorization : String
  body : String
  deriving DecidableEq, Repr

/-- A response: its status, its headers in order and its body, or why the body cannot be
read. -/
structure Response where
  status : Nat
  headers : List (String × String) := []
  body : Except String Bytes

/-- A character that a header may hold to be read as text. -/
def isHeaderChar (c : Char) : Bool := c = '\t' || (' ' ≤ c && c ≤ '~')

/-- The value of the first header with a name, if it can be read as text. -/
def Response.header? (r : Response) (name : String) : Option String := do
  let (_, value) ← r.headers.find? fun h => Text.toLowerAscii h.1 == Text.toLowerAscii name
  if value.toList.all isHeaderChar then some value else none

/-! ### Requests that get no response -/

/-- A text followed by its causes, each of which is left out if what stands in front of
it has its words already. -/
def chained (text : String) (causes : List String) : String :=
  causes.foldl (fun text cause =>
    if Text.contains text cause then text else text ++ ": " ++ cause) text

/-- A character that the host of a request may hold. -/
def isHostChar (c : Char) : Bool :=
  Text.isDigit c || Text.isLetter c ||
    c ∈ ['!', '$', '&', '\'', '(', ')', '*', '+', ',', '-', '.', ':', ';', '=', '[', ']', '_', '~']

/-- A URL that a request can be sent to. -/
def isSendable (u : Url) : Bool :=
  u.host.render.toList.all isHostChar && u.render.utf8ByteSize < 65535

/-- The URL as the words for a failure show it: without a login. -/
def shownUrl (u : Url) : String := { u with username := "", password := "" : Url }.render

/-- The words for a URL that no request can be sent to. -/
def unsendable (u : Url) : String :=
  chained ("builder error for url (" ++ shownUrl u ++ ")") ["Parsed Url is not a valid Uri"]

/-- The words for a request that got no response, for some causes. -/
def unanswered (u : Url) (causes : List String) : String :=
  chained ("error sending request for url (" ++ shownUrl u ++ ")") causes

end RemoteHost.Http
