import OrphanWatch.Text.Split

/-!
Requests to the two systems, and their replies.

Only the messages are here. A client says what to ask for, and what a reply means; how a message travels
is left to whoever uses the client.
-/

namespace OrphanWatch.Web

structure Request where
  url : String
  /-- The value of the authorization header. -/
  authorization : Option String
  /-- The time that the reply may take, in seconds. -/
  deadline : Option Nat
  deriving DecidableEq, Repr

structure Reply where
  status : Nat
  body : String
  deriving DecidableEq, Repr

def Reply.isSuccess (reply : Reply) : Bool :=
  200 ≤ reply.status && reply.status < 300

def Reply.isError (reply : Reply) : Bool :=
  400 ≤ reply.status && reply.status < 600

def Reply.content (reply : Reply) : String :=
  if reply.status < 200 || reply.status = 204 || reply.status = 304 then "" else reply.body

def isPathChar (c : Char) : Bool :=
  '!' ≤ c && c ≤ '~' && !(['<', '>', '`'].contains c)

def isQueryChar (c : Char) : Bool :=
  '!' ≤ c && c ≤ '~' && !(['"', '<', '>'].contains c)

def maxAddressLength : Nat := 65534

/-- The path of an address that has no server, if the address can be written down. What follows `#` is no
part of it. -/
def path? (address : String) : Option String :=
  let (path, query) :=
    (address.toList.takeWhile (· != '#')).span (· != '?')
  if path.all isPathChar && query.all isQueryChar && address.utf8ByteSize ≤ maxAddressLength then
    some (String.ofList path)
  else none

def reason : Nat → Option String
  | 100 => some "Continue"
  | 101 => some "Switching Protocols"
  | 102 => some "Processing"
  | 200 => some "OK"
  | 201 => some "Created"
  | 202 => some "Accepted"
  | 203 => some "Non Authoritative Information"
  | 204 => some "No Content"
  | 205 => some "Reset Content"
  | 206 => some "Partial Content"
  | 207 => some "Multi-Status"
  | 208 => some "Already Reported"
  | 226 => some "IM Used"
  | 300 => some "Multiple Choices"
  | 301 => some "Moved Permanently"
  | 302 => some "Found"
  | 303 => some "See Other"
  | 304 => some "Not Modified"
  | 305 => some "Use Proxy"
  | 307 => some "Temporary Redirect"
  | 308 => some "Permanent Redirect"
  | 400 => some "Bad Request"
  | 401 => some "Unauthorized"
  | 402 => some "Payment Required"
  | 403 => some "Forbidden"
  | 404 => some "Not Found"
  | 405 => some "Method Not Allowed"
  | 406 => some "Not Acceptable"
  | 407 => some "Proxy Authentication Required"
  | 408 => some "Request Timeout"
  | 409 => some "Conflict"
  | 410 => some "Gone"
  | 411 => some "Length Required"
  | 412 => some "Precondition Failed"
  | 413 => some "Payload Too Large"
  | 414 => some "URI Too Long"
  | 415 => some "Unsupported Media Type"
  | 416 => some "Range Not Satisfiable"
  | 417 => some "Expectation Failed"
  | 418 => some "I'm a teapot"
  | 421 => some "Misdirected Request"
  | 422 => some "Unprocessable Entity"
  | 423 => some "Locked"
  | 424 => some "Failed Dependency"
  | 426 => some "Upgrade Required"
  | 428 => some "Precondition Required"
  | 429 => some "Too Many Requests"
  | 431 => some "Request Header Fields Too Large"
  | 451 => some "Unavailable For Legal Reasons"
  | 500 => some "Internal Server Error"
  | 501 => some "Not Implemented"
  | 502 => some "Bad Gateway"
  | 503 => some "Service Unavailable"
  | 504 => some "Gateway Timeout"
  | 505 => some "HTTP Version Not Supported"
  | 506 => some "Variant Also Negotiates"
  | 507 => some "Insufficient Storage"
  | 508 => some "Loop Detected"
  | 510 => some "Not Extended"
  | 511 => some "Network Authentication Required"
  | _ => none

def statusText (status : Nat) : String :=
  toString status ++ " " ++ (reason status).getD "<unknown status code>"

end OrphanWatch.Web
