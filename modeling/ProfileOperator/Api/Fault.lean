import ProfileOperator.Api.ClientError
import ProfileOperator.Api.Request
import ProfileOperator.Json.Reader

/-!
# Faults

A fault makes the server reject requests, or lose them, a number of times.  A rejection carries a
document; where its text is no such document, the client makes one up from the status of the answer.
-/

namespace ProfileOperator

namespace Api

def reasonPhrase : Nat -> String
  | 100 => "Continue"
  | 101 => "Switching Protocols"
  | 102 => "Processing"
  | 200 => "OK"
  | 201 => "Created"
  | 202 => "Accepted"
  | 203 => "Non Authoritative Information"
  | 204 => "No Content"
  | 205 => "Reset Content"
  | 206 => "Partial Content"
  | 207 => "Multi-Status"
  | 208 => "Already Reported"
  | 226 => "IM Used"
  | 300 => "Multiple Choices"
  | 301 => "Moved Permanently"
  | 302 => "Found"
  | 303 => "See Other"
  | 304 => "Not Modified"
  | 305 => "Use Proxy"
  | 307 => "Temporary Redirect"
  | 308 => "Permanent Redirect"
  | 400 => "Bad Request"
  | 401 => "Unauthorized"
  | 402 => "Payment Required"
  | 403 => "Forbidden"
  | 404 => "Not Found"
  | 405 => "Method Not Allowed"
  | 406 => "Not Acceptable"
  | 407 => "Proxy Authentication Required"
  | 408 => "Request Timeout"
  | 409 => "Conflict"
  | 410 => "Gone"
  | 411 => "Length Required"
  | 412 => "Precondition Failed"
  | 413 => "Payload Too Large"
  | 414 => "URI Too Long"
  | 415 => "Unsupported Media Type"
  | 416 => "Range Not Satisfiable"
  | 417 => "Expectation Failed"
  | 418 => "I'm a teapot"
  | 421 => "Misdirected Request"
  | 422 => "Unprocessable Entity"
  | 423 => "Locked"
  | 424 => "Failed Dependency"
  | 425 => "Too Early"
  | 426 => "Upgrade Required"
  | 428 => "Precondition Required"
  | 429 => "Too Many Requests"
  | 431 => "Request Header Fields Too Large"
  | 451 => "Unavailable For Legal Reasons"
  | 500 => "Internal Server Error"
  | 501 => "Not Implemented"
  | 502 => "Bad Gateway"
  | 503 => "Service Unavailable"
  | 504 => "Gateway Timeout"
  | 505 => "HTTP Version Not Supported"
  | 506 => "Variant Also Negotiates"
  | 507 => "Insufficient Storage"
  | 508 => "Loop Detected"
  | 510 => "Not Extended"
  | 511 => "Network Authentication Required"
  | _ => "<unknown status code>"

namespace ErrorStatus

def code? : Json -> Option Nat
  | .number (.whole i) => if 0 ≤ i ∧ i < 65536 then some i.toNat else none
  | _ => none

def fieldNames : List String := ["status", "message", "reason", "code"]

def decode (j : Json) : Option ErrorStatus := do
  match ← j.slots fieldNames with
  | [status, message, reason, code] =>
      some {
        status := ← status.required Json.string?
        message := ← message.defaulted "" Json.string?
        reason := ← reason.defaulted "" Json.string?
        code := ← code.required code? }
  | _ => none

/-- The document of a rejection with a given status and text. -/
def ofText (code : Nat) (text : String) : ErrorStatus :=
  match (Json.parseRecord? fieldNames text).bind decode with
  | some status => status
  | none =>
      { status := toString code ++ " " ++ reasonPhrase code
        message := Text.quoted text
        reason := "Failed to parse error data"
        code := code }

end ErrorStatus

/-- What becomes of a request that a fault meets. -/
inductive FaultEffect where
  | reject (code : Nat) (reason message : String)
  | rejectText (code : Nat) (text : String)
  | drop (cause : String)
deriving DecidableEq, Repr

def FaultEffect.error : FaultEffect -> ClientError
  | .reject code reason message =>
      .rejected { status := "Failure", message := message, reason := reason, code := code }
  | .rejectText code text => .rejected (.ofText code text)
  | .drop cause => .lost cause

/-- A fault: which requests it meets, how often, and what becomes of them. -/
structure Fault where
  method : String
  path : String
  times : Nat
  effect : FaultEffect
deriving DecidableEq, Repr

def occursIn (part : List Char) : List Char -> Bool
  | [] => part.isEmpty
  | c :: rest => part.isPrefixOf (c :: rest) || occursIn part rest

namespace Fault

def meets (f : Fault) (r : Request) : Bool :=
  match r.target with
  | .ok target => f.times ≠ 0 && f.method = r.method && occursIn f.path.toList target.path.toList
  | .error _ => false

/-- The effect of the first fault that meets a request, and the faults that are left. -/
def strike (r : Request) : List Fault -> Option (FaultEffect × List Fault)
  | [] => none
  | f :: rest =>
      if f.meets r then some (f.effect, { f with times := f.times - 1 } :: rest)
      else (strike r rest).map fun (effect, rest) => (effect, f :: rest)

end Fault

end Api

end ProfileOperator
