import RequestBook.Headers
import RequestBook.Introspection.Query
import RequestBook.Introspection.Target
import RequestBook.Text.Encoding

/-!
# Fetching introspection results

One request asks a server for its schema, and the data of its answer is the result. An answer
without data, or with errors beside the data, is a failure; what the caller sent is known in
either case.
-/

namespace RequestBook.Introspection

/-- A request as it is sent. -/
structure Outgoing where
  method : String
  url : String
  headers : Headers
  content : Json
  timeout : Json
  deriving Repr

/-- What comes back. -/
inductive Reply where
  | response (status : Int) (body : List UInt8)
  /-- Something fails on the way. -/
  | broken (detail : String)
  /-- The transport gives up for reasons of its own. -/
  | refused (reason : String)

/-- The content of the request. -/
def payload : Json := .obj [("query", .str (query false))]

def standardHeaders : Headers :=
  [("Content-Type", "application/json"), ("Accept", "application/json")]

/-- How long to wait unless the caller says otherwise, in seconds. -/
def defaultTimeout : Json := .float 30.0

def isAscii (s : String) : Bool := s.toList.all (·.toNat < 128)

/-- The headers with one set, whatever the case of its name. -/
def setHeader (name value : String) (headers : Headers) : Headers :=
  match headers.span fun h => h.1.toLower ≠ name.toLower with
  | (before, []) => before ++ [(name, value)]
  | (before, _ :: after) =>
    before ++ (name, value) :: after.filter fun h => h.1.toLower ≠ name.toLower

/-- The request to a URL. Names of headers that differ in case only are all sent. -/
def outgoing (url : String) (provider : Provider) (timeout : Json) : Except Failure Outgoing := do
  let headers := Headers.merge standardHeaders provider.headers
  unless headers.all fun (name, value) => isAscii name && isAscii value do throw .nonAsciiHeader
  match Target.parse? url with
  | none => throw .invalidUrl
  | some target =>
    unless target.isShort do throw .invalidUrl
    let namesHost := headers.any (·.1.toLower = "host")
    unless namesHost || !target.isAbsolute do
      unless isAscii target.host do throw .nonAsciiHeader
      if let some fault := target.hostFault? then throw (.unreadableHost fault)
    let headers := match target.credentials? with
      | some value => setHeader "Authorization" value headers
      | none => headers
    return ⟨"POST", target.text, headers, payload, timeout⟩

/-- The data of an answer that was received with a status of success. -/
def resultOf (answer : Json) : Except TransportFault Json :=
  match answer with
  | .obj _ =>
    let errors := answer.memberOrNull "errors"
    let data := answer.memberOrNull "data"
    if errors.truthy then
      match errors with
      | .arr items => .error (.serverErrors items)
      | other => .error (.malformedErrors other)
    else if data.truthy then .ok data
    else .error .noData
  | _ => .error .notObject

def parseBody (body : List UInt8) : Except TransportFault Json :=
  match (Text.Encoding.decodeDetected body).map Json.parse with
  | some (.ok answer) => .ok answer
  | _ => .error .invalidJson

namespace Reply

/-- The introspection result that a reply brings. -/
def result : Reply → Except Failure Json
  | broken detail => .error (.transport (.network detail) none)
  | refused reason => .error (.refused reason)
  | response status body =>
    (if 200 ≤ status ∧ status < 300 then parseBody body >>= resultOf
      else .error (.status status)).mapError fun fault => .transport fault (some status)

end Reply

/-- The introspection result that a reply to a request brings. A response to a URL that says
neither how nor where to is not accepted. -/
def received (request : Outgoing) : Reply → Except Failure Json
  | .response status body =>
    if request.url.startsWith "/" then .error (.unplacedResponse request.url)
    else (Reply.response status body).result
  | reply => reply.result

/-- The requests that are sent to a URL, and what comes of them. -/
def fetch (url : String) (provider : Provider) (timeout : Json) (reply : Reply) :
    List Outgoing × Except Failure Json :=
  match outgoing url provider timeout with
  | .error f => ([], .error f)
  | .ok request => ([request], received request reply)

end RequestBook.Introspection
