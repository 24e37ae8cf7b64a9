import Tabscript.Http.MediaType
import Tabscript.Outcome.Payload
import Tabscript.Pipeline
import Tabscript.Submission
import Tabscript.Text.Utf8

/-!
Requests over HTTP. Scripts are submitted to either of two paths and answered with their outcome; the catalog and a
sign of life can be fetched. Every response lets pages of any origin read it, and a page that asks beforehand is
told that it may do anything.
-/
namespace Tabscript.Http

/-- A request. The names of headers are in small letters. -/
structure Request where
  method : String
  uri : String
  headers : List (String × String)
  body : List UInt8

structure Response where
  status : Nat
  headers : List (String × String)
  body : String
  deriving DecidableEq, Repr

/-- What can be asked for. -/
inductive Route where
  | execute
  | catalog
  | health
  deriving DecidableEq, Repr

/-- The path of a URI: without scheme and authority, query and fragment. -/
def pathOf (uri : String) : String :=
  let cs := uri.toList.takeWhile fun c => c != '?' && c != '#'
  match cs with
  | '/' :: _ => String.ofList cs
  | _ =>
    match cs.dropWhile (· != ':') with
    | ':' :: '/' :: '/' :: rest =>
      match rest.dropWhile (· != '/') with
      | [] => "/"
      | path => String.ofList path
    | _ => String.ofList cs

/-- What a path asks for. -/
def Route.ofPath? (path : String) : Option Route :=
  if path = "/api/execute" || path = "/compile" then some .execute
  else if path = "/api/catalog" then some .catalog
  else if path = "/health" then some .health
  else none

/-- The methods that a route allows. -/
def Route.methods : Route → List String
  | .execute => ["POST"]
  | .catalog => ["GET", "HEAD"]
  | .health => ["GET", "HEAD"]

/-- The header that lists the methods of a route. -/
def Route.allow (route : Route) : String × String :=
  ("allow", String.intercalate "," route.methods)

namespace Response

def empty (status : Nat) (headers : List (String × String)) : Response :=
  ⟨status, headers, ""⟩

def text (status : Nat) (body : String) : Response :=
  ⟨status, [("content-type", "text/plain; charset=utf-8")], body⟩

def json (status : Nat) (body : Json) : Response :=
  ⟨status, [("content-type", "application/json")], body.compact⟩

def withHeaders (r : Response) (headers : List (String × String)) : Response :=
  { r with headers := r.headers ++ headers }

end Response

/-- The headers that open a response to every origin. -/
def originHeaders : List (String × String) :=
  [("vary", "origin, access-control-request-method, access-control-request-headers"),
    ("access-control-allow-origin", "*")]

def catalogJson : Json :=
  .array (catalog.map fun entry =>
    .object [("name", .string entry.name), ("arity", .string entry.arity.describe),
      ("declaration", .string entry.declaration)])

/-- The longest body that is taken, in bytes. -/
def bodyLimit : Nat := 2097152

/-- The characters of a body. A sequence that is not UTF-8 is taken for a pair of escapes that no string can hold, so
it is refused wherever a string is kept, and passed over with a string that is skipped; `escaped` tells that a
backslash stands directly before. -/
def bodyChars (escaped : Bool) : List (Option Char) → List Char
  | [] => []
  | some c :: more => c :: bodyChars (c == '\\' && !escaped) more
  | none :: more =>
    if escaped then '\x00' :: bodyChars false more
    else '\\' :: 'u' :: 'd' :: '8' :: '0' :: '0' :: '\\' :: 'u' :: 'd' :: '8' :: '0' :: '0' :: bodyChars false more

/-- The response to a body that is no submission. -/
def refuse : Json.Fault → Response
  | .misfit message => .text 422 ("Failed to deserialize the JSON body into the target type: " ++ message)
  | fault => .text 400 ("Failed to parse the request body as JSON: " ++ fault.message)

/-- The response with an outcome. -/
def outcomeResponse (outcome : Outcome) : Response :=
  .json (if outcome.success then 200 else 400) outcome.toJson

/-- Handles a submitted script, if there is one. -/
def execute (config : Config) (id : String) : Option String → Plan Response
  | none => return outcomeResponse (.rejected "Command is required")
  | some script =>
    if (Text.trimmed script).isEmpty then return outcomeResponse (.rejected "Command is required")
    else do return outcomeResponse (← Pipeline.process config id script)

def declaresJson (request : Request) : Bool :=
  match request.headers.lookup "content-type" with
  | none => false
  | some mediaType => MediaType.isJson mediaType

/-- Handles a submission. -/
def submit (config : Config) (id : String) (request : Request) : Plan Response :=
  if !declaresJson request then return .text 415 "Expected request with `Content-Type: application/json`"
  else if bodyLimit < request.body.length then
    return .text 413 "Failed to buffer the request body: length limit exceeded"
  else
    match Json.decodeFront Submission.ofDraft (bodyChars false (Text.units request.body)) with
    | .error fault => return refuse fault
    | .ok script => execute config id script

/-- Handles a request for a route by one of its methods. -/
def Route.respond (config : Config) (id : String) (request : Request) : Route → Plan Response
  | .execute => submit config id request
  | .catalog => return .json 200 catalogJson
  | .health => return .text 200 "ok"

/-- Handles a request as far as its path and method are concerned. -/
def route (config : Config) (id : String) (request : Request) : Plan Response :=
  match Route.ofPath? (pathOf request.uri) with
  | none => return .empty 404 []
  | some r =>
    if !r.methods.contains request.method then return .empty 405 [r.allow]
    else do
      let response ← r.respond config id request
      return if request.method = "HEAD" then { response with body := "" } else response

/-- The response to a page that asks what it may do. -/
def preflight (request : Request) : Response :=
  let allow := match Route.ofPath? (pathOf request.uri) with
    | none => []
    | some r => [r.allow]
  .empty 200 ([("access-control-allow-methods", "*"), ("access-control-allow-headers", "*")] ++ allow)

/-- Handles a request; `id` is the identifier for the workspace, should one be needed. -/
def handle (config : Config) (id : String) (request : Request) : Plan Response :=
  if request.method = "OPTIONS" then return (preflight request).withHeaders originHeaders
  else do
    let response ← route config id request
    return response.withHeaders (originHeaders ++ [("access-control-expose-headers", "*")])

end Tabscript.Http
