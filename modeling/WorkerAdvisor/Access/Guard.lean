import WorkerAdvisor.Access.Query
import WorkerAdvisor.Access.Request
import WorkerAdvisor.Text.Blank
import WorkerAdvisor.Text.Lowercase

/-!
The guard before the server: who may pass.

Without a token everyone passes. With one, a request passes if it goes to the health route or presents the
token: as the credentials of a bearer authorization or else, if the first authorization header is none, as the
last `token` field of the query. A refused request never reaches the server.
-/

set_option autoImplicit false

namespace WorkerAdvisor.Access

/-- The path that is open to everyone. -/
def healthPath : String := "/health"

/-- A character that is dropped from a URL. -/
def isDropped (c : Char) : Bool := c == '\t' || c == '\n' || c == '\r'

/-- A character as it stands in the path of a URL. Those that would end the path are escaped. -/
def pathChar (c : Char) : List Char :=
  if c = '?' then "%3F".toList
  else if c = '#' then "%23".toList
  else if c = '\\' then "%5C".toList
  else [c]

/-- The path of the URL of a request, which begins with a slash unless it is empty. -/
def urlPath (path : List Char) : List Char :=
  let rooted := match path with
    | [] => []
    | c :: rest => if c = '/' then c :: rest else '/' :: c :: rest
  (rooted.filter (!isDropped ·)).flatMap pathChar

/-- The value of the first header with a name, as the characters of its bytes. -/
def header? (name : String) (headers : List (String × String)) : Option (List Char) :=
  (headers.find? fun header ↦ Text.lower header.1 == name).map fun header ↦ Text.bytesAsChars header.2

/-- The credentials of a bearer authorization, without the white space around them. There must be something
after the space that ends the scheme. -/
def bearer? (authorization : List Char) : Option String :=
  let (scheme, credentials) := Text.breakAt ' ' authorization
  if Text.lower (String.ofList scheme) = "bearer" ∧ credentials ≠ [] then
    some (String.ofList (Text.trimBlank credentials))
  else none

/-- The token that a request presents; empty if it presents none. -/
def Request.presented (request : Request) : String :=
  match bearer? ((header? "authorization" request.headers).getD []) with
  | some credentials => credentials
  | none => (Query.last? "token" request.query).getD ""

def Request.isHealthCheck (request : Request) : Bool :=
  urlPath request.path.toList == healthPath.toList

/-- Whether a guard with a token lets a request pass. -/
def admits (token : String) (request : Request) : Bool :=
  token.isEmpty || request.isHealthCheck || request.presented == token

def refusal : Response :=
  ⟨401, "\x7b\"error\":\"Unauthorized\",\"message\":\"Invalid or missing token\"\x7d"⟩

/-- A server behind a guard. -/
def guarded (token : String) (server : Request → Response) (request : Request) : Response :=
  if admits token request then server request else refusal

end WorkerAdvisor.Access
