/-!
Requests to the server, and its responses.

The name of the host is taken to hold none of the characters that end it in a URL. So no header of a request has a part
in the path of its URL.
-/

set_option autoImplicit false

namespace WorkerAdvisor.Access

/-- A request. The path is decoded, the query is not. -/
structure Request where
  path : String
  method : String
  query : String
  headers : List (String × String)
  deriving DecidableEq, Repr

structure Response where
  status : Nat
  body : String
  deriving DecidableEq, Repr

end WorkerAdvisor.Access
