import WorkerAdvisor.Access.Guard

/-!
The routes of the server, apart from the one for its protocol.
-/

set_option autoImplicit false

namespace WorkerAdvisor.Access

def protocolPath : String := "/mcp"

/-- Whether a path is that of a route. A line feed at its end does not count. -/
def isRoute (route path : String) : Bool := path == route || path == route ++ "\n"

def isRouteWithSlashes (route path : String) : Bool :=
  path.toList.getLast? == some '/' && isRoute route (String.ofList (Text.dropEndWhile (· == '/') path.toList))

/-- The response to a request that was let in. -/
def respond (request : Request) : Response :=
  if isRoute healthPath request.path then
    if request.method = "GET" ∨ request.method = "HEAD" then ⟨200, "\x7b\"status\":\"ok\"\x7d"⟩
    else ⟨405, "Method Not Allowed"⟩
  else if isRouteWithSlashes healthPath request.path || isRouteWithSlashes protocolPath request.path then
    ⟨307, ""⟩
  else ⟨404, "Not Found"⟩

end WorkerAdvisor.Access
