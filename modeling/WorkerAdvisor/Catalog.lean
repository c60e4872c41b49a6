import WorkerAdvisor.Rule
import WorkerAdvisor.Signal

/-!
The default catalog of rules, in the order in which they apply and are listed.
-/

set_option autoImplicit false

namespace WorkerAdvisor.Catalog

/-- The modules that the Workers runtime does not have. -/
def unavailableModules : List String :=
  ["fs", "path", "crypto", "os", "process", "child_process", "cluster", "dns", "http", "https", "net", "tls",
    "stream", "buffer", "events", "url", "querystring", "zlib"]

/-- The rule against a module. -/
def moduleRule (module : String) : Rule where
  id := "node-module-" ++ module
  severity := .critical
  title := "Node.js '" ++ module ++ "' module detected"
  description := "The '" ++ module ++ "' module is not available in the Workers runtime. " ++
    "Use Web standard APIs, or KV/R2/D1 bindings for storage."
  trigger := (Signal.moduleReference module).detects

def blockingCall : Rule where
  id := "blocking-sync-call"
  severity := .critical
  title := "Synchronous blocking operation detected"
  description := "Synchronous file and process calls block the isolate and do not exist in Workers. " ++
    "Use async operations, or KV/R2 for storage."
  trigger := Signal.blockingCall.detects

def timerUsage : Rule where
  id := "timer-usage"
  severity := .warning
  title := "setTimeout/setInterval detected"
  description := "Timers do not outlive the request. " ++
    "Consider Durable Objects Alarms or Cron Triggers for delayed or repeating work."
  trigger := Signal.timer.detects

def moduleLevelState : Rule where
  id := "module-level-state"
  severity := .warning
  title := "Mutable state declared outside the handler"
  description := "Module-level let/var is shared across requests served by the same isolate " ++
    "and is lost when the isolate is evicted. Keep per-request state inside the handler, " ++
    "and persistent state in KV or Durable Objects."
  trigger := Signal.sharedState.detects

def missingErrorHandling : Rule where
  id := "missing-error-handling"
  severity := .warning
  title := "Async operations without try-catch"
  description := "An unhandled rejection surfaces as an opaque 500 error. " ++
    "Wrap awaited work in try/catch and return an explicit error Response."
  trigger := Signal.unhandledFailure.detects

def missingDefaultExport : Rule where
  id := "missing-default-export"
  severity := .error
  title := "Missing 'export default'"
  description := "Workers need a default export object that exposes the handlers."
  trigger := Signal.noDefaultExport.detects

def missingFetchHandler : Rule where
  id := "missing-fetch-handler"
  severity := .error
  title := "No fetch handler detected"
  description := "Workers need a fetch(request, env, ctx) handler to serve HTTP requests."
  trigger := Signal.noFetchHandler.detects

def missingContextParams : Rule where
  id := "missing-context-params"
  severity := .info
  title := "fetch handler only takes the request"
  description := "Declare fetch(request, env, ctx) to reach bindings through env " ++
    "and ctx.waitUntil for work that continues after the response."
  trigger := Signal.requestOnlyHandler.detects

def missingResponseObject : Rule where
  id := "missing-response-object"
  severity := .info
  title := "No Response object constructed"
  description := "Handlers must return a Response. Use new Response(...) or Response.json(...)."
  trigger := Signal.noResponse.detects

def missingWaitUntil : Rule where
  id := "missing-wait-until"
  severity := .info
  title := "Awaited work without ctx.waitUntil"
  description := "Logging, analytics and cache writes that do not affect the response " ++
    "can be deferred with ctx.waitUntil() to return sooner."
  trigger := Signal.noDeferredWork.detects

/-- The default catalog. -/
def default : List Rule :=
  unavailableModules.map moduleRule ++
    [blockingCall, timerUsage, moduleLevelState, missingErrorHandling, missingDefaultExport,
      missingFetchHandler, missingContextParams, missingResponseObject, missingWaitUntil]

end WorkerAdvisor.Catalog
