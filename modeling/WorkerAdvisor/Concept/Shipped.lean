import WorkerAdvisor.Concept.Entry

/-!
The knowledge base that comes with the program.
-/

set_option autoImplicit false

namespace WorkerAdvisor.Concept.Shipped

def v8Isolates : Entry where
  id := "v8-isolates"
  title := "V8 isolates"
  aliases := ["isolate", "isolates", "v8"]
  summary :=
    "Workers run inside V8 isolates rather than containers or processes. Many isolates share " ++
      "one runtime process, which gives near-zero cold starts but means there is no filesystem, " ++
      "no native modules and no Node.js process object. One isolate can serve many requests, so " ++
      "module-level variables are shared between them."
  recommendations := [
    "Keep per-request state inside the fetch handler.",
    "Use Web standard APIs (fetch, Request, Response, URL, crypto.subtle)."]
  relatedRules := ["module-level-state", "node-module-fs", "node-module-process"]

def cpuTimeLimits : Entry where
  id := "cpu-time-limits"
  title := "CPU time limits"
  aliases := ["cpu limit", "cpu time", "cpu limits"]
  summary :=
    "Each invocation has a CPU time budget. Time spent waiting on I/O such as fetch or KV " ++
      "reads does not count, but parsing, hashing and looping do. Exceeding the budget " ++
      "terminates the request."
  recommendations := [
    "Move heavy computation out of the request path or split it across requests.",
    "Stream large bodies instead of buffering and transforming them in memory."]
  relatedRules := ["blocking-sync-call"]

def kvVsR2 : Entry where
  id := "kv-vs-r2"
  title := "KV vs R2"
  aliases := ["kv", "r2", "workers kv", "storage"]
  summary :=
    "KV is an eventually consistent key-value store tuned for read-heavy, small values cached " ++
      "at the edge. R2 is S3-compatible object storage for large blobs with strong consistency " ++
      "and no egress fees."
  recommendations := [
    "Use KV for configuration, feature flags and cached lookups.",
    "Use R2 for files, uploads and anything larger than a few megabytes.",
    "Use D1 or Durable Objects when you need transactions or strong coordination."]
  relatedRules := ["node-module-fs", "blocking-sync-call"]

def durableObjects : Entry where
  id := "durable-objects"
  title := "Durable Objects"
  aliases := ["durable object", "alarms", "durable objects alarms"]
  summary :=
    "A Durable Object is a single-instance, stateful actor with transactional storage. Alarms " ++
      "let an object schedule its own future wake-up, replacing long-lived timers that a " ++
      "stateless Worker cannot keep alive."
  recommendations := [
    "Use Alarms instead of setTimeout/setInterval for delayed work.",
    "Route all traffic for one logical entity to the same object id."]
  relatedRules := ["timer-usage", "module-level-state"]

def cronTriggers : Entry where
  id := "cron-triggers"
  title := "Cron Triggers"
  aliases := ["cron", "scheduled", "scheduled handler"]
  summary :=
    "Cron Triggers invoke the Worker's scheduled() handler on a cron schedule, covering " ++
      "periodic jobs that would otherwise be written with setInterval."
  recommendations := ["Export a scheduled(event, env, ctx) handler next to fetch."]
  relatedRules := ["timer-usage"]

def waitUntil : Entry where
  id := "wait-until"
  title := "ctx.waitUntil"
  aliases := ["waituntil", "wait until", "execution context", "ctx"]
  summary :=
    "ctx.waitUntil(promise) extends the lifetime of the invocation until the promise settles, " ++
      "without delaying the response. It is the way to run logging, analytics or cache writes " ++
      "after the response is sent."
  recommendations := [
    "Accept (request, env, ctx) in the fetch handler to receive the execution context.",
    "Pass fire-and-forget promises to ctx.waitUntil instead of awaiting them."]
  relatedRules := ["missing-wait-until", "missing-context-params"]

def fetchHandler : Entry where
  id := "fetch-handler"
  title := "Module Worker fetch handler"
  aliases := ["fetch handler", "export default", "module worker", "handler"]
  summary :=
    "A module Worker exports a default object whose fetch(request, env, ctx) method receives " ++
      "every HTTP request and must return a Response (or a promise of one)."
  recommendations := [
    "Always return a Response, including on error paths.",
    "Wrap awaited work in try/catch and map failures to explicit status codes."]
  relatedRules := [
    "missing-default-export",
    "missing-fetch-handler",
    "missing-response-object",
    "missing-error-handling"]

def nodeCompatibility : Entry where
  id := "node-compatibility"
  title := "Node.js compatibility"
  aliases := ["node", "nodejs", "node.js", "nodejs_compat"]
  summary :=
    "Workers are not Node.js. Built-in modules such as fs, child_process, net and http are " ++
      "unavailable; some APIs can be polyfilled with the nodejs_compat flag, but filesystem and " ++
      "process access never work."
  recommendations := ["Replace fs with KV or R2, http with fetch, crypto with crypto.subtle."]
  relatedRules := [
    "node-module-fs",
    "node-module-http",
    "node-module-crypto",
    "blocking-sync-call"]

/-- All entries, in order. -/
def entries : List Entry :=
  [v8Isolates, cpuTimeLimits, kvVsR2, durableObjects, cronTriggers, waitUntil, fetchHandler, nodeCompatibility]

end WorkerAdvisor.Concept.Shipped
