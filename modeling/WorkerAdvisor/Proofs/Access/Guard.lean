import WorkerAdvisor.Access.Route
import WorkerAdvisor.Proofs.Access.Credentials

/-!
The guard before a server that has a state.

A server with a state answers a request and goes on in another state, so that a request that reaches it can be told
from one that does not. Behind a guard it takes a step at the requests that are admitted, and at no others
(`Server.state_run_guarded`): the response at each place of a run is the server's own after the admitted requests before
it, or the refusal (`Server.response_run_guarded`).

Without the token no request reaches the server, and whether one does is decided by three things that can be seen of it
(`without_token_refused`). What reaches it is said exactly by `reaches_iff_presented`: the bearer credentials are the
token, or there are none and the last `token` parameter is. A right parameter does not help a request with other bearer
credentials (`right_parameter_hidden_by_bearer`).
-/

set_option autoImplicit false

namespace WorkerAdvisor.Access

/-! ### Servers with a state -/

/-- A server with a state: the response to a request, and the state after it. -/
structure Server (σ : Type) where
  step : σ → Request → Response × σ

namespace Server

variable {σ : Type}

def ofRespond (respond : Request → Response) : Server Unit := ⟨fun _ request ↦ (respond request, ())⟩

/-- A server behind a guard. A request that is refused does not reach it. -/
def guarded (token : String) (server : Server σ) : Server σ :=
  ⟨fun state request ↦ if admits token request then server.step state request else (refusal, state)⟩

/-- The responses to requests, one after the other, and the state after all of them. -/
def run (server : Server σ) (state : σ) : List Request → List Response × σ
  | [] => ([], state)
  | request :: requests =>
    let (response, next) := server.step state request
    let (responses, last) := server.run next requests
    (response :: responses, last)

/-- Before a server without a state, this is the guard of the launched server. -/
theorem guarded_ofRespond (token : String) (respond : Request → Response) :
    (ofRespond respond).guarded token = ofRespond (Access.guarded token respond) := by
  simp only [guarded, ofRespond, Access.guarded, Server.mk.injEq]
  funext _ request
  split <;> rfl

/-- A request that is admitted is answered by the server behind the guard. -/
theorem step_guarded_of_admits {token : String} {request : Request} (server : Server σ) (state : σ)
    (hadmits : admits token request = true) : (server.guarded token).step state request = server.step state request :=
  if_pos hadmits

/-- A request that is refused leaves the server as it was. -/
theorem step_guarded_of_refused {token : String} {request : Request} (server : Server σ) (state : σ)
    (hrefused : admits token request = false) : (server.guarded token).step state request = (refusal, state) := by
  simp [guarded, hrefused]

/-! ### Runs -/

/-- A run over requests one after the other goes on in the state that the first ones leave. -/
theorem run_append (server : Server σ) (state : σ) (first second : List Request) :
    server.run state (first ++ second) =
      ((server.run state first).1 ++ (server.run (server.run state first).2 second).1,
        (server.run (server.run state first).2 second).2) := by
  induction first generalizing state with
  | nil => rfl
  | cons request requests ih => simp [run, ih]

theorem length_run (server : Server σ) (state : σ) (requests : List Request) :
    (server.run state requests).1.length = requests.length := by
  induction requests generalizing state with
  | nil => rfl
  | cons request requests ih => simp [run, ih]

/-- Behind a guard the server comes to the state in which the admitted requests leave it. -/
theorem state_run_guarded (token : String) (server : Server σ) (state : σ) (requests : List Request) :
    ((server.guarded token).run state requests).2 = (server.run state (requests.filter (admits token))).2 := by
  induction requests generalizing state with
  | nil => rfl
  | cons request requests ih =>
    cases hdecision : admits token request with
    | true => simp [run, ih, hdecision, step_guarded_of_admits server state hdecision]
    | false => simp [run, ih, hdecision, step_guarded_of_refused server state hdecision]

/-- The response at a place of a run: the server's own after the admitted requests before it, or the refusal. -/
theorem response_run_guarded (token : String) (server : Server σ) (state : σ) (before : List Request)
    (request : Request) (after : List Request) :
    ((server.guarded token).run state (before ++ request :: after)).1[before.length]? =
      some (if admits token request then
        (server.step (server.run state (before.filter (admits token))).2 request).1 else refusal) := by
  have hplace : before.length = ((server.guarded token).run state before).1.length := (length_run _ _ _).symm
  rw [run_append, hplace, List.getElem?_append_right (Nat.le_refl _), Nat.sub_self, state_run_guarded]
  cases hdecision : admits token request with
  | true => simp [run, step_guarded_of_admits server _ hdecision]
  | false => simp [run, step_guarded_of_refused server _ hdecision]

end Server

/-! ### What decides -/

variable {token : String} {request first second : Request}

/-- Away from the health route, a request is admitted if it presents the token. -/
theorem admits_iff (htoken : token ≠ "") (hpath : urlPath request.path.toList ≠ healthPath.toList) :
    admits token request = true ↔ request.presented = token := by
  simp [admits, Request.isHealthCheck, htoken, hpath]

/-- Whether two requests look alike to a guard: in the path of the URL, in the first authorization header, and in the
last `token` parameter. -/
structure Request.Agrees (first second : Request) : Prop where
  path : urlPath first.path.toList = urlPath second.path.toList
  authorization : header? "authorization" first.headers = header? "authorization" second.headers
  parameter : Query.last? "token" first.query = Query.last? "token" second.query

/-- Requests that look alike to a guard are decided alike. -/
theorem Request.Agrees.admits_eq (hagrees : first.Agrees second) (token : String) :
    admits token first = admits token second := by
  simp only [admits, Request.isHealthCheck, Request.presented, hagrees.path, hagrees.authorization, hagrees.parameter]

/-- Whether a request reaches the server behind a guard, whatever the server is. -/
def Reaches (token : String) (request : Request) : Prop :=
  ∀ (σ : Type) (server : Server σ) (state : σ), (server.guarded token).step state request = server.step state request

/-- A launched server answers by itself what reaches it. -/
theorem Reaches.guarded_eq (hreaches : Reaches token request) (respond : Request → Response) :
    Access.guarded token respond request = respond request := by
  have hstep := hreaches Unit (.ofRespond respond) ()
  rw [Server.guarded_ofRespond] at hstep
  exact congrArg Prod.fst hstep

/-- A server that counts its requests shows whether one reaches it. -/
theorem reaches_iff_admits : Reaches token request ↔ admits token request = true := by
  constructor
  · intro hreaches
    cases hdecision : admits token request with
    | true => rfl
    | false =>
      have hcount := hreaches Nat ⟨fun count _ ↦ (refusal, count + 1)⟩ 0
      rw [Server.step_guarded_of_refused _ _ hdecision] at hcount
      simp at hcount
  · exact fun hadmits σ server state ↦ server.step_guarded_of_admits state hadmits

/-! ### Requests without the token -/

/-- A request away from the health route that has the token neither as its bearer credentials nor as any `token`
parameter is refused, and the server is left as it was. Requests that agree in the path, the first authorization header
and the last `token` parameter are decided alike. In a run, what becomes of a request depends on this decision about it
and on the state in which the admitted requests before it have left the server, and on nothing else. -/
theorem without_token_refused (htoken : token ≠ "") :
    (∀ (σ : Type) (server : Server σ) (state : σ) (request : Request),
      urlPath request.path.toList ≠ healthPath.toList → ¬ request.HasBearer token →
      ("token", token) ∉ Query.fields request.query →
      (server.guarded token).step state request =
        (⟨401, "\x7b\"error\":\"Unauthorized\",\"message\":\"Invalid or missing token\"\x7d"⟩, state)) ∧
    (∀ first second : Request, first.Agrees second → admits token first = admits token second) ∧
    ∀ (σ : Type) (server : Server σ) (state : σ) (before : List Request) (request : Request) (after : List Request),
      ((server.guarded token).run state (before ++ request :: after)).1[before.length]? =
          some (if admits token request then
            (server.step (server.run state (before.filter (admits token))).2 request).1 else refusal) ∧
        ((server.guarded token).run state before).2 = (server.run state (before.filter (admits token))).2 := by
  refine ⟨fun σ server state request hpath hbearer hparameter ↦ ?_, fun first second hagrees ↦ hagrees.admits_eq token,
    fun σ server state before request after ↦
      ⟨server.response_run_guarded token state before request after, server.state_run_guarded token state before⟩⟩
  have hrefused : admits token request = false := by
    rw [Bool.eq_false_iff, ne_eq, admits_iff htoken hpath, presented_eq_iff htoken]
    rintro (hhas | ⟨hlast, -⟩)
    · exact hbearer hhas
    · exact hparameter hlast.mem_fields
  exact server.step_guarded_of_refused state hrefused

/-- A wrong token in both places, and the right one in a second authorization header. -/
theorem wrong_token_refused :
    let server : Server Nat := ⟨fun count _ ↦ (⟨200, "ok"⟩, count + 1)⟩
    let request : Request := ⟨"/mcp", "POST", "token=S3cret",
      [("Authorization", "Bearer other"), ("Authorization", "Bearer s3cret")]⟩
    (server.guarded "s3cret").step 7 request =
        (⟨401, "\x7b\"error\":\"Unauthorized\",\"message\":\"Invalid or missing token\"\x7d"⟩, 7) ∧
      admits "s3cret" request =
        admits "s3cret" ⟨"/mcp", "GET", "token=s3cret&token=S3cret", [("authorization", "Bearer other")]⟩ := by
  intro server request
  have htoken : "s3cret" ≠ "" := by decide
  obtain ⟨hrefused, hagree, -⟩ := without_token_refused htoken
  have hbearer : ¬ request.HasBearer "s3cret" := by
    rw [hasBearer_iff]
    decide +kernel
  exact ⟨hrefused Nat server 7 request (by decide) hbearer (by decide +kernel),
    hagree request _ ⟨rfl, by decide +kernel, by decide +kernel⟩⟩

/-! ### Requests with the token -/

/-- Away from the health route, a request reaches the server if its bearer credentials are the token, or if it has none
and its last `token` parameter is the token. So it is not enough that either of them is the token: this is the case
unless the parameter is right and the request has other bearer credentials. -/
theorem reaches_iff_presented (htoken : token ≠ "") (hpath : urlPath request.path.toList ≠ healthPath.toList) :
    (Reaches token request ↔ request.HasBearer token ∨
      Query.IsLast "token" request.query token ∧ ∀ credentials, ¬ request.HasBearer credentials) ∧
    ((Reaches token request ↔ Query.IsLast "token" request.query token ∨ request.HasBearer token) ↔
      ¬ (Query.IsLast "token" request.query token ∧
        ∃ credentials, request.HasBearer credentials ∧ credentials ≠ token)) := by
  have hreaches : Reaches token request ↔ request.HasBearer token ∨
      Query.IsLast "token" request.query token ∧ ∀ credentials, ¬ request.HasBearer credentials := by
    rw [reaches_iff_admits, admits_iff htoken hpath, presented_eq_iff htoken]
  refine ⟨hreaches, ?_⟩
  rw [hreaches]
  constructor
  · rintro heither ⟨hlast, credentials, hother, hne⟩
    rcases heither.mpr (.inl hlast) with hbearer | ⟨-, hnone⟩
    · exact hne (hother.unique hbearer)
    · exact hnone credentials hother
  · intro hhidden
    constructor
    · rintro (hbearer | ⟨hlast, -⟩)
      · exact .inr hbearer
      · exact .inl hlast
    · rintro (hlast | hbearer)
      · by_cases hbearer : request.HasBearer token
        · exact .inl hbearer
        · refine .inr ⟨hlast, fun credentials hother ↦ hhidden ⟨hlast, credentials, hother, ?_⟩⟩
          rintro rfl
          exact hbearer hother
      · exact .inl hbearer

/-- The token in the query is enough beside an authorization of another scheme. -/
theorem parameter_reaches_beside_basic :
    Reaches "s3cret" ⟨"/mcp", "POST", "token=other&token=s3cret", [("Authorization", "Basic s3cret")]⟩ := by
  refine (reaches_iff_presented (by decide) (by decide)).1.mpr (.inr ⟨?_, fun credentials hbearer ↦ ?_⟩)
  · rw [← Query.last?_eq_some_iff]
    decide +kernel
  · have hnone : bearer? ((header? "authorization" [("Authorization", "Basic s3cret")]).getD []) = none := by
      decide +kernel
    simp [hasBearer_iff, hnone] at hbearer

/-- The token in the query is not enough beside wrong bearer credentials. -/
theorem right_parameter_hidden_by_bearer :
    let request : Request := ⟨"/mcp", "GET", "token=s3cret", [("Authorization", "Bearer other")]⟩
    urlPath request.path.toList ≠ healthPath.toList ∧ Query.IsLast "token" request.query "s3cret" ∧
      Access.guarded "s3cret" respond request = refusal ∧ ¬ Reaches "s3cret" request := by
  intro request
  refine ⟨by decide, ?_, by decide +kernel, ?_⟩
  · rw [← Query.last?_eq_some_iff]
    decide +kernel
  · rw [reaches_iff_admits]
    decide +kernel

end WorkerAdvisor.Access
