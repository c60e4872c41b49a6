import WorkerAdvisor.Proofs.Access.Guard
import WorkerAdvisor.Proofs.Access.Query

/-!
Ways to present a token.

Whatever the token is, it can be presented as a parameter: as an escaped field at the end of the query, if the request
has no bearer credentials that would be looked at instead. A token of ASCII with no white space around it can be presented
as bearer credentials as well, in any letter case of the scheme and with any number of spaces around the token. In either
way the request reaches the server, wherever it goes (`token_can_be_presented`).
-/

set_option autoImplicit false

namespace WorkerAdvisor.Access

variable {token : String} {request : Request}

/-- A request that presents the token reaches the server, on every path. -/
theorem reaches_of_presented (hpresented : request.presented = token) : Reaches token request := by
  rw [reaches_iff_admits, admits, hpresented]
  simp

/-! ### As a parameter -/

/-- A request with an escaped parameter at the end of its query. -/
def Request.withParameter (request : Request) (name value : String) : Request :=
  { request with query := Query.withField request.query (name ++ "=" ++ Query.escape value) }

/-- A parameter that is added to a query is the last of its name, whatever the query was. -/
theorem isLast_withParameter (htoken : token ≠ "") (request : Request) :
    Query.IsLast "token" (request.withParameter "token" token).query token :=
  ⟨Query.fields request.query, [], Query.fields_withField_escape (List.all_eq_true.mp (by decide)) htoken request.query,
    by simp⟩

/-! ### As bearer credentials -/

def spaces (count : Nat) : String := String.ofList (List.replicate count ' ')

theorem isBlank_of_mem_replicate (count : Nat) : ∀ c ∈ List.replicate count ' ', Text.isBlank c = true := by
  intro c hc
  rw [List.eq_of_mem_replicate hc]
  decide

/-- A bearer authorization with a token between spaces. -/
def bearerValue (scheme token : String) (leading trailing : Nat) : String :=
  scheme ++ spaces (leading + 1) ++ token ++ spaces trailing

/-- A scheme in any letter case consists of letters. -/
theorem mem_bearer_of_mem {scheme : String} (hscheme : scheme.toList.map Char.toLower = "bearer".toList) :
    ∀ c ∈ scheme.toList, c.toNat < 128 ∧ c ≠ ' ' := by
  intro c hc
  have hletters : ∀ letter ∈ "bearer".toList, letter.toNat < 128 ∧ letter ≠ ' ' := by simp
  obtain ⟨hascii, hspace⟩ := hletters c.toLower (hscheme ▸ List.mem_map_of_mem hc)
  refine ⟨Text.toNat_lt_of_toLower hascii, ?_⟩
  rintro rfl
  exact hspace (by decide)

/-- A bearer value with spaces around a trimmed ASCII token carries the token. -/
theorem isBearer_bearerValue {scheme : String} (htoken : token ≠ "") (hascii : ∀ c ∈ token.toList, c.toNat < 128)
    (htrimmed : Text.trimBlank token.toList = token.toList)
    (hscheme : scheme.toList.map Char.toLower = "bearer".toList) (leading trailing : Nat) :
    IsBearer (Text.bytesAsChars (bearerValue scheme token leading trailing)) token := by
  have hletters := mem_bearer_of_mem hscheme
  have hspaces : ∀ count, ∀ c ∈ (spaces count).toList, c.toNat < 128 := by
    intro count c hc
    obtain rfl : c = ' ' := by simpa [spaces] using (List.eq_of_mem_replicate (by simpa [spaces] using hc))
    decide
  have hvalue : ∀ c ∈ (bearerValue scheme token leading trailing).toList, c.toNat < 128 := by
    simp only [bearerValue, String.toList_append, List.forall_mem_append]
    exact ⟨⟨⟨fun c hc ↦ (hletters c hc).1, hspaces _⟩, hascii⟩, hspaces _⟩
  have hnonempty : token.toList ≠ [] := by simpa using htoken
  refine ⟨scheme.toList, List.replicate leading ' ' ++ token.toList ++ List.replicate trailing ' ', ?_,
    fun hmem ↦ (hletters _ hmem).2 rfl, ?_, by simp [htoken], ?_⟩
  · rw [Text.bytesAsChars_of_ascii hvalue]
    simp [bearerValue, spaces, List.replicate_succ]
  · rw [String.ofList_toList, Text.lower_of_ascii fun c hc ↦ (hletters c hc).1, hscheme]
    rfl
  · rw [Text.trimBlank_append hnonempty htrimmed, List.dropWhile_eq_nil_iff.mpr (isBlank_of_mem_replicate leading),
      Text.dropEndWhile_eq_nil (isBlank_of_mem_replicate trailing)]
    simp

/-! ### Either way -/

/-- A token that is not empty can always be presented, to any path and with any method. If the request has no bearer
credentials, it reaches the server with the escaped token in a parameter after its query. If the token is of ASCII and
has no white space around it, a request reaches the server with the token in the first authorization header, after the
scheme in any letter case and among any number of spaces, whatever else the request holds. Bearer credentials are
whatever follows the space after the scheme, even if it is nothing but white space. -/
theorem token_can_be_presented (htoken : token ≠ "") :
    (∀ request : Request, (∀ credentials, ¬ request.HasBearer credentials) →
      Reaches token (request.withParameter "token" token)) ∧
    ∀ (request : Request) (scheme : String) (leading trailing : Nat), (∀ c ∈ token.toList, c.toNat < 128) →
      Text.trimBlank token.toList = token.toList → scheme.toList.map Char.toLower = "bearer".toList →
      IsFirstHeader "authorization" request.headers (bearerValue scheme token leading trailing) →
      Reaches token request := by
  refine ⟨fun request hnone ↦ ?_, fun request scheme leading trailing hascii htrimmed hscheme hfirst ↦ ?_⟩
  · exact reaches_of_presented ((presented_eq_iff htoken).mpr (.inr ⟨isLast_withParameter htoken request, hnone⟩))
  · have hbearer := isBearer_bearerValue htoken hascii htrimmed hscheme leading trailing
    exact reaches_of_presented ((presented_eq_iff htoken).mpr (.inl ⟨_, hfirst, hbearer⟩))

/-- A token of separators, escapes and characters of several bytes, as a parameter beside one of the same name, and a
token of two words as bearer credentials beside a wrong parameter. -/
theorem unusual_tokens_presented :
    Reaches "50%+a&b=é🔑" (Request.withParameter ⟨"/mcp", "POST", "token=other", [("Authorization", "Basic Zm9v")]⟩
      "token" "50%+a&b=é🔑") ∧
    Reaches "two words" ⟨"/mcp", "GET", "token=other",
      [("Host", "edge"), ("AUTHORIZATION", "bEaReR   two words "), ("Authorization", "Bearer other")]⟩ := by
  have hfirst : IsFirstHeader "authorization"
      [("Host", "edge"), ("AUTHORIZATION", "bEaReR   two words "), ("Authorization", "Bearer other")]
      (bearerValue "bEaReR" "two words" 2 1) :=
    ⟨[("Host", "edge")], "AUTHORIZATION", [("Authorization", "Bearer other")], by decide +kernel, by decide +kernel,
      by decide +kernel⟩
  refine ⟨(token_can_be_presented (by decide)).1 _ fun credentials hbearer ↦ ?_,
    (token_can_be_presented (by decide)).2 _ "bEaReR" 2 1 (by simp) (by decide +kernel) (by decide) hfirst⟩
  rw [hasBearer_iff] at hbearer
  have hbasic : bearer? ((header? "authorization" [("Authorization", "Basic Zm9v")]).getD []) = none := by
    decide +kernel
  rw [hbasic] at hbearer
  cases hbearer

end WorkerAdvisor.Access
