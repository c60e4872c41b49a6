import WorkerAdvisor.Access.Guard

/-!
What a request presents to the guard.

The bearer credentials of a request are those of its first authorization header, if that has the form of a bearer
authorization (`IsBearer`, `Request.HasBearer`), and its parameters are the fields of its query, of which the last one
with a name counts (`Query.IsLast`). A request presents its bearer credentials if it has any, and otherwise its last
`token` parameter (`presented_eq_iff`).
-/

set_option autoImplicit false

namespace WorkerAdvisor.Access

variable {request : Request} {token : String}

/-! ### Bearer credentials -/

/-- The form of a bearer authorization: the scheme, in any letter case, a space, and something that is the credentials
if the white space around it is taken away. -/
def IsBearer (authorization : List Char) (credentials : String) : Prop :=
  ∃ scheme rest, authorization = scheme ++ ' ' :: rest ∧ ' ' ∉ scheme ∧ Text.lower (String.ofList scheme) = "bearer" ∧
    rest ≠ [] ∧ credentials = String.ofList (Text.trimBlank rest)

/-- The credentials that are read from an authorization are those of a bearer. -/
theorem bearer?_eq_some_iff {authorization : List Char} {credentials : String} :
    bearer? authorization = some credentials ↔ IsBearer authorization credentials := by
  unfold bearer?
  cases hbreak : Text.breakAt ' ' authorization with
  | mk scheme rest =>
    simp only [Option.ite_none_right_eq_some, Option.some.injEq]
    constructor
    · rintro ⟨⟨hscheme, hrest⟩, rfl⟩
      obtain ⟨hparts, hblank⟩ := (Text.breakAt_eq_iff hrest).mp hbreak
      exact ⟨scheme, rest, hparts, hblank, hscheme, hrest, rfl⟩
    · rintro ⟨scheme', rest', hparts, hblank, hscheme, hrest, rfl⟩
      have hother := (Text.breakAt_eq_iff hrest).mpr ⟨hparts, hblank⟩
      obtain ⟨rfl, rfl⟩ := Prod.mk.inj (hbreak.symm.trans hother)
      exact ⟨⟨hscheme, hrest⟩, rfl⟩

/-- Whether a value is that of the first header with a name, which has no letter case. -/
def IsFirstHeader (name : String) (headers : List (String × String)) (value : String) : Prop :=
  ∃ before written after, headers = before ++ (written, value) :: after ∧ Text.lower written = name ∧
    ∀ header ∈ before, Text.lower header.1 ≠ name

/-- The header that is read is the first one of its name. -/
theorem header?_eq_some_iff {name : String} {headers : List (String × String)} {chars : List Char} :
    header? name headers = some chars ↔
      ∃ value, IsFirstHeader name headers value ∧ Text.bytesAsChars value = chars := by
  simp only [header?, Option.map_eq_some_iff, List.find?_eq_some_iff_append, beq_iff_eq, Bool.not_eq_true',
    beq_eq_false_iff_ne]
  constructor
  · rintro ⟨⟨written, value⟩, ⟨hname, before, after, hheaders, hbefore⟩, hchars⟩
    exact ⟨value, ⟨before, written, after, hheaders, hname, hbefore⟩, hchars⟩
  · rintro ⟨value, ⟨before, written, after, hheaders, hname, hbefore⟩, hchars⟩
    exact ⟨(written, value), ⟨hname, before, after, hheaders, hbefore⟩, hchars⟩

/-- Whether a request has bearer credentials: those of its first authorization header. -/
def Request.HasBearer (request : Request) (credentials : String) : Prop :=
  ∃ value, IsFirstHeader "authorization" request.headers value ∧ IsBearer (Text.bytesAsChars value) credentials

/-- A request has the bearer credentials that are read from its first authorization header. -/
theorem hasBearer_iff {credentials : String} :
    request.HasBearer credentials ↔
      bearer? ((header? "authorization" request.headers).getD []) = some credentials := by
  cases hheader : header? "authorization" request.headers with
  | none =>
    -- A missing header counts as an empty one, which is no bearer authorization.
    have hnone : bearer? [] = none := by decide
    simp only [Option.getD_none, hnone, reduceCtorEq, iff_false]
    rintro ⟨value, hfirst, -⟩
    simp [header?_eq_some_iff.mpr ⟨value, hfirst, rfl⟩] at hheader
  | some chars =>
    obtain ⟨value, hfirst, rfl⟩ := header?_eq_some_iff.mp hheader
    rw [Option.getD_some, bearer?_eq_some_iff]
    constructor
    · rintro ⟨other, hother, hbearer⟩
      have hsame := hheader.symm.trans (header?_eq_some_iff.mpr ⟨other, hother, rfl⟩)
      rwa [Option.some.inj hsame]
    · exact fun hbearer ↦ ⟨value, hfirst, hbearer⟩

/-- A request has the credentials of one authorization at most. -/
theorem Request.HasBearer.unique {first second : String} (hfirst : request.HasBearer first)
    (hsecond : request.HasBearer second) : first = second :=
  Option.some.inj ((hasBearer_iff.mp hfirst).symm.trans (hasBearer_iff.mp hsecond))

/-! ### Parameters -/

/-- Whether a value is that of the last field of a query with a name. -/
def Query.IsLast (name query value : String) : Prop :=
  ∃ before after, Query.fields query = before ++ (name, value) :: after ∧ ∀ field ∈ after, field.1 ≠ name

/-- The value that is read from a query is the last one of its name. -/
theorem Query.last?_eq_some_iff {name query value : String} :
    Query.last? name query = some value ↔ Query.IsLast name query value := by
  rw [Query.last?, List.lookup_eq_some_iff]
  constructor
  · rintro ⟨after, before, hfields, hafter⟩
    refine ⟨before.reverse, after.reverse, ?_, fun field hfield ↦ ?_⟩
    · simpa using congrArg List.reverse hfields
    · have hother : name ≠ field.1 := by simpa using hafter field (List.mem_reverse.mp hfield)
      exact hother.symm
  · rintro ⟨before, after, hfields, hafter⟩
    refine ⟨after.reverse, before.reverse, by simp [hfields], fun field hfield ↦ ?_⟩
    have hother : field.1 ≠ name := hafter field (List.mem_reverse.mp hfield)
    simpa using hother.symm

theorem Query.IsLast.mem_fields {name query value : String} (hlast : Query.IsLast name query value) :
    (name, value) ∈ Query.fields query := by
  obtain ⟨before, after, hfields, -⟩ := hlast
  simp [hfields]

/-! ### The token that is presented -/

/-- A request presents its bearer credentials, or without any its last `token` parameter. -/
theorem presented_eq_iff (htoken : token ≠ "") :
    request.presented = token ↔
      request.HasBearer token ∨
        Query.IsLast "token" request.query token ∧ ∀ credentials, ¬ request.HasBearer credentials := by
  simp only [hasBearer_iff, ← Query.last?_eq_some_iff]
  unfold Request.presented
  cases bearer? ((header? "authorization" request.headers).getD []) with
  | some credentials => simp
  | none => cases Query.last? "token" request.query <;> simp [htoken.symm]

end WorkerAdvisor.Access
