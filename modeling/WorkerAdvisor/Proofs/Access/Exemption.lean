import WorkerAdvisor.Proofs.Access.Guard

/-!
The paths that are open without the token.

The guard looks at the path of the URL of a request, the routes look at the path itself. Tabs, carriage returns and line
feeds are dropped from a URL, and what would end its path is escaped with a percent sign, which the path of the health
route does not have. A path that begins with a slash is therefore taken for that route exactly if it is the route's path
once the dropped characters are gone (`urlPath_eq_healthPath_iff`).

Without the token a request reaches the server on these paths, and on no others (`reaches_without_token_iff`). One of
them is the path of the health route. The others are let in as well (`line_feed_in_path_exempt`), but none of them leads
to a route, except the one with nothing more than a line feed at its end (`respond_of_isHealthApart`).
-/

set_option autoImplicit false

namespace WorkerAdvisor.Access

variable {token : String} {request : Request}

/-! ### Paths in a URL -/

/-- A character stands for itself in the path of a URL, or is escaped. -/
theorem pathChar_cases (c : Char) : pathChar c = [c] ∨ ∃ others, pathChar c = '%' :: others := by
  by_cases hquestion : c = '?'
  · exact .inr ⟨['3', 'F'], by simp [pathChar, hquestion]⟩
  · by_cases hhash : c = '#'
    · exact .inr ⟨['2', '3'], by simp [pathChar, hhash]⟩
    · by_cases hbackslash : c = '\\'
      · exact .inr ⟨['5', 'C'], by simp [pathChar, hbackslash]⟩
      · exact .inl (by simp [pathChar, hquestion, hhash, hbackslash])

theorem flatMap_pathChar_of_unescaped {path : List Char} (hunescaped : ∀ c ∈ path, pathChar c = [c]) :
    path.flatMap pathChar = path := by
  induction path with
  | nil => rfl
  | cons c path ih =>
    rw [List.flatMap_cons, hunescaped c (by simp), ih fun d hd ↦ hunescaped d (by simp [hd])]
    rfl

/-- No other path is escaped to one that holds nothing to escape and no percent sign. -/
theorem flatMap_pathChar_eq_iff {path target : List Char} (htarget : target.flatMap pathChar = target)
    (hpercent : '%' ∉ target) : path.flatMap pathChar = target ↔ path = target := by
  constructor
  · rintro rfl
    refine (flatMap_pathChar_of_unescaped fun c hc ↦ ?_).symm
    rcases pathChar_cases c with hsame | ⟨others, hescaped⟩
    · exact hsame
    · exact absurd (List.mem_flatMap.mpr ⟨c, hc, by simp [hescaped]⟩) hpercent
  · rintro rfl
    exact htarget

/-! ### Paths that are taken for the health route -/

/-- The path of the health route, apart from characters that are dropped from a URL. -/
def IsHealthApart (path : List Char) : Prop := path.filter (!isDropped ·) = healthPath.toList

instance : DecidablePred IsHealthApart :=
  fun path ↦ inferInstanceAs (Decidable (path.filter (!isDropped ·) = healthPath.toList))

/-- The path of a URL is that of the health route exactly if the path is, apart from what is dropped. -/
theorem urlPath_eq_healthPath_iff {path : List Char} (hrooted : path.head? = some '/') :
    urlPath path = healthPath.toList ↔ IsHealthApart path := by
  obtain ⟨rest, rfl⟩ := List.head?_eq_some_iff.mp hrooted
  exact flatMap_pathChar_eq_iff (by decide) (by decide)

/-- Without anything to drop, only the path of the health route is taken for it. -/
theorem isHealthApart_iff_of_clean {path : String} (hclean : ∀ c ∈ path.toList, isDropped c = false) :
    IsHealthApart path.toList ↔ path = healthPath := by
  have hsame : path.toList.filter (!isDropped ·) = path.toList :=
    List.filter_eq_self.mpr fun c hc ↦ by simp [hclean c hc]
  rw [IsHealthApart, hsame, String.toList_inj]

/-- Such a path does not end in a slash. -/
theorem isRouteWithSlashes_of_isHealthApart {path : String} (hhealth : IsHealthApart path.toList) (route : String) :
    isRouteWithSlashes route path = false := by
  rw [isRouteWithSlashes, Bool.and_eq_false_iff, beq_eq_false_iff_ne]
  left
  intro hlast
  obtain ⟨front, hpath⟩ := List.getLast?_eq_some_iff.mp hlast
  have hslash : ['/'].filter (!isDropped ·) = ['/'] := by decide
  rw [IsHealthApart, hpath, List.filter_append, hslash] at hhealth
  have hend := congrArg List.getLast? hhealth
  rw [List.getLast?_concat] at hend
  exact absurd hend (by decide)

/-- A path that is taken for the health route leads there itself, or to no route. -/
theorem respond_of_isHealthApart (hhealth : IsHealthApart request.path.toList) :
    request.path = healthPath ∨ request.path = healthPath ++ "\n" ∨ respond request = ⟨404, "Not Found"⟩ := by
  by_cases hroute : isRoute healthPath request.path = true
  · rw [isRoute, Bool.or_eq_true, beq_iff_eq, beq_iff_eq] at hroute
    exact hroute.imp_right .inl
  · have hslashes := isRouteWithSlashes_of_isHealthApart hhealth
    refine .inr (.inr ?_)
    rw [respond, if_neg hroute, hslashes healthPath, hslashes protocolPath]
    rfl

/-! ### Requests without the token -/

/-- A request without the token, on a path that begins with a slash, reaches the server if the path is that of the
health route apart from tabs, carriage returns and line feeds, and not otherwise. So it is exempt on the path of the
health route alone, unless the path has such characters and is the route's without them. What reaches the server of the
launch in this way is a health check or is not found. -/
theorem reaches_without_token_iff (htoken : token ≠ "") (hpresented : request.presented ≠ token)
    (hrooted : request.path.toList.head? = some '/') :
    (Reaches token request ↔ IsHealthApart request.path.toList) ∧
      ((Reaches token request → request.path = healthPath) ↔
        ¬ ((∃ c ∈ request.path.toList, c = '\t' ∨ c = '\n' ∨ c = '\r') ∧ IsHealthApart request.path.toList)) ∧
      (Reaches token request →
        request.path = healthPath ∨ request.path = healthPath ++ "\n" ∨ respond request = ⟨404, "Not Found"⟩) := by
  have hreaches : Reaches token request ↔ IsHealthApart request.path.toList := by
    rw [reaches_iff_admits, ← urlPath_eq_healthPath_iff hrooted]
    simp [admits, Request.isHealthCheck, htoken, hpresented]
  refine ⟨hreaches, ?_, fun hreach ↦ respond_of_isHealthApart (hreaches.mp hreach)⟩
  rw [hreaches]
  constructor
  · rintro hexact ⟨⟨c, hc, hdropped⟩, hhealth⟩
    rw [hexact hhealth] at hc
    rcases hdropped with rfl | rfl | rfl <;> exact absurd hc (by decide)
  · intro hdirty hhealth
    refine (isHealthApart_iff_of_clean fun c hc ↦ ?_).mp hhealth
    rw [← Bool.not_eq_true]
    intro hdropped
    exact hdirty ⟨⟨c, hc, by simpa [isDropped, or_assoc] using hdropped⟩, hhealth⟩

/-- A question mark in the path does not end the path of the health route. -/
theorem question_mark_in_path_not_exempt :
    let request : Request := ⟨"/health?token=s3cret", "GET", "token=other", []⟩
    request.presented ≠ "s3cret" ∧ request.path.toList.head? = some '/' ∧ ¬ Reaches "s3cret" request := by
  intro request
  have hpresented : request.presented ≠ "s3cret" := by decide
  have hrooted : request.path.toList.head? = some '/' := by decide
  refine ⟨hpresented, hrooted, ?_⟩
  rw [(reaches_without_token_iff (by decide) hpresented hrooted).1]
  decide

/-- A line feed in the path is enough to pass without a token, to where there is no route. -/
theorem line_feed_in_path_exempt :
    let request : Request := ⟨"/hea\nlth", "GET", "", []⟩
    request.presented ≠ "s3cret" ∧ request.path.toList.head? = some '/' ∧ request.path ≠ healthPath ∧
      Reaches "s3cret" request ∧ Access.guarded "s3cret" respond request = ⟨404, "Not Found"⟩ := by
  intro request
  have hreaches : Reaches "s3cret" request := by
    rw [reaches_iff_admits]
    decide
  refine ⟨by decide, by decide, by decide, hreaches, ?_⟩
  rw [hreaches.guarded_eq]
  decide

end WorkerAdvisor.Access
