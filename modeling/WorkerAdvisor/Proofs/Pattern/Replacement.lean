import WorkerAdvisor.Proofs.Pattern.Spelling

/-!
Patterns in texts whose characters are replaced.

A replacement puts some characters, perhaps none, in the place of each character, so that each place of a text has a
place in the new text (`Place.replaced`). One pattern is carried to another (`Pattern.Carries`) if the second matches
in the new text wherever the first matches in the old one. The constructors carry over one by one, and what they ask
of the replacement is only that it keep what a pattern tells apart. If a carried pattern occurs in a text, the other
one occurs in the new text (`Pattern.Carries.occursIn`).

Some replacements are safe in some texts only, such as the removal of a character that always stands before a certain
other one. The texts that are meant are those with the property `IsOf`.
-/

set_option autoImplicit false

namespace WorkerAdvisor

namespace Place

/-- The place in the new text if `f c` stands for each character `c`. -/
def replaced (f : Char → List Char) (p : Place) : Place :=
  ⟨(p.before.reverse.flatMap f).reverse, p.after.flatMap f⟩

theorem text_replaced (f : Char → List Char) (p : Place) : (p.replaced f).text = p.text.flatMap f := by
  simp [text, replaced]

/-- A step over a run becomes a step over what stands for the run. -/
theorem StepsOver.replaced {p q : Place} {run : List Char} (hsteps : p.StepsOver run q) (f : Char → List Char) :
    (p.replaced f).StepsOver (run.flatMap f) (q.replaced f) := by
  obtain ⟨hafter, hbefore⟩ := hsteps
  constructor
  · simp [Place.replaced, hafter]
  · simp [Place.replaced, hbefore]

end Place

namespace Pattern

/-- In the texts with the property `IsOf`, wherever `first` matches, `second` matches in the new text. -/
def Carries (f : Char → List Char) (IsOf : List Char → Prop) (first second : Pattern) : Prop :=
  ∀ p q : Place, IsOf p.text → q ∈ first.ends p → q.replaced f ∈ second.ends (p.replaced f)

/-- A pattern that is carried to itself. -/
abbrev Keeps (f : Char → List Char) (IsOf : List Char → Prop) (pattern : Pattern) : Prop :=
  Carries f IsOf pattern pattern

namespace Carries

variable {f : Char → List Char} {IsOf : List Char → Prop}

protected theorem nothing : Keeps f IsOf nothing := by
  intro p q _ hends
  rw [mem_ends_nothing] at hends ⊢
  rw [hends]

/-- A class of characters is carried to another if each of its characters has one of the other in its place. -/
protected theorem single {holds others : Char → Bool} (hone : ∀ c, holds c = true → ∃ d, others d = true ∧ f c = [d]) :
    Carries f IsOf (single holds) (single others) := by
  intro p q _ hends
  obtain ⟨c, hc, hsteps⟩ := mem_ends_single.1 hends
  obtain ⟨d, hd, hreplaced⟩ := hone c hc
  have hnew := hsteps.replaced f
  rw [List.flatMap_singleton, hreplaced] at hnew
  exact mem_ends_single.2 ⟨d, hd, hnew⟩

/-- A row of a class is carried to a row of another if what stands for its characters is all of the other. -/
protected theorem many {holds others : Char → Bool} (hall : ∀ c, holds c = true → ∀ d ∈ f c, others d = true) :
    Carries f IsOf (many holds) (many others) := by
  intro p q _ hends
  obtain ⟨run, hrun, hsteps⟩ := mem_ends_many.1 hends
  refine mem_ends_many.2 ⟨run.flatMap f, fun d hd ↦ ?_, hsteps.replaced f⟩
  obtain ⟨c, hc, hd⟩ := List.mem_flatMap.1 hd
  exact hall c (hrun c hc) d hd

/-- Two patterns in a row are carried if both are. -/
protected theorem followedBy {first first' second second' : Pattern} (hfirst : Carries f IsOf first first')
    (hsecond : Carries f IsOf second second') :
    Carries f IsOf (followedBy first second) (followedBy first' second') := by
  intro p q htext hends
  obtain ⟨middle, hmiddle, hq⟩ := mem_ends_followedBy.1 hends
  have hsame : IsOf middle.text := by rwa [text_of_mem_ends hmiddle]
  exact mem_ends_followedBy.2 ⟨middle.replaced f, hfirst p middle htext hmiddle, hsecond middle q hsame hq⟩

protected theorem either {first second other : Pattern} (hfirst : Carries f IsOf first other)
    (hsecond : Carries f IsOf second other) : Carries f IsOf (either first second) other := by
  intro p q htext hends
  rcases mem_ends_either.1 hends with hends | hends
  · exact hfirst p q htext hends
  · exact hsecond p q htext hends

theorem left {first second : Pattern} (hfirst : Carries f IsOf first second) (other : Pattern) :
    Carries f IsOf first (either second other) :=
  fun p q htext hends ↦ mem_ends_either.2 (.inl (hfirst p q htext hends))

theorem right {first second : Pattern} (hfirst : Carries f IsOf first second) (other : Pattern) :
    Carries f IsOf first (either other second) :=
  fun p q htext hends ↦ mem_ends_either.2 (.inr (hfirst p q htext hends))

/-- A condition on places is kept if it holds at the new place wherever it holds at the old one. -/
protected theorem only {holds : Place → Bool}
    (hkept : ∀ p : Place, IsOf p.text → holds p = true → holds (p.replaced f) = true) :
    Keeps f IsOf (only holds) := by
  intro p q htext hends
  obtain ⟨hp, rfl⟩ := mem_ends_only.1 hends
  exact mem_ends_only.2 ⟨hkept q htext hp, rfl⟩

/-! ### Derived patterns -/

protected theorem optional {pattern : Pattern} (hpattern : Keeps f IsOf pattern) : Keeps f IsOf (optional pattern) :=
  .either (hpattern.left _) (Carries.nothing.right _)

protected theorem anyOf {pattern : Pattern} {patterns : List Pattern} (hfirst : Keeps f IsOf pattern)
    (hall : ∀ other ∈ patterns, Keeps f IsOf other) : Keeps f IsOf (anyOf pattern patterns) := by
  induction patterns generalizing pattern with
  | nil => exact hfirst
  | cons next patterns ih =>
    have hrest : Keeps f IsOf (anyOf next patterns) :=
      ih (hall next (by simp)) fun other hother ↦ hall other (by simp [hother])
    exact .either (hfirst.left _) (hrest.right _)

/-- A pattern that spells something is carried if the stretches that it matches are kept. -/
theorem ofSpells {pattern : Pattern} {IsSpelt : List Char → Prop} (hspells : Spells pattern IsSpelt)
    (hkept : ∀ (before run after : List Char), IsOf (before ++ run ++ after) → IsSpelt run → IsSpelt (run.flatMap f)) :
    Keeps f IsOf pattern := by
  intro p q htext hends
  obtain ⟨run, hrun, hsteps⟩ := (hspells p q).1 hends
  refine (hspells _ _).2 ⟨run.flatMap f, hkept p.before.reverse run q.after ?_ hrun, hsteps.replaced f⟩
  rwa [Place.text, hsteps.1, ← List.append_assoc] at htext

/-! ### Occurrences -/

/-- A pattern that occurs in a text is found as the pattern it is carried to in the new text. -/
theorem occursIn {first second : Pattern} (hcarries : Carries f IsOf first second) {code : List Char}
    (hcode : IsOf code) (hoccurs : first.occursIn code = true) : second.occursIn (code.flatMap f) = true := by
  obtain ⟨p, q, hp, hends⟩ := occursIn_iff.1 hoccurs
  have htext : p.text = code := hp
  refine occursIn_iff.2 ⟨p.replaced f, q.replaced f, ?_, hcarries p q (by rwa [htext]) hends⟩
  change (p.replaced f).text = code.flatMap f
  rw [Place.text_replaced, htext]

end Carries

end Pattern

end WorkerAdvisor
