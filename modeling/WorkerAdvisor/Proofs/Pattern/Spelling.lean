import WorkerAdvisor.Pattern

/-!
Patterns that look at nothing but what they match.

Such a pattern spells certain stretches of text (`Pattern.Spells`): from every place it matches those of them that
follow, whatever comes before and after. Without a look at the place itself, patterns spell what their constructors
say: the stretches of two parts one after the other, those of either part, and so on.

A match never leaves its text (`Pattern.text_of_mem_ends`), so an optional pattern in front does not change where a
pattern occurs (`Pattern.occursIn_optional_followedBy`).
-/

set_option autoImplicit false

namespace WorkerAdvisor

namespace Place

/-- The text that a place is in. -/
def text (p : Place) : List Char := p.before.reverse ++ p.after

/-- A step stays in its text. -/
theorem StepsOver.text_eq {p q : Place} {run : List Char} (hsteps : p.StepsOver run q) : q.text = p.text := by
  obtain ⟨hafter, hbefore⟩ := hsteps
  simp [text, hafter, hbefore]

theorem stepsOver_nil {p q : Place} : p.StepsOver [] q ↔ q = p := by
  obtain ⟨before, after⟩ := p
  obtain ⟨qbefore, qafter⟩ := q
  simp only [StepsOver, List.nil_append, List.reverse_nil, Place.mk.injEq]
  rw [eq_comm (a := after), and_comm]

/-- A step over two runs stops between them. -/
theorem stepsOver_append {p q : Place} {first second : List Char} :
    p.StepsOver (first ++ second) q ↔ ∃ middle, p.StepsOver first middle ∧ middle.StepsOver second q := by
  constructor
  · rintro ⟨hafter, hbefore⟩
    refine ⟨⟨first.reverse ++ p.before, second ++ q.after⟩, ⟨?_, rfl⟩, rfl, ?_⟩
    · rw [hafter, List.append_assoc]
    · rw [hbefore, List.reverse_append, List.append_assoc]
  · rintro ⟨middle, ⟨hafter, hbefore⟩, hafter', hbefore'⟩
    constructor
    · rw [hafter, hafter', List.append_assoc]
    · rw [hbefore', hbefore, List.reverse_append, List.append_assoc]

end Place

namespace Pattern

/-- Every class of characters in the pattern has one property, and every condition on a place the other. -/
def AllParts (IsClass : (Char → Bool) → Prop) (IsCondition : (Place → Bool) → Prop) : Pattern → Prop
  | nothing => True
  | single holds | many holds => IsClass holds
  | followedBy first second | either first second =>
    first.AllParts IsClass IsCondition ∧ second.AllParts IsClass IsCondition
  | only holds => IsCondition holds

/-- Properties of all classes and all conditions are properties of the parts of every pattern. -/
theorem allParts_of_forall {IsClass : (Char → Bool) → Prop} {IsCondition : (Place → Bool) → Prop}
    (hclass : ∀ holds, IsClass holds) (hcondition : ∀ holds, IsCondition holds) (pattern : Pattern) :
    pattern.AllParts IsClass IsCondition := by
  induction pattern with
  | nothing => trivial
  | single holds | many holds => exact hclass holds
  | followedBy first second ihFirst ihSecond | either first second ihFirst ihSecond => exact ⟨ihFirst, ihSecond⟩
  | only holds => exact hcondition holds

section Parts

variable {IsClass : (Char → Bool) → Prop} {IsCondition : (Place → Bool) → Prop}

@[simp] theorem allParts_sequence {patterns : List Pattern} :
    (sequence patterns).AllParts IsClass IsCondition ↔
      ∀ pattern ∈ patterns, pattern.AllParts IsClass IsCondition := by
  induction patterns with
  | nil => simp [sequence, AllParts]
  | cons pattern patterns ih => simp [sequence, AllParts, ih]

@[simp] theorem allParts_anyOf {pattern : Pattern} {patterns : List Pattern} :
    (anyOf pattern patterns).AllParts IsClass IsCondition ↔
      ∀ other ∈ pattern :: patterns, other.AllParts IsClass IsCondition := by
  induction patterns generalizing pattern with
  | nil => simp [anyOf]
  | cons next patterns ih => simp [anyOf, AllParts, ih]

@[simp] theorem allParts_optional {pattern : Pattern} :
    (optional pattern).AllParts IsClass IsCondition ↔ pattern.AllParts IsClass IsCondition := by
  simp [optional, AllParts]

@[simp] theorem allParts_literal {content : String} :
    (literal content).AllParts IsClass IsCondition ↔ ∀ c ∈ content.toList, IsClass (· == c) := by
  simp [literal, literalChars, AllParts]

end Parts

/-- A match is a stretch of characters that the classes of the pattern allow. -/
theorem exists_run_of_mem_ends {IsAllowed : Char → Prop} {pattern : Pattern} {p q : Place}
    (hclasses : pattern.AllParts (fun holds ↦ ∀ c, holds c = true → IsAllowed c) fun _ ↦ True)
    (hends : q ∈ pattern.ends p) : ∃ run, (∀ c ∈ run, IsAllowed c) ∧ p.StepsOver run q := by
  induction pattern generalizing p q with
  | nothing => exact ⟨[], by simp, Place.stepsOver_nil.2 (mem_ends_nothing.1 hends)⟩
  | single holds =>
    obtain ⟨c, hc, hsteps⟩ := mem_ends_single.1 hends
    exact ⟨[c], by simpa using hclasses c hc, hsteps⟩
  | many holds =>
    obtain ⟨run, hrun, hsteps⟩ := mem_ends_many.1 hends
    exact ⟨run, fun c hc ↦ hclasses c (hrun c hc), hsteps⟩
  | followedBy first second ihFirst ihSecond =>
    obtain ⟨middle, hmiddle, hq⟩ := mem_ends_followedBy.1 hends
    obtain ⟨head, hhead, hsteps⟩ := ihFirst hclasses.1 hmiddle
    obtain ⟨tail, htail, hsteps'⟩ := ihSecond hclasses.2 hq
    exact ⟨head ++ tail, List.forall_mem_append.2 ⟨hhead, htail⟩, Place.stepsOver_append.2 ⟨middle, hsteps, hsteps'⟩⟩
  | either first second ihFirst ihSecond =>
    rcases mem_ends_either.1 hends with hfirst | hsecond
    · exact ihFirst hclasses.1 hfirst
    · exact ihSecond hclasses.2 hsecond
  | only holds => exact ⟨[], by simp, Place.stepsOver_nil.2 (mem_ends_only.1 hends).2⟩

/-- A match goes on from where it begins. -/
theorem exists_stepsOver_of_mem_ends {pattern : Pattern} {p q : Place} (hends : q ∈ pattern.ends p) :
    ∃ run, p.StepsOver run q := by
  have hclasses := allParts_of_forall (fun holds c (_ : holds c = true) ↦ trivial) (fun _ ↦ trivial) pattern
  obtain ⟨run, -, hsteps⟩ := exists_run_of_mem_ends hclasses hends
  exact ⟨run, hsteps⟩

/-- A match stays in its text. -/
theorem text_of_mem_ends {pattern : Pattern} {p q : Place} (hends : q ∈ pattern.ends p) : q.text = p.text := by
  obtain ⟨run, hsteps⟩ := exists_stepsOver_of_mem_ends hends
  exact hsteps.text_eq

/-- Either of two patterns occurs where one of them does. -/
theorem occursIn_either (first second : Pattern) (code : List Char) :
    (either first second).occursIn code = (first.occursIn code || second.occursIn code) := by
  rw [Bool.eq_iff_iff, Bool.or_eq_true]
  simp only [occursIn_iff, mem_ends_either]
  constructor
  · rintro ⟨p, q, hp, hends | hends⟩
    · exact .inl ⟨p, q, hp, hends⟩
    · exact .inr ⟨p, q, hp, hends⟩
  · rintro (⟨p, q, hp, hends⟩ | ⟨p, q, hp, hends⟩)
    · exact ⟨p, q, hp, .inl hends⟩
    · exact ⟨p, q, hp, .inr hends⟩

/-- What follows any of several patterns occurs where it follows one of them. -/
theorem occursIn_anyOf_followedBy {first : Pattern} {others : List Pattern} {rest : Pattern} {code : List Char} :
    (followedBy (anyOf first others) rest).occursIn code = true ↔
      ∃ pattern ∈ first :: others, (followedBy pattern rest).occursIn code = true := by
  induction others generalizing first with
  | nil => simp [anyOf]
  | cons next others ih =>
    have hsplit : (followedBy (either first (anyOf next others)) rest).occursIn code =
        (either (followedBy first rest) (followedBy (anyOf next others) rest)).occursIn code := by
      simp [occursIn, ends]
    rw [anyOf, hsplit, occursIn_either, Bool.or_eq_true, ih]
    simp only [List.mem_cons, exists_eq_or_imp]

/-- A pattern after an optional one occurs where it occurs by itself. -/
theorem occursIn_optional_followedBy (first second : Pattern) (code : List Char) :
    (followedBy (optional first) second).occursIn code = second.occursIn code := by
  refine Bool.eq_iff_iff.2 ⟨fun hoccurs ↦ ?_, fun hoccurs ↦ ?_⟩
  · obtain ⟨p, q, hp, hends⟩ := occursIn_iff.1 hoccurs
    obtain ⟨middle, hmiddle, hq⟩ := mem_ends_followedBy.1 hends
    exact occursIn_iff.2 ⟨middle, q, (text_of_mem_ends hmiddle).trans hp, hq⟩
  · obtain ⟨p, q, hp, hends⟩ := occursIn_iff.1 hoccurs
    have hnothing : p ∈ (optional first).ends p := mem_ends_either.2 (.inr (mem_ends_nothing.2 rfl))
    exact occursIn_iff.2 ⟨p, q, hp, mem_ends_followedBy.2 ⟨p, hnothing, hends⟩⟩

/-- It does not matter for the search how three patterns in a row are bracketed. -/
theorem occursIn_followedBy_assoc (first second third : Pattern) (code : List Char) :
    (followedBy (followedBy first second) third).occursIn code =
      (followedBy first (followedBy second third)).occursIn code := by
  simp [occursIn, ends, List.flatMap_assoc]

/-- The pattern matches the stretches with a property, whatever they stand between. -/
def Spells (pattern : Pattern) (IsSpelt : List Char → Prop) : Prop :=
  ∀ p q : Place, q ∈ pattern.ends p ↔ ∃ run, IsSpelt run ∧ p.StepsOver run q

namespace Spells

variable {first second : Pattern} {IsFirst IsSecond : List Char → Prop}

/-- What a pattern spells can be said in other words. -/
theorem congr (hfirst : Spells first IsFirst) (hsame : ∀ run, IsFirst run ↔ IsSecond run) : Spells first IsSecond := by
  intro p q
  rw [hfirst p q]
  exact exists_congr fun run ↦ and_congr_left' (hsame run)

protected theorem nothing : Spells nothing fun run ↦ run = [] := by
  intro p q
  simp only [mem_ends_nothing, exists_eq_left, Place.stepsOver_nil]

protected theorem single (holds : Char → Bool) : Spells (single holds) fun run ↦ ∃ c, holds c = true ∧ run = [c] := by
  intro p q
  rw [mem_ends_single]
  constructor
  · rintro ⟨c, hc, hsteps⟩
    exact ⟨[c], ⟨c, hc, rfl⟩, hsteps⟩
  · rintro ⟨run, ⟨c, hc, rfl⟩, hsteps⟩
    exact ⟨c, hc, hsteps⟩

protected theorem many (holds : Char → Bool) : Spells (many holds) fun run ↦ ∀ c ∈ run, holds c = true :=
  fun _ _ ↦ mem_ends_many

/-- Two patterns in a row spell a stretch of the first and behind it one of the second. -/
protected theorem followedBy (hfirst : Spells first IsFirst) (hsecond : Spells second IsSecond) :
    Spells (followedBy first second) fun run ↦ ∃ head tail, run = head ++ tail ∧ IsFirst head ∧ IsSecond tail := by
  intro p q
  rw [mem_ends_followedBy]
  constructor
  · rintro ⟨middle, hmiddle, hq⟩
    obtain ⟨head, hhead, hsteps⟩ := (hfirst p middle).1 hmiddle
    obtain ⟨tail, htail, hsteps'⟩ := (hsecond middle q).1 hq
    exact ⟨head ++ tail, ⟨head, tail, rfl, hhead, htail⟩, Place.stepsOver_append.2 ⟨middle, hsteps, hsteps'⟩⟩
  · rintro ⟨run, ⟨head, tail, rfl, hhead, htail⟩, hsteps⟩
    obtain ⟨middle, hmiddle, hq⟩ := Place.stepsOver_append.1 hsteps
    exact ⟨middle, (hfirst p middle).2 ⟨head, hhead, hmiddle⟩, (hsecond middle q).2 ⟨tail, htail, hq⟩⟩

/-- A choice spells what either pattern spells. -/
protected theorem either (hfirst : Spells first IsFirst) (hsecond : Spells second IsSecond) :
    Spells (either first second) fun run ↦ IsFirst run ∨ IsSecond run := by
  intro p q
  rw [mem_ends_either, hfirst p q, hsecond p q, ← exists_or]
  exact exists_congr fun run ↦ or_and_right.symm

/-! ### Derived patterns -/

protected theorem optional (hfirst : Spells first IsFirst) :
    Spells (optional first) fun run ↦ IsFirst run ∨ run = [] :=
  hfirst.either .nothing

/-- A row of at least one character spells the runs of the class that are not empty. -/
protected theorem many1 (holds : Char → Bool) :
    Spells (many1 holds) fun run ↦ run ≠ [] ∧ ∀ c ∈ run, holds c = true := by
  refine ((Spells.single holds).followedBy (.many holds)).congr fun run ↦ ⟨?_, ?_⟩
  · rintro ⟨head, tail, rfl, ⟨c, hc, rfl⟩, htail⟩
    exact ⟨by simp, by simpa [hc] using htail⟩
  · rintro ⟨hsome, hall⟩
    obtain ⟨c, tail, rfl⟩ := List.exists_cons_of_ne_nil hsome
    exact ⟨[c], tail, rfl, ⟨c, hall c (by simp), rfl⟩, fun d hd ↦ hall d (by simp [hd])⟩

protected theorem literalChars (cs : List Char) : Spells (literalChars cs) fun run ↦ run = cs := by
  induction cs with
  | nil => exact .nothing
  | cons c cs ih =>
    refine ((Spells.single (· == c)).followedBy ih).congr fun run ↦ ⟨?_, ?_⟩
    · rintro ⟨head, tail, rfl, ⟨d, hd, rfl⟩, rfl⟩
      rw [beq_iff_eq.1 hd, List.singleton_append]
    · rintro rfl
      exact ⟨[c], cs, rfl, ⟨c, beq_self_eq_true c, rfl⟩, rfl⟩

/-- A literal spells its text alone. -/
protected theorem literal (content : String) : Spells (literal content) fun run ↦ run = content.toList :=
  .literalChars content.toList

/-- One of several texts. -/
protected theorem anyOf (content : String) (others : List String) :
    Spells (anyOf (literal content) (others.map literal)) fun run ↦ ∃ word ∈ content :: others, run = word.toList := by
  induction others generalizing content with
  | nil => exact (Spells.literal content).congr fun run ↦ by simp
  | cons next others ih =>
    refine ((Spells.literal content).either (ih next)).congr fun run ↦ ?_
    simp only [List.mem_cons, exists_eq_or_imp]

/-- The last pattern of a sequence. -/
theorem last (hfirst : Spells first IsFirst) : Spells (sequence [first]) IsFirst := by
  refine (hfirst.followedBy .nothing).congr fun run ↦ ⟨?_, fun hrun ↦ ⟨run, [], by simp, hrun, rfl⟩⟩
  rintro ⟨head, tail, rfl, hhead, rfl⟩
  rwa [List.append_nil]

/-- Where a pattern that spells something stands at a place with a property. -/
theorem occursIn_at_iff (hfirst : Spells first IsFirst) {holds : Place → Bool} {code : List Char} :
    (followedBy (only holds) first).occursIn code = true ↔
      ∃ before run after, code = before ++ (run ++ after) ∧ holds ⟨before.reverse, run ++ after⟩ = true ∧
        IsFirst run := by
  rw [Pattern.occursIn_iff]
  constructor
  · rintro ⟨p, q, hp, hends⟩
    obtain ⟨start, hstart, hq⟩ := mem_ends_followedBy.1 hends
    obtain ⟨hholds, rfl⟩ := mem_ends_only.1 hstart
    obtain ⟨run, hrun, hafter, -⟩ := (hfirst start q).1 hq
    refine ⟨start.before.reverse, run, q.after, ?_, ?_, hrun⟩
    · rw [← hp, hafter]
    · rwa [List.reverse_reverse, ← hafter]
  · rintro ⟨before, run, after, rfl, hholds, hrun⟩
    let start : Place := ⟨before.reverse, run ++ after⟩
    refine ⟨start, ⟨run.reverse ++ before.reverse, after⟩, by simp [start], mem_ends_followedBy.2 ⟨start, ?_, ?_⟩⟩
    · exact mem_ends_only.2 ⟨hholds, rfl⟩
    · exact (hfirst start _).2 ⟨run, hrun, rfl, rfl⟩

/-- Where a pattern that spells something stands between two places with properties. -/
theorem occursIn_between_iff (hfirst : Spells first IsFirst) {holds holds' : Place → Bool} {code : List Char} :
    (sequence [only holds, first, only holds']).occursIn code = true ↔
      ∃ before run after, code = before ++ run ++ after ∧ holds ⟨before.reverse, run ++ after⟩ = true ∧
        IsFirst run ∧ holds' ⟨run.reverse ++ before.reverse, after⟩ = true := by
  rw [Pattern.occursIn_iff]
  constructor
  · rintro ⟨p, q, hp, hends⟩
    obtain ⟨start, hstart, hrest⟩ := mem_ends_followedBy.1 hends
    obtain ⟨hholds, rfl⟩ := mem_ends_only.1 hstart
    obtain ⟨stop, hstop, hlast⟩ := mem_ends_followedBy.1 hrest
    obtain ⟨run, hrun, hafter, hbefore⟩ := (hfirst start stop).1 hstop
    obtain ⟨end', hend, -⟩ := mem_ends_followedBy.1 hlast
    obtain ⟨hholds', -⟩ := mem_ends_only.1 hend
    refine ⟨start.before.reverse, run, stop.after, ?_, ?_, hrun, ?_⟩
    · rw [← hp, hafter, List.append_assoc]
    · rwa [List.reverse_reverse, ← hafter]
    · rwa [List.reverse_reverse, ← hbefore]
  · rintro ⟨before, run, after, rfl, hholds, hrun, hholds'⟩
    let start : Place := ⟨before.reverse, run ++ after⟩
    let stop : Place := ⟨run.reverse ++ before.reverse, after⟩
    refine ⟨start, stop, by simp [start], mem_ends_followedBy.2 ⟨start, mem_ends_only.2 ⟨hholds, rfl⟩, ?_⟩⟩
    refine mem_ends_followedBy.2 ⟨stop, (hfirst start stop).2 ⟨run, hrun, rfl, rfl⟩, ?_⟩
    exact mem_ends_followedBy.2 ⟨stop, mem_ends_only.2 ⟨hholds', rfl⟩, mem_ends_nothing.2 rfl⟩

/-- Where two patterns that spell something stand one after the other, the first of them at a place with a property. -/
theorem occursIn_iff (hfirst : Spells first IsFirst) (hsecond : Spells second IsSecond) {holds : Place → Bool}
    {code : List Char} :
    (followedBy (followedBy (only holds) first) second).occursIn code = true ↔
      ∃ before head tail after, code = before ++ head ++ tail ++ after ∧
        holds ⟨before.reverse, head ++ (tail ++ after)⟩ = true ∧ IsFirst head ∧ IsSecond tail := by
  rw [occursIn_followedBy_assoc, (hfirst.followedBy hsecond).occursIn_at_iff]
  constructor
  · rintro ⟨before, -, after, rfl, hholds, head, tail, rfl, hhead, htail⟩
    exact ⟨before, head, tail, after, by simp, by simpa using hholds, hhead, htail⟩
  · rintro ⟨before, head, tail, after, rfl, hholds, hhead, htail⟩
    exact ⟨before, head ++ tail, after, by simp, by simpa using hholds, head, tail, rfl, hhead, htail⟩

end Spells

end Pattern

end WorkerAdvisor
