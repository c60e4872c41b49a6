import WorkerAdvisor.Text.WordChar

/-!
Patterns of text, and the search for one.

A pattern matches between two places of a text. Since only the existence of a match is ever asked for, a
pattern denotes the list of all places where a match from a given place can end, and repetition has no
greedy or lazy kind. Repetition is over single characters, so `Pattern.ends` needs no bound.

The lemmas `mem_ends_*` say for each constructor which stretch of text it matches, and `occursIn_iff` says
that a pattern occurs in a text if it matches from some place of it.
-/

set_option autoImplicit false

namespace WorkerAdvisor

/-- A place in a text: the characters before it, nearest first, and the characters after it. -/
structure Place where
  before : List Char
  after : List Char
  deriving DecidableEq

namespace Place

/-- The place further on by `run`, if that is what follows. -/
def StepsOver (p : Place) (run : List Char) (q : Place) : Prop :=
  p.after = run ++ q.after ∧ q.before = run.reverse ++ p.before

/-- The places that are reached over characters with a property, the place itself first. -/
def reachOver (holds : Char → Bool) (before : List Char) : List Char → List Place
  | [] => [⟨before, []⟩]
  | c :: rest =>
    ⟨before, c :: rest⟩ :: if holds c then reachOver holds (c :: before) rest else []

/-- All places of a text, from its start to its end. -/
def all (text : List Char) : List Place := reachOver (fun _ ↦ true) [] text

/-- Whether a list of characters starts with a word character. -/
def startsWord : List Char → Bool
  | [] => false
  | c :: _ => Text.isWordChar c

/-- Whether a word begins or ends at the place. -/
def atWordBoundary (p : Place) : Bool := startsWord p.before != startsWord p.after

def atLineStart (p : Place) : Bool :=
  match p.before with
  | [] => true
  | c :: _ => c == '\n'

end Place

/-- A pattern of text. -/
inductive Pattern
  /-- Matches the empty stretch. -/
  | nothing
  /-- Matches one character with a property. -/
  | single (holds : Char → Bool)
  /-- Matches any number of characters with a property, also none. -/
  | many (holds : Char → Bool)
  | followedBy (first second : Pattern)
  | either (first second : Pattern)
  /-- Matches the empty stretch at a place with a property. -/
  | only (holds : Place → Bool)

namespace Pattern

/-- The places where a match of the pattern from a place can end. -/
def ends : Pattern → Place → List Place
  | nothing, p => [p]
  | single holds, p =>
    match p.after with
    | [] => []
    | c :: rest => if holds c then [⟨c :: p.before, rest⟩] else []
  | many holds, p => Place.reachOver holds p.before p.after
  | followedBy first second, p => (first.ends p).flatMap second.ends
  | either first second, p => first.ends p ++ second.ends p
  | only holds, p => if holds p then [p] else []

/-- Whether the pattern matches somewhere in a text. -/
def occursIn (pattern : Pattern) (text : List Char) : Bool :=
  (Place.all text).any fun p ↦ !(pattern.ends p).isEmpty

/-! ### Derived patterns -/

def sequence : List Pattern → Pattern
  | [] => nothing
  | pattern :: patterns => followedBy pattern (sequence patterns)

/-- Any pattern of a list that is not empty. -/
def anyOf : Pattern → List Pattern → Pattern
  | pattern, [] => pattern
  | pattern, next :: patterns => either pattern (anyOf next patterns)

def optional (pattern : Pattern) : Pattern := either pattern nothing

def literalChars (cs : List Char) : Pattern := sequence (cs.map fun c ↦ single (· == c))

def literal (content : String) : Pattern := literalChars content.toList

/-- One or more characters with a property. -/
def many1 (holds : Char → Bool) : Pattern := followedBy (single holds) (many holds)

def wordBoundary : Pattern := only Place.atWordBoundary

def lineStart : Pattern := only Place.atLineStart

def notAfterWord : Pattern := only fun p ↦ !Place.startsWord p.before

def notBeforeWord : Pattern := only fun p ↦ !Place.startsWord p.after

/-! ### What the constructors match -/

/-- What is reached over characters of a class are the places behind runs of them. -/
theorem mem_reachOver {holds : Char → Bool} {before after : List Char} {q : Place} :
    q ∈ Place.reachOver holds before after ↔
      ∃ run, (∀ c ∈ run, holds c = true) ∧ Place.StepsOver ⟨before, after⟩ run q := by
  induction after generalizing before with
  | nil =>
    simp only [Place.reachOver, List.mem_singleton, Place.StepsOver]
    constructor
    · rintro rfl
      exact ⟨[], by simp⟩
    · rintro ⟨run, -, hafter, hbefore⟩
      obtain ⟨rfl, hq⟩ := List.append_eq_nil_iff.1 hafter.symm
      obtain ⟨qbefore, qafter⟩ := q
      subst hq hbefore
      rfl
  | cons c rest ih =>
    simp only [Place.reachOver, List.mem_cons, Place.StepsOver]
    constructor
    · rintro (rfl | hmem)
      · exact ⟨[], by simp⟩
      · split at hmem
        · rename_i hc
          obtain ⟨run, hrun, hafter, hbefore⟩ := ih.1 hmem
          refine ⟨c :: run, ?_, ?_, ?_⟩
          · simpa [hc] using hrun
          · simpa using hafter
          · simpa using hbefore
        · simp at hmem
    · rintro ⟨run, hrun, hafter, hbefore⟩
      cases run with
      | nil =>
        left
        obtain ⟨qbefore, qafter⟩ := q
        simp only [List.nil_append] at hafter
        subst hafter hbefore
        rfl
      | cons d run =>
        obtain ⟨rfl, hrest⟩ := List.cons.inj hafter
        right
        have hc : holds c = true := hrun c (by simp)
        rw [if_pos hc]
        exact ih.2 ⟨run, fun x hx ↦ hrun x (by simp [hx]), hrest, by simpa using hbefore⟩

theorem mem_ends_nothing {p q : Place} : q ∈ nothing.ends p ↔ q = p := by simp [ends]

theorem mem_ends_single {holds : Char → Bool} {p q : Place} :
    q ∈ (single holds).ends p ↔ ∃ c, holds c = true ∧ p.StepsOver [c] q := by
  obtain ⟨before, after⟩ := p
  obtain ⟨qbefore, qafter⟩ := q
  cases after with
  | nil => simp [ends, Place.StepsOver]
  | cons c rest =>
    by_cases hc : holds c = true
    · simp only [ends, hc, if_true, List.mem_singleton, Place.mk.injEq, Place.StepsOver]
      constructor
      · rintro ⟨rfl, rfl⟩
        exact ⟨c, hc, by simp⟩
      · rintro ⟨d, -, hafter, hbefore⟩
        simp_all
    · simp only [ends, hc, Place.StepsOver]
      simp only [Bool.false_eq_true, if_false, List.not_mem_nil, false_iff]
      rintro ⟨d, hd, hafter, -⟩
      simp_all

theorem mem_ends_many {holds : Char → Bool} {p q : Place} :
    q ∈ (many holds).ends p ↔ ∃ run, (∀ c ∈ run, holds c = true) ∧ p.StepsOver run q := by
  simp [ends, mem_reachOver]

theorem mem_ends_followedBy {first second : Pattern} {p q : Place} :
    q ∈ (followedBy first second).ends p ↔ ∃ middle ∈ first.ends p, q ∈ second.ends middle := by
  simp [ends]

theorem mem_ends_either {first second : Pattern} {p q : Place} :
    q ∈ (either first second).ends p ↔ q ∈ first.ends p ∨ q ∈ second.ends p := by
  simp [ends]

theorem mem_ends_only {holds : Place → Bool} {p q : Place} :
    q ∈ (only holds).ends p ↔ holds p = true ∧ q = p := by
  by_cases h : holds p = true <;> simp [ends, h]

/-- The places of a text are the ways to cut it in two. -/
theorem mem_all {text : List Char} {p : Place} :
    p ∈ Place.all text ↔ p.before.reverse ++ p.after = text := by
  simp only [Place.all, mem_reachOver, implies_true, true_and, Place.StepsOver]
  constructor
  · rintro ⟨run, hafter, hbefore⟩
    simp_all
  · rintro rfl
    exact ⟨p.before.reverse, by simp⟩

/-- A pattern occurs in a text exactly if it matches from some place of it. -/
theorem occursIn_iff {pattern : Pattern} {text : List Char} :
    pattern.occursIn text = true ↔
      ∃ p q : Place, p.before.reverse ++ p.after = text ∧ q ∈ pattern.ends p := by
  simp only [occursIn, List.any_eq_true, mem_all]
  constructor
  · rintro ⟨p, hp, hends⟩
    cases hlist : pattern.ends p with
    | nil => simp [hlist] at hends
    | cons q others => exact ⟨p, q, hp, by simp [hlist]⟩
  · rintro ⟨p, q, hp, hq⟩
    refine ⟨p, hp, ?_⟩
    cases hlist : pattern.ends p with
    | nil => simp [hlist] at hq
    | cons r others => simp

end Pattern

end WorkerAdvisor
