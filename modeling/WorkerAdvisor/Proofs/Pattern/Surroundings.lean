import WorkerAdvisor.Signal
import WorkerAdvisor.Proofs.Pattern.Spelling
import WorkerAdvisor.Proofs.Text.Lines

/-!
Patterns in a text that other lines are put around.

Each place of the text is a place of the longer text (`Place.within`). If whole lines are put before the text and no
word of it goes on behind (`IsApart`), the places where words and lines begin and end are the same ones. A pattern that
looks at nothing else of its place is steady (`Pattern.IsSteady`): between two places of the text it matches in the
longer text if and only if it matches in the text (`Pattern.mem_ends_within_iff`). Hence it occurs in two joined texts
if it occurs in one of them, and only then if its matches hold no line feeds (`Pattern.occursIn_joined_iff`).
-/

set_option autoImplicit false

namespace WorkerAdvisor

namespace Place

/-- The place with more text before its text and behind it. -/
def within (front back : List Char) (p : Place) : Place := ⟨p.before ++ front.reverse, p.after ++ back⟩

theorem text_within (front back : List Char) (p : Place) : (p.within front back).text = front ++ p.text ++ back := by
  simp [text, within]

/-- Around a text nothing changes the steps within it. -/
theorem stepsOver_within {front back run : List Char} {p q : Place} :
    (p.within front back).StepsOver run (q.within front back) ↔ p.StepsOver run q := by
  simp only [StepsOver, within, ← List.append_assoc, List.append_left_inj]

/-- What lies between two places of a text is a place of that text. -/
theorem exists_within_of_stepsOver {front back head tail : List Char} {p q middle : Place}
    (hhead : (p.within front back).StepsOver head middle) (htail : middle.StepsOver tail (q.within front back)) :
    ∃ inner : Place, inner.within front back = middle := by
  refine ⟨⟨head.reverse ++ p.before, tail ++ q.after⟩, ?_⟩
  obtain ⟨before, after⟩ := middle
  have hbefore : before = head.reverse ++ (p.before ++ front.reverse) := hhead.2
  have hafter : after = tail ++ (q.after ++ back) := htail.1
  rw [within, hbefore, hafter, List.append_assoc, List.append_assoc]

end Place

/-! ### Steady patterns -/

/-- Whole lines stand before a text, and no word goes on behind it. -/
structure IsApart (front back : List Char) : Prop where
  front : front = [] ∨ ∃ lines, front = lines ++ ['\n']
  back : Place.startsWord back = false

/-- A condition that holds at a place of a text however many lines are put around the text. -/
def IsSteadyCondition (holds : Place → Bool) : Prop :=
  ∀ front back p, IsApart front back → holds (p.within front back) = holds p

/-- Lines begin at the same places if whole lines are put before the text. -/
theorem isSteadyCondition_atLineStart : IsSteadyCondition Place.atLineStart := by
  rintro front back ⟨_ | ⟨c, before⟩, after⟩ hapart
  · rcases hapart.front with rfl | ⟨lines, rfl⟩ <;> simp [Place.within, Place.atLineStart]
  · rfl

/-- Words begin and end at the same places if none goes on over the ends of the text. -/
theorem isSteadyCondition_atWordBoundary : IsSteadyCondition Place.atWordBoundary := by
  intro front back p hapart
  have hfront : Place.startsWord front.reverse = false := by
    rcases hapart.front with rfl | ⟨lines, rfl⟩
    · rfl
    · rw [List.reverse_append]
      change Text.isWordChar '\n' = false
      decide
  have hbefore : Place.startsWord (p.before ++ front.reverse) = Place.startsWord p.before := by
    cases p.before with
    | nil => exact hfront
    | cons c before => rfl
  have hafter : Place.startsWord (p.after ++ back) = Place.startsWord p.after := by
    cases p.after with
    | nil => exact hapart.back
    | cons c after => rfl
  rw [Place.atWordBoundary, Place.within, hbefore, hafter, Place.atWordBoundary]

namespace Pattern

/-- A pattern whose conditions are steady. -/
abbrev IsSteady (pattern : Pattern) : Prop := pattern.AllParts (fun _ ↦ True) IsSteadyCondition

/-- A pattern none of whose matches holds a line feed. -/
abbrev IsOneLine (pattern : Pattern) : Prop :=
  pattern.AllParts (fun holds ↦ ∀ c, holds c = true → c ≠ '\n') fun _ ↦ True

/-! ### Matches in the longer text -/

/-- Between two places of a text a steady pattern matches in the longer text as it does in the text. -/
theorem mem_ends_within_iff {pattern : Pattern} (hsteady : pattern.IsSteady) {front back : List Char}
    (hapart : IsApart front back) {p q : Place} :
    q.within front back ∈ pattern.ends (p.within front back) ↔ q ∈ pattern.ends p := by
  induction pattern generalizing p q with
  | nothing =>
    rw [mem_ends_nothing, mem_ends_nothing, ← Place.stepsOver_nil, ← Place.stepsOver_nil, Place.stepsOver_within]
  | single holds => simp only [mem_ends_single, Place.stepsOver_within]
  | many holds => simp only [mem_ends_many, Place.stepsOver_within]
  | followedBy first second ihFirst ihSecond =>
    rw [mem_ends_followedBy, mem_ends_followedBy]
    constructor
    · rintro ⟨middle, hmiddle, hq⟩
      obtain ⟨head, hhead⟩ := exists_stepsOver_of_mem_ends hmiddle
      obtain ⟨tail, htail⟩ := exists_stepsOver_of_mem_ends hq
      obtain ⟨inner, rfl⟩ := Place.exists_within_of_stepsOver hhead htail
      exact ⟨inner, (ihFirst hsteady.1).1 hmiddle, (ihSecond hsteady.2).1 hq⟩
    · rintro ⟨middle, hmiddle, hq⟩
      exact ⟨middle.within front back, (ihFirst hsteady.1).2 hmiddle, (ihSecond hsteady.2).2 hq⟩
  | either first second ihFirst ihSecond =>
    rw [mem_ends_either, mem_ends_either, ihFirst hsteady.1, ihSecond hsteady.2]
  | only holds =>
    rw [mem_ends_only, mem_ends_only, hsteady front back p hapart, ← Place.stepsOver_nil, ← Place.stepsOver_nil,
      Place.stepsOver_within]

/-- A steady pattern that occurs in a text occurs in it with more lines around it. -/
theorem occursIn_within {pattern : Pattern} (hsteady : pattern.IsSteady) {front back : List Char}
    (hapart : IsApart front back) {text : List Char} (hoccurs : pattern.occursIn text = true) :
    pattern.occursIn (front ++ text ++ back) = true := by
  obtain ⟨p, q, rfl, hends⟩ := occursIn_iff.1 hoccurs
  exact occursIn_iff.2 ⟨p.within front back, q.within front back, Place.text_within front back p,
    (mem_ends_within_iff hsteady hapart).2 hends⟩

end Pattern

/-! ### Two texts on lines of their own -/

/-- A stretch without a line feed lies in one of two joined texts. -/
theorem split_of_joined {before run after first second : List Char}
    (hsplit : before ++ (run ++ after) = first ++ '\n' :: second) (hrun : '\n' ∉ run) :
    (∃ rest, first = before ++ run ++ rest ∧ after = rest ++ '\n' :: second) ∨
      ∃ front, before = first ++ '\n' :: front ∧ second = front ++ run ++ after := by
  rcases List.append_eq_append_iff.1 hsplit with ⟨middle, hfirst, hmiddle⟩ | ⟨_ | ⟨c, front⟩, hbefore, hsecond⟩
  · obtain ⟨rest, rfl, hafter⟩ := exists_rest_of_append_eq hmiddle hrun
    exact .inl ⟨rest, by rw [hfirst, List.append_assoc], hafter⟩
  · have hstart : run ++ after = [] ++ '\n' :: second := hsecond.symm
    obtain ⟨rest, hnone, hafter⟩ := exists_rest_of_append_eq hstart hrun
    obtain ⟨rfl, rfl⟩ := List.append_eq_nil_iff.1 hnone.symm
    exact .inl ⟨[], by simpa using hbefore.symm, hafter⟩
  · obtain ⟨rfl, hrest⟩ := List.cons.inj hsecond
    exact .inr ⟨front, hbefore, hrest.trans (List.append_assoc ..).symm⟩

/-- What begins with a line feed stands apart from the text before it. -/
theorem isApart_line (back : List Char) : IsApart [] ('\n' :: back) := by
  refine ⟨.inl rfl, ?_⟩
  change Text.isWordChar '\n' = false
  decide

/-- Whole lines stand apart from the text behind them. -/
theorem isApart_lines (lines : List Char) : IsApart (lines ++ ['\n']) [] := ⟨.inr ⟨lines, rfl⟩, rfl⟩

namespace Pattern

/-- A steady pattern that occurs in one of two texts occurs in the joined text. -/
theorem occursIn_joined {pattern : Pattern} (hsteady : pattern.IsSteady) {first second : List Char}
    (hoccurs : pattern.occursIn first = true ∨ pattern.occursIn second = true) :
    pattern.occursIn (first ++ '\n' :: second) = true := by
  rcases hoccurs with hoccurs | hoccurs
  · exact occursIn_within hsteady (isApart_line second) hoccurs
  · simpa using occursIn_within hsteady (isApart_lines first) hoccurs

/-- A pattern whose matches hold no line feeds occurs in two joined texts only if it occurs in one of them. -/
theorem occursIn_joined_iff {pattern : Pattern} (hsteady : pattern.IsSteady) (hline : pattern.IsOneLine)
    {first second : List Char} :
    pattern.occursIn (first ++ '\n' :: second) = true ↔
      pattern.occursIn first = true ∨ pattern.occursIn second = true := by
  refine ⟨fun hoccurs ↦ ?_, occursIn_joined hsteady⟩
  obtain ⟨p, q, hp, hends⟩ := occursIn_iff.1 hoccurs
  obtain ⟨run, hrun, hafter, hbefore⟩ := exists_run_of_mem_ends hline hends
  have hfeed : '\n' ∉ run := fun hmem ↦ hrun '\n' hmem rfl
  rw [hafter] at hp
  obtain ⟨before, after⟩ := p
  obtain ⟨before', after'⟩ := q
  dsimp only at hp hafter hbefore
  rcases split_of_joined hp hfeed with ⟨rest, hfirst, hrest⟩ | ⟨front, hfront, hsecond⟩
  · left
    have hp' : (⟨before, after⟩ : Place) = Place.within [] ('\n' :: second) ⟨before, run ++ rest⟩ := by
      simp [Place.within, hafter, hrest]
    have hq' : (⟨before', after'⟩ : Place) = Place.within [] ('\n' :: second) ⟨before', rest⟩ := by
      simp [Place.within, hrest]
    rw [hp', hq', mem_ends_within_iff hsteady (isApart_line second)] at hends
    exact occursIn_iff.2 ⟨_, _, by simp [hfirst], hends⟩
  · right
    have hlines : before = front.reverse ++ (first ++ ['\n']).reverse := by
      rw [← List.reverse_append, ← List.reverse_reverse before, hfront]
      simp
    have hp' : (⟨before, after⟩ : Place) = Place.within (first ++ ['\n']) [] ⟨front.reverse, after⟩ := by
      rw [Place.within, hlines, List.append_nil]
    have hq' : (⟨before', after'⟩ : Place) =
        Place.within (first ++ ['\n']) [] ⟨run.reverse ++ front.reverse, after'⟩ := by
      rw [Place.within, hbefore, hlines, List.append_nil, List.append_assoc]
    rw [hp', hq', mem_ends_within_iff hsteady (isApart_lines first)] at hends
    exact occursIn_iff.2 ⟨_, _, by simp [hsecond, hafter], hends⟩

end Pattern

/-- A stretch without line feeds is in one of two joined texts, since it cannot go over the line feed between them. -/
theorem Text.occursIn_joined_iff {needle first second : List Char} (hneedle : '\n' ∉ needle) :
    Text.occursIn needle (first ++ '\n' :: second) = true ↔
      Text.occursIn needle first = true ∨ Text.occursIn needle second = true := by
  simp only [Text.occursIn_iff]
  constructor
  · rintro ⟨before, after, htext⟩
    rw [List.append_assoc] at htext
    rcases split_of_joined htext hneedle with ⟨rest, rfl, -⟩ | ⟨front, -, rfl⟩
    · exact .inl ⟨before, rest, rfl⟩
    · exact .inr ⟨front, after, rfl⟩
  · rintro (hfirst | hsecond)
    · exact hfirst.trans (List.prefix_append first _).isInfix
    · exact hsecond.trans (List.suffix_append_of_suffix (List.suffix_cons _ second)).isInfix

end WorkerAdvisor
