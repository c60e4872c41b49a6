import Mathlib.Data.List.Basic
import WorkerAdvisor.Report

/-!
A report depends on the order of the findings only within each severity.

`byUrgency` sorts findings by urgency and keeps the order among those that are equally urgent. It is the list of
the groups one after the other (`byUrgency_eq_groups`), and since a report is made of its groups, two lists
with the same groups have the same report (`render_congr`, `render_byUrgency`). What a report shows of a finding is
its severity, its title and its description (`Finding.content`).
-/

set_option autoImplicit false

namespace WorkerAdvisor

/-- What a report shows of a finding. -/
def Finding.content (finding : Finding) : Severity × String × String :=
  (finding.severity, finding.title, finding.description)

/-- Two severities are never equally urgent. -/
theorem Severity.rank_injective {first second : Severity} (hrank : first.rank = second.rank) : first = second := by
  cases first <;> cases second <;> first | rfl | cases hrank

namespace Report

/-- Whether a finding is at least as urgent as another one. -/
def isAsUrgent (first second : Finding) : Bool := first.severity.rank ≤ second.severity.rank

/-- The findings sorted by urgency; equally urgent ones keep their order. -/
def byUrgency (findings : List Finding) : List Finding := findings.mergeSort isAsUrgent

theorem isAsUrgent_trans (first second third : Finding) (hfirst : isAsUrgent first second = true)
    (hsecond : isAsUrgent second third = true) : isAsUrgent first third = true := by
  simp only [isAsUrgent, decide_eq_true_eq] at *
  omega

theorem isAsUrgent_total (first second : Finding) : (isAsUrgent first second || isAsUrgent second first) = true := by
  simp only [isAsUrgent, Bool.or_eq_true, decide_eq_true_eq]
  omega

/-- Sorted findings are in the order of urgency. -/
theorem pairwise_byUrgency (findings : List Finding) : (byUrgency findings).Pairwise (isAsUrgent · ·) :=
  List.pairwise_mergeSort isAsUrgent_trans isAsUrgent_total findings

/-! ### Groups -/

/-- A group has the findings of its severity. -/
theorem mem_group {severity : Severity} {findings : List Finding} {finding : Finding} :
    finding ∈ group severity findings ↔ finding ∈ findings ∧ finding.severity = severity := by
  simp [group]

theorem group_cons_self (finding : Finding) (findings : List Finding) :
    group finding.severity (finding :: findings) = finding :: group finding.severity findings := by
  simp [group]

theorem group_cons_of_ne {severity : Severity} {finding : Finding} (hseverity : finding.severity ≠ severity)
    (findings : List Finding) : group severity (finding :: findings) = group severity findings := by
  simp [group, hseverity]

/-- The group of findings one after the other is the groups one after the other. -/
theorem group_append (severity : Severity) (first second : List Finding) :
    group severity (first ++ second) = group severity first ++ group severity second :=
  List.filter_append first second

/-- The group of a group is the group itself, or empty for another severity. -/
theorem group_group (severity other : Severity) (findings : List Finding) :
    group severity (group other findings) = if severity = other then group severity findings else [] := by
  split
  · rename_i hsame
    subst hsame
    simp [group]
  · rename_i hother
    apply List.filter_eq_nil_iff.mpr
    intro finding hmem
    simpa [(mem_group.mp hmem).2] using Ne.symm hother

/-- The findings of a group are equally urgent. -/
theorem pairwise_group (severity : Severity) (findings : List Finding) :
    (group severity findings).Pairwise (isAsUrgent · ·) := by
  apply List.pairwise_of_forall_mem_list
  intro first hfirst second hsecond
  rw [mem_group] at hfirst hsecond
  simp [isAsUrgent, hfirst.2, hsecond.2]

/-- Sorting changes no group: a group is sorted, so that it is left in one piece, and no finding is added. -/
theorem group_byUrgency (severity : Severity) (findings : List Finding) :
    group severity (byUrgency findings) = group severity findings := by
  have hsublist : (group severity findings).Sublist (byUrgency findings) :=
    List.sublist_mergeSort isAsUrgent_trans isAsUrgent_total (pairwise_group severity findings)
      List.filter_sublist
  have hgroup : (group severity findings).Sublist (group severity (byUrgency findings)) := by
    simpa [group] using hsublist.filter fun finding ↦ decide (finding.severity = severity)
  have hlength : (group severity (byUrgency findings)).length = (group severity findings).length :=
    ((List.mergeSort_perm findings isAsUrgent).filter _).length_eq
  exact (hgroup.eq_of_length hlength.symm).symm

/-- A finding of a group stands in the list, so that it is no more urgent than the first of a sorted list. -/
theorem rank_head_le {head finding : Finding} {tail : List Finding}
    (hsorted : (head :: tail).Pairwise (isAsUrgent · ·)) (hmem : finding ∈ head :: tail) :
    head.severity.rank ≤ finding.severity.rank := by
  rcases List.mem_cons.mp hmem with rfl | htail
  · exact Nat.le_refl _
  · simpa [isAsUrgent] using List.rel_of_pairwise_cons hsorted htail

/-- Two sorted lists with the same groups are equal. -/
theorem eq_of_group_eq {first second : List Finding} (hfirst : first.Pairwise (isAsUrgent · ·))
    (hsecond : second.Pairwise (isAsUrgent · ·))
    (hgroup : ∀ severity, group severity first = group severity second) : first = second := by
  induction first generalizing second with
  | nil =>
    cases second with
    | nil => rfl
    | cons head tail => simpa [group] using hgroup head.severity
  | cons head tail ih =>
    cases second with
    | nil => simpa [group] using hgroup head.severity
    | cons other others =>
      have hhead : head ∈ other :: others := by
        have hmem : head ∈ group head.severity (head :: tail) := by simp [mem_group]
        exact (mem_group.mp (hgroup head.severity ▸ hmem)).1
      have hother : other ∈ head :: tail := by
        have hmem : other ∈ group other.severity (other :: others) := by simp [mem_group]
        exact (mem_group.mp ((hgroup other.severity).symm ▸ hmem)).1
      have hseverity : other.severity = head.severity :=
        Severity.rank_injective (Nat.le_antisymm (rank_head_le hsecond hhead) (rank_head_le hfirst hother))
      have hfronts := hgroup head.severity
      rw [group_cons_self, ← hseverity, group_cons_self] at hfronts
      obtain rfl : head = other := List.head_eq_of_cons_eq hfronts
      have htails : ∀ severity, group severity tail = group severity others := by
        intro severity
        have hwhole := hgroup severity
        by_cases hsame : head.severity = severity
        · subst hsame
          simpa [group_cons_self] using hwhole
        · simpa [group_cons_of_ne hsame] using hwhole
      rw [ih hfirst.of_cons hsecond.of_cons htails]

def groups (findings : List Finding) : List Finding :=
  Severity.all.flatMap fun severity ↦ group severity findings

/-- Each group is in the groups as it is in the findings. -/
theorem group_groups (severity : Severity) (findings : List Finding) :
    group severity (groups findings) = group severity findings := by
  cases severity <;> simp [groups, Severity.all, group_append, group_group]

/-- The groups one after the other are in the order of urgency. -/
theorem pairwise_groups (findings : List Finding) : (groups findings).Pairwise (isAsUrgent · ·) := by
  have hall : Severity.all.Pairwise fun first second ↦ first.rank ≤ second.rank := by decide
  refine List.pairwise_flatMap.mpr ⟨fun severity _ ↦ pairwise_group severity findings, hall.imp ?_⟩
  intro first second hrank finding hfinding other hother
  rw [mem_group] at hfinding hother
  simpa [isAsUrgent, hfinding.2, hother.2] using hrank

/-- The sorted findings are the groups one after the other. -/
theorem byUrgency_eq_groups (findings : List Finding) : byUrgency findings = groups findings :=
  eq_of_group_eq (pairwise_byUrgency findings) (pairwise_groups findings) fun severity ↦ by
    rw [group_byUrgency, group_groups]

/-- Every finding is in one group. -/
theorem length_groups (findings : List Finding) : (groups findings).length = findings.length := by
  rw [← byUrgency_eq_groups]
  exact List.length_mergeSort findings

/-! ### What a report is made of -/

theorem numberedLines_congr {first second : List Finding}
    (hcontent : first.map Finding.content = second.map Finding.content) (number : Nat) :
    numberedLines number first = numberedLines number second := by
  induction first generalizing second number with
  | nil =>
    cases second with
    | nil => rfl
    | cons other others => cases hcontent
  | cons finding findings ih =>
    cases second with
    | nil => cases hcontent
    | cons other others =>
      simp only [List.map_cons, List.cons.injEq, Finding.content, Prod.mk.injEq] at hcontent
      obtain ⟨⟨-, htitle, hdescription⟩, hrest⟩ := hcontent
      simp only [numberedLines, findingLines, htitle, hdescription, ih hrest]

/-- The lines of a group are made of what is shown of its findings. -/
theorem groupLines_congr {severity : Severity} {first second : List Finding}
    (hcontent : first.map Finding.content = second.map Finding.content) :
    groupLines severity first = groupLines severity second := by
  have hlength : first.length = second.length := by simpa using congrArg List.length hcontent
  simp only [groupLines, List.isEmpty_iff_length_eq_zero, hlength, numberedLines_congr hcontent]

/-- Every finding is in one group, so that groups of equal lengths come from lists of equal lengths. -/
theorem length_congr {first second : List Finding}
    (hgroup : ∀ severity, (group severity first).length = (group severity second).length) :
    first.length = second.length := by
  rw [← length_groups first, ← length_groups second, groups, groups, List.length_flatMap, List.length_flatMap]
  simp only [hgroup]

/-- Findings with the same contents in each group have the same report. -/
theorem render_congr {first second : List Finding}
    (hcontent : ∀ severity, (group severity first).map Finding.content = (group severity second).map Finding.content) :
    render first = render second := by
  have hlength : first.length = second.length := length_congr fun severity ↦ by
    simpa using congrArg List.length (hcontent severity)
  have hlines : lines first = lines second := by
    simp only [lines, hlength, groupLines_congr (hcontent _)]
  simp only [render, hlines, List.isEmpty_iff_length_eq_zero, hlength]

/-- Sorting by urgency does not change the report. -/
theorem render_byUrgency (findings : List Finding) : render (byUrgency findings) = render findings :=
  render_congr fun severity ↦ by rw [group_byUrgency]

end Report

end WorkerAdvisor
